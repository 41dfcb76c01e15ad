/-!
# What a document is to hold

A schema describes the documents that stand for the values of a type. A record is written as an
object with its fields in any order, or as a list with its fields in the order of the schema.
-/

namespace NodeFamilies.Json

mutual

inductive Schema : Type → Type 1 where
  | text : Schema String
  /-- A number below 256. -/
  | byte : Schema Nat
  /-- A name out of several, each with the value it stands for. -/
  | choice {α : Type} (options : List (String × α)) : Schema α
  | list {α : Type} (item : Schema α) : Schema (List α)
  /-- An object with arbitrary keys. -/
  | table {α : Type} (item : Schema α) : Schema (List (String × α))
  /-- A closed record refuses all other keys, an open one passes over them. -/
  | record {α β σ : Type} (title : String) (closed : Bool) (fields : Fields β σ) (build : β → α) :
    Schema α

/-- The fields of a record. The first type is that of their values, as nested pairs; the second
one says which of them have been read. A field with a fallback may be left out. -/
inductive Fields : Type → Type → Type 1 where
  | none : Fields Unit Unit
  | field {α β σ : Type} (key : String) (fallback : Option α) (item : Schema α)
    (rest : Fields β σ) : Fields (α × β) (Option α × σ)

end

namespace Fields

/-- The keys in the order of the schema. -/
def keys {β σ : Type} : Fields β σ → List String
  | .none => []
  | .field key _ _ rest => key :: rest.keys

/-- A record of which nothing has been read. -/
def unread {β σ : Type} : Fields β σ → σ
  | .none => ()
  | .field _ _ _ rest => (Option.none, rest.unread)

/-- Whether the field of that key has been read. -/
def isRead {β σ : Type} (key : String) : Fields β σ → σ → Bool
  | .none, _ => false
  | .field k _ _ rest, (slot, slots) => if k = key then slot.isSome else rest.isRead key slots

/-- The whole record, or the first key that is missing. -/
def complete {β σ : Type} : Fields β σ → σ → Except String β
  | .none, _ => .ok ()
  | .field key fallback _ rest, (slot, slots) =>
    match slot <|> fallback with
    | some a => do return (a, ← rest.complete slots)
    | Option.none => .error key

/-- The record whose fields are all left out, or the position of the first one that must not be. -/
def fallbacks {β σ : Type} (position : Nat) : Fields β σ → Except Nat β
  | .none => .ok ()
  | .field _ fallback _ rest =>
    match fallback with
    | some a => do return (a, ← rest.fallbacks (position + 1))
    | Option.none => .error position

end Fields

end NodeFamilies.Json
