import NodeFamilies.Json.Read
import NodeFamilies.Proofs.Json.Value
import Mathlib.Data.List.Forall2

/-!
# Values that encode

What a schema says of a value, without reading: the value as a tree encodes what the schema
describes. The members of an object may stand in any order, and its keys may be spelled with any
escapes.
-/

namespace NodeFamilies.Json

/-- A name out of several is a text, or the key of an object whose one member is null. -/
def Chosen {α : Type} (options : List (String × α)) (v : Value) (a : α) : Prop :=
  ∃ n, options.lookup n = some a ∧ (v = .text n ∨ v = .object [(n, .null)])

mutual

def Schema.Encodes {α : Type} : Schema α → Value → α → Prop
  | .text, v, s => v = .text s
  | .byte, v, n => ∃ literal, v = .number literal ∧ readByte literal = .ok (n, [])
  | .choice options, v, a => Chosen options v a
  | .list item, v, as => ∃ vs, v = .list vs ∧ List.Forall₂ item.Encodes vs as
  | .table item, v, as =>
    ∃ ms, v = .object ms ∧ List.Forall₂ (fun m a => m.1 = a.1 ∧ item.Encodes m.2 a.2) ms as
  | .record _ closed fields build, v, a =>
    ∃ b, build b = a ∧
      ((∃ vs, v = .list vs ∧ fields.EncodesRow vs b) ∨
        ∃ ms known others, v = .object ms ∧ ms.Perm (known ++ others) ∧
          fields.EncodesMembers known b ∧
          if closed then others = [] else ∀ m ∈ others, m.1 ∉ fields.keys)

/-- The values of a record in order; only at the end may some be left out. -/
def Fields.EncodesRow {β σ : Type} : Fields β σ → List Value → β → Prop
  | .none, vs, _ => vs = []
  | .field _ fallback item rest, vs, (a, b) =>
    match vs with
    | v :: vs => item.Encodes v a ∧ rest.EncodesRow vs b
    | [] => fallback = some a ∧ rest.EncodesRow [] b

/-- The members of a record in order, without those that are left out. -/
def Fields.EncodesMembers {β σ : Type} : Fields β σ → List (String × Value) → β → Prop
  | .none, ms, _ => ms = []
  | .field key fallback item rest, ms, (a, b) =>
    (∃ v ms', ms = (key, v) :: ms' ∧ item.Encodes v a ∧ rest.EncodesMembers ms' b) ∨
      (fallback = some a ∧ rest.EncodesMembers ms b)

end

theorem Fields.induction {motive : {β σ : Type} → Fields β σ → Prop} (none : motive .none)
    (field : ∀ {α β σ : Type} (key : String) (fallback : Option α) (item : Schema α)
      (rest : Fields β σ), motive rest → motive (.field key fallback item rest)) :
    ∀ {β σ : Type} (fields : Fields β σ), motive fields
  | _, _, .none => none
  | _, _, .field key fallback item rest => field key fallback item rest (rest.induction none field)

end NodeFamilies.Json
