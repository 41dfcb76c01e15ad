import NodeFamilies.Text.Utf8

/-!
# Writing until something fails

A writer takes bytes and may refuse some of them. Pieces are handed to it one after the other,
and the first refusal ends the writing.
-/

namespace NodeFamilies

/-- What a writer is left as, and why it refused if it did. -/
abbrev Written (ω ε : Type) := ω × Option ε

/-- Hands over the pieces up to the first that is refused. -/
def writeAll {ω ε : Type} (put : ω → Bytes → Written ω ε) (w : ω) : List Bytes → Written ω ε
  | [] => (w, none)
  | piece :: pieces =>
    match put w piece with
    | (w, none) => writeAll put w pieces
    | (w, some e) => (w, some e)

/-! ## A writer with a limit -/

/-- How a writer refuses bytes: it fails, or it takes none of them. -/
inductive Refusal where
  | failing
  | takingNone
  deriving DecidableEq, Repr

/-- A writer that holds at most `limit` bytes, if there is a limit. -/
structure Quota where
  limit : Option Nat
  refusal : Refusal
  held : Bytes
  deriving DecidableEq, Repr

namespace Quota

/-- How many of `count` further bytes fit. -/
def room (q : Quota) (count : Nat) : Nat :=
  match q.limit with
  | none => count
  | some limit => min count (limit - q.held.length)

/-- Takes as much of the data as fits; it refuses if something is left over. -/
def put (q : Quota) (data : Bytes) : Written Quota Refusal :=
  ({ q with held := q.held ++ data.take (q.room data.length) },
    if q.room data.length < data.length then some q.refusal else none)

/-- Writes texts into the quota, up to the first refusal. -/
def write (q : Quota) (pieces : List String) : Written Quota Refusal :=
  writeAll put q (pieces.map Text.utf8)

end Quota

end NodeFamilies
