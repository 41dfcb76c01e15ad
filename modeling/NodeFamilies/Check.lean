import NodeFamilies.Grammar.Basic
import NodeFamilies.Payload
import NodeFamilies.Problem
import NodeFamilies.Table

/-!
# Checking a grammar

Every problem of a grammar, in the order of its declarations: first of the families, each
followed by its variants and their payloads, and of the root at the end.
-/

namespace NodeFamilies

/-- How far the checks have come: the problems that have been found, and a number under every name
that has been passed. -/
structure Scan where
  found : List Problem
  numbers : List (String × Nat)
  deriving DecidableEq, Repr

/-! ## Variants -/

def Variant.nameProblems (v : Variant) (family : String) : List Problem :=
  if !Naming.isIdentifier v.name then [.badVariantName family v.name]
  else if Naming.isReserved v.name then [.reservedVariantName family v.name]
  else []

def Variant.payloadProblems (v : Variant) (family : String) : List Problem :=
  v.payloads.zipIdx.flatMap fun (payload, position) =>
    if Payload.isBlank payload then [.emptyPayload family v.name position]
    else if Payload.embeds payload family then
      [.recursiveByValue family v.name position payload]
    else []

/-- A name is counted. It is reported when it comes for the second time, and not again. -/
def Variant.scan (v : Variant) (family : String) (s : Scan) : Scan :=
  let count := (s.numbers.lookup v.name).getD 0 + 1
  let repeated := if count = 2 then [.duplicateVariant family v.name] else []
  ⟨s.found ++ v.nameProblems family ++ repeated ++ v.payloadProblems family,
    Table.put v.name count s.numbers⟩

/-! ## Families -/

def Family.nameProblems (f : Family) : List Problem :=
  if !Naming.isIdentifier f.name then [.badFamilyName f.name]
  else if Naming.isReservedFamily f.name then
    [.reservedFamilyName f.name (Naming.union f.name)]
  else []

/-- The names of the variants are counted in each family afresh. -/
def Family.scanVariants (f : Family) (found : List Problem) : Scan :=
  f.variants.foldl (fun s v => v.scan f.name s) ⟨found, []⟩

/-- A union keeps the index of its first family, and is reported against it wherever it comes
again. -/
def Family.scan (f : Family) (index : Nat) (s : Scan) : Scan :=
  let union := Naming.union f.name
  match s.numbers.lookup union with
  | some first =>
    let repeated := [.duplicateFamily union first index]
    ⟨(f.scanVariants (s.found ++ f.nameProblems ++ repeated)).found, s.numbers⟩
  | none =>
    ⟨(f.scanVariants (s.found ++ f.nameProblems)).found, Table.put union index s.numbers⟩

/-! ## Grammars -/

namespace Grammar

def scanFamilies (g : Grammar) (found : List Problem) : Scan :=
  g.families.zipIdx.foldl (fun s (f, index) => f.scan index s) ⟨found, []⟩

/-- All problems. The root has to have one of the unions that have been passed. -/
def check (g : Grammar) : List Problem :=
  let s := g.scanFamilies (if g.families.isEmpty then [.noFamilies] else [])
  match s.numbers.lookup (Naming.union g.root.family) with
  | some _ => s.found
  | none => s.found ++ [.unknownRoot g.root.family]

/-- Whether a grammar passes all checks; otherwise the problems. -/
def ensureWellFormed (g : Grammar) : Except (List Problem) Unit :=
  if g.check.isEmpty then .ok () else .error g.check

theorem ensureWellFormed_eq_error_iff {g : Grammar} {ps : List Problem} :
    g.ensureWellFormed = .error ps ↔ g.check ≠ [] ∧ ps = g.check := by
  unfold ensureWellFormed
  cases g.check <;> simp [eq_comm]

end Grammar

end NodeFamilies
