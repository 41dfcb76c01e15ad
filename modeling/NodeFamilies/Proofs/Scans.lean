import Mathlib.Data.List.Basic
import Mathlib.Data.List.Induction
import NodeFamilies.Check

/-!
# One pass over the declarations

The checks go over the declarations once, with the names behind them in a table. What they say of a
declaration is settled by these names alone: how often the name of a variant has come in its family,
and where a union has stood first.
-/

namespace NodeFamilies

/-! ## Problems behind earlier names -/

/-- A name is reported where it occurs for the second time, and not again. -/
def Variant.duplicateProblems (v : Variant) (family : String) (earlier : List String) :
    List Problem :=
  if earlier.count v.name = 1 then [.duplicateVariant family v.name] else []

/-- The problems of a variant that stands behind variants of the names `earlier`. -/
def Variant.problems (v : Variant) (family : String) (earlier : List String) : List Problem :=
  v.nameProblems family ++ v.duplicateProblems family earlier ++ v.payloadProblems family

def Family.variantNames (f : Family) : List String := f.variants.map (·.name)

def Family.variantProblems (f : Family) : List Problem :=
  f.variants.zipIdx.flatMap fun (v, k) => v.problems f.name (f.variantNames.take k)

/-- A union is reported wherever it occurs again, against its first occurrence. -/
def Family.duplicateProblems (f : Family) (earlier : List String) : List Problem :=
  match earlier.idxOf? (Naming.union f.name) with
  | some first => [.duplicateFamily (Naming.union f.name) first earlier.length]
  | none => []

/-- The problems of a family that stands behind families of the unions `earlier`. -/
def Family.problems (f : Family) (earlier : List String) : List Problem :=
  f.nameProblems ++ f.duplicateProblems earlier ++ f.variantProblems

namespace Grammar

/-- The unions in the order of the families. -/
def unions (g : Grammar) : List String := g.families.map fun f => Naming.union f.name

def familyProblems (g : Grammar) : List Problem :=
  g.families.zipIdx.flatMap fun (f, i) => f.problems (g.unions.take i)

def rootProblems (g : Grammar) : List Problem :=
  if g.unions.contains (Naming.union g.root.family) then [] else [.unknownRoot g.root.family]

end Grammar

/-! ## One more declaration -/

theorem flatMap_zipIdx_concat {α β γ : Type} (key : α → β) (report : α → List β → List γ)
    (l : List α) (a : α) :
    ((l ++ [a]).zipIdx.flatMap fun (x, i) => report x (((l ++ [a]).map key).take i)) =
      (l.zipIdx.flatMap fun (x, i) => report x ((l.map key).take i)) ++ report a (l.map key) := by
  have hbefore : ∀ q ∈ l.zipIdx, report q.1 (((l ++ [a]).map key).take q.2) =
      report q.1 ((l.map key).take q.2) := by
    rintro ⟨x, i⟩ hx
    have hi : i < l.length := by simpa using List.snd_lt_of_mem_zipIdx hx
    rw [List.map_append, List.take_append_of_le_length (by simpa using Nat.le_of_lt hi)]
  rw [List.zipIdx_append, List.flatMap_append, List.flatMap_congr hbefore]
  simp

namespace Family

theorem push_induction {motive : Family → Prop} (empty : ∀ name, motive ⟨name, []⟩)
    (push : ∀ f v, motive f → motive (f.push v)) (f : Family) : motive f := by
  obtain ⟨name, variants⟩ := f
  induction variants using List.reverseRecOn with
  | nil => exact empty name
  | append_singleton vs v ih => exact push ⟨name, vs⟩ v ih

theorem getElem?_variantNames_eq_some_iff {f : Family} {k : Nat} {name : String} :
    f.variantNames[k]? = some name ↔ ∃ v, f.variants[k]? = some v ∧ v.name = name := by
  rw [variantNames, List.getElem?_map, Option.map_eq_some_iff]

variable (f : Family) (v : Variant)

theorem variantNames_push : (f.push v).variantNames = f.variantNames ++ [v.name] := by
  simp [variantNames, push]

theorem variantProblems_push : (f.push v).variantProblems =
    f.variantProblems ++ v.problems f.name f.variantNames :=
  flatMap_zipIdx_concat (fun v : Variant => v.name)
    (fun v earlier => v.problems f.name earlier) f.variants v

theorem scanVariants_push (found : List Problem) :
    (f.push v).scanVariants found = v.scan f.name (f.scanVariants found) := by
  simp [scanVariants, push]

end Family

namespace Grammar

theorem push_induction {motive : Grammar → Prop}
    (empty : ∀ stem root scanner, motive ⟨stem, root, scanner, []⟩)
    (push : ∀ g f, motive g → motive (g.push f)) (g : Grammar) : motive g := by
  obtain ⟨stem, root, scanner, families⟩ := g
  induction families using List.reverseRecOn with
  | nil => exact empty stem root scanner
  | append_singleton fs f ih => exact push ⟨stem, root, scanner, fs⟩ f ih

theorem getElem?_unions_eq_some_iff {g : Grammar} {i : Nat} {union : String} :
    g.unions[i]? = some union ↔ ∃ f, g.families[i]? = some f ∧ Naming.union f.name = union := by
  rw [unions, List.getElem?_map, Option.map_eq_some_iff]

variable (g : Grammar) (f : Family)

theorem unions_push : (g.push f).unions = g.unions ++ [Naming.union f.name] := by
  simp [unions, push]

theorem length_unions : g.unions.length = g.families.length := List.length_map ..

theorem familyProblems_push : (g.push f).familyProblems = g.familyProblems ++ f.problems g.unions :=
  flatMap_zipIdx_concat (fun f : Family => Naming.union f.name) Family.problems g.families f

theorem scanFamilies_push (found : List Problem) :
    (g.push f).scanFamilies found = f.scan g.families.length (g.scanFamilies found) := by
  simp [scanFamilies, push, List.zipIdx_append]

end Grammar

/-! ## The tables -/

/-- Every name has the number of times that it stands among the names. -/
def Counted (names : List String) (numbers : List (String × Nat)) : Prop :=
  ∀ name, (numbers.lookup name).getD 0 = names.count name

/-- Every name has the index of its first place among the names. -/
def Placed (names : List String) (numbers : List (String × Nat)) : Prop :=
  ∀ name, numbers.lookup name = names.idxOf? name

section

variable {names : List String} {numbers : List (String × Nat)}

theorem Counted.put (h : Counted names numbers) (name : String) :
    Counted (names ++ [name]) (Table.put name (names.count name + 1) numbers) := by
  intro other
  rw [Table.lookup_put, List.count_append, List.count_singleton]
  by_cases hother : other = name
  · simp [hother]
  · simp [hother, Ne.symm hother, h other]

theorem idxOf?_concat (names : List String) (name other : String) :
    (names ++ [name]).idxOf? other =
      (names.idxOf? other).or (if other = name then some names.length else none) := by
  unfold List.idxOf?
  rw [List.findIdx?_append]
  by_cases h : other = name
  · simp [h]
  · simp [h, Ne.symm h]

theorem Placed.of_mem (h : Placed names numbers) {name : String} {first : Nat}
    (hfirst : names.idxOf? name = some first) : Placed (names ++ [name]) numbers := by
  intro other
  rw [h other, idxOf?_concat]
  by_cases hother : other = name
  · rw [hother, hfirst]
    rfl
  · rw [if_neg hother, Option.or_none]

theorem Placed.put (h : Placed names numbers) {name : String} (hnew : names.idxOf? name = none) :
    Placed (names ++ [name]) (Table.put name names.length numbers) := by
  intro other
  rw [Table.lookup_put, idxOf?_concat, h other]
  by_cases hother : other = name
  · rw [if_pos hother, if_pos hother, hother, hnew]
    rfl
  · rw [if_neg hother, if_neg hother, Option.or_none]

end

/-! ## The pass -/

theorem Variant.scan_of_counted {s : Scan} {earlier : List String} (h : Counted earlier s.numbers)
    (v : Variant) (family : String) :
    (v.scan family s).found = s.found ++ v.problems family earlier ∧
      Counted (earlier ++ [v.name]) (v.scan family s).numbers := by
  unfold scan problems duplicateProblems
  rw [h v.name]
  refine ⟨?_, h.put v.name⟩
  simp

theorem Family.scanVariants_eq (f : Family) (found : List Problem) :
    (f.scanVariants found).found = found ++ f.variantProblems ∧
      Counted f.variantNames (f.scanVariants found).numbers := by
  -- From the left: when a variant comes, the table has counted the names of those before it.
  induction f using Family.push_induction with
  | empty name => exact ⟨(List.append_nil found).symm, fun _ => rfl⟩
  | push f v ih =>
    obtain ⟨hfound, hcounted⟩ := ih
    obtain ⟨hfound', hcounted'⟩ := Variant.scan_of_counted hcounted v f.name
    rw [scanVariants_push, variantProblems_push, variantNames_push, hfound', hfound]
    exact ⟨List.append_assoc .., hcounted'⟩

theorem Family.scan_of_placed {s : Scan} {earlier : List String} (h : Placed earlier s.numbers)
    (f : Family) :
    (f.scan earlier.length s).found = s.found ++ f.problems earlier ∧
      Placed (earlier ++ [Naming.union f.name]) (f.scan earlier.length s).numbers := by
  unfold scan problems duplicateProblems
  dsimp only
  rw [h]
  cases hfirst : earlier.idxOf? (Naming.union f.name) with
  | some first =>
    refine ⟨?_, h.of_mem hfirst⟩
    simp only [(f.scanVariants_eq _).1, List.append_assoc]
  | none =>
    refine ⟨?_, h.put hfirst⟩
    simp only [(f.scanVariants_eq _).1, List.append_assoc, List.nil_append]

namespace Grammar

theorem scanFamilies_eq (g : Grammar) (found : List Problem) :
    (g.scanFamilies found).found = found ++ g.familyProblems ∧
      Placed g.unions (g.scanFamilies found).numbers := by
  induction g using Grammar.push_induction with
  | empty stem root scanner => exact ⟨(List.append_nil found).symm, fun _ => rfl⟩
  | push g f ih =>
    obtain ⟨hfound, hplaced⟩ := ih
    obtain ⟨hfound', hplaced'⟩ := Family.scan_of_placed hplaced f
    rw [length_unions] at hfound' hplaced'
    rw [scanFamilies_push, familyProblems_push, unions_push, hfound', hfound]
    exact ⟨List.append_assoc .., hplaced'⟩

/-- The tables give for every declaration what the names before it give. -/
theorem check_eq (g : Grammar) :
    g.check = (if g.families.isEmpty then [.noFamilies] else []) ++ g.familyProblems ++
      g.rootProblems := by
  obtain ⟨hfound, hplaced⟩ := g.scanFamilies_eq (if g.families.isEmpty then [.noFamilies] else [])
  unfold check rootProblems
  dsimp only
  rw [hplaced, hfound]
  cases hroot : g.unions.idxOf? (Naming.union g.root.family) with
  | some first =>
    have hmem : Naming.union g.root.family ∈ g.unions := by
      simp [← List.isSome_idxOf?, hroot]
    rw [if_pos (List.contains_iff_mem.mpr hmem), List.append_nil]
  | none =>
    have hnew : Naming.union g.root.family ∉ g.unions := List.idxOf?_eq_none_iff.mp hroot
    rw [if_neg (mt List.contains_iff_mem.mp hnew)]

end Grammar

end NodeFamilies
