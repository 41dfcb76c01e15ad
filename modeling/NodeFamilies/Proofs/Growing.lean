import NodeFamilies.Proofs.Duplicates

/-!
# Growing grammars

What the checks say of a declaration depends on the declarations before it only. So a family that is
put behind all others, or a variant behind those of its family, adds problems of its own in one place
and takes none away.
-/

namespace NodeFamilies

open Problem (others)

/-! ## What a problem names -/

namespace Problem

def family? : Problem → Option String
  | noFamilies => none
  | badFamilyName family => some family
  | reservedFamilyName family _ => some family
  | duplicateFamily _ _ _ => none
  | badVariantName family _ => some family
  | reservedVariantName family _ => some family
  | duplicateVariant family _ => some family
  | emptyPayload family _ _ => some family
  | recursiveByValue family _ _ _ => some family
  | unknownRoot family => some family

def variant? : Problem → Option String
  | badVariantName _ variant => some variant
  | reservedVariantName _ variant => some variant
  | duplicateVariant _ variant => some variant
  | emptyPayload _ variant _ => some variant
  | recursiveByValue _ variant _ _ => some variant
  | _ => none

/-- The position of a family whose union has stood before. -/
def again? : Problem → Option Nat
  | duplicateFamily _ _ again => some again
  | _ => none

end Problem

/-- The problems of the families at the positions before `n`. -/
def Grammar.problemsBefore (g : Grammar) (n : Nat) : List Problem :=
  (List.range n).flatMap g.problemsAt

/-- The problems of the families from position `n` on, and of the root. -/
def Grammar.problemsFrom (g : Grammar) (n : Nat) : List Problem :=
  (List.range' n (g.families.length - n)).flatMap g.problemsAt ++ g.rootProblems

theorem Variant.names_of_mem_problems {v : Variant} {family : String} {earlier : List String}
    {p : Problem} (h : p ∈ v.problems family earlier) :
    p.family? = some family ∧ p.variant? = some v.name := by
  unfold Variant.problems at h
  rw [List.mem_append, List.mem_append] at h
  rcases h with (h | h) | h
  · obtain rfl | rfl := eq_of_mem_nameProblems h <;> exact ⟨rfl, rfl⟩
  · obtain rfl := eq_of_mem_duplicateProblems h
    exact ⟨rfl, rfl⟩
  · obtain ⟨position, rfl | ⟨payload, rfl⟩⟩ := eq_of_mem_payloadProblems h <;> exact ⟨rfl, rfl⟩

namespace Family

variable {f : Family} {earlier : List String} {p : Problem}

theorem names_of_mem_problems (h : p ∈ f.problems earlier) :
    p.family? = some f.name ∨ p.again? = some earlier.length := by
  -- A repeated union is told by its positions, all else by the name of the family.
  unfold Family.problems at h
  rw [List.mem_append, List.mem_append] at h
  rcases h with (h | h) | h
  · left
    obtain rfl | rfl := eq_of_mem_nameProblems h <;> rfl
  · right
    obtain ⟨first, rfl⟩ := eq_of_mem_duplicateProblems h
    rfl
  · left
    unfold variantProblems at h
    obtain ⟨⟨v, k⟩, -, hp⟩ := List.mem_flatMap.mp h
    exact (Variant.names_of_mem_problems hp).1

/-! ## One more variant -/

theorem problems_push (f : Family) (v : Variant) (earlier : List String) :
    (f.push v).problems earlier = f.problems earlier ++ v.problems f.name f.variantNames := by
  unfold problems
  rw [variantProblems_push, ← List.append_assoc]
  rfl

end Family

namespace Grammar

variable {g : Grammar} {f : Family} {v : Variant} {i : Nat}

theorem getElem?_families_pushVariant (j : Nat) :
    (g.pushVariant i v).families[j]? =
      (g.families[j]?).map fun f => if i = j then f.push v else f := by
  unfold pushVariant
  rw [List.getElem?_modify]
  rfl

theorem length_families_pushVariant :
    (g.pushVariant i v).families.length = g.families.length :=
  List.length_modify ..

theorem unions_pushVariant : (g.pushVariant i v).unions = g.unions := by
  unfold unions
  apply List.ext_getElem?
  intro j
  rw [List.getElem?_map, List.getElem?_map, getElem?_families_pushVariant, Option.map_map]
  apply congrFun
  apply congrArg
  funext f
  dsimp only [Function.comp]
  split <;> rfl

theorem problemsAt_pushVariant_of_ne {j : Nat} (hj : j ≠ i) :
    (g.pushVariant i v).problemsAt j = g.problemsAt j := by
  unfold problemsAt
  rw [getElem?_families_pushVariant, unions_pushVariant]
  cases g.families[j]? with
  | none => rfl
  | some f => simp [hj.symm]

theorem problemsAt_pushVariant (hf : g.families[i]? = some f) :
    (g.pushVariant i v).problemsAt i = g.problemsAt i ++ v.problems f.name f.variantNames := by
  unfold problemsAt
  rw [getElem?_families_pushVariant, unions_pushVariant, hf]
  simp [Family.problems_push]

theorem rootProblems_pushVariant : (g.pushVariant i v).rootProblems = g.rootProblems := by
  unfold rootProblems
  rw [unions_pushVariant]
  rfl

theorem check_eq_append (hf : g.families[i]? = some f) :
    g.check = g.problemsBefore (i + 1) ++ g.problemsFrom (i + 1) := by
  have hi : i < g.families.length := (List.getElem?_eq_some_iff.mp hf).1
  have hfamilies : g.families.isEmpty = false := by
    rw [List.isEmpty_eq_false_iff]
    exact List.ne_nil_of_length_pos (by omega)
  have hrange : List.range g.families.length =
      List.range (i + 1) ++ List.range' (i + 1) (g.families.length - (i + 1)) := by
    rw [List.range_eq_range', List.range_eq_range',
      ← Nat.add_sub_cancel' (show i + 1 ≤ g.families.length by omega), ← List.range'_append]
    simp
  rw [check_eq_flatMap, hfamilies, hrange, List.flatMap_append, problemsBefore, problemsFrom]
  simp

theorem problemsBefore_pushVariant (hf : g.families[i]? = some f) :
    (g.pushVariant i v).problemsBefore (i + 1) =
      g.problemsBefore (i + 1) ++ v.problems f.name f.variantNames := by
  -- Of the positions up to `i` only the last has changed, so what is added comes at the end.
  have hsame : (List.range i).flatMap (g.pushVariant i v).problemsAt =
      (List.range i).flatMap g.problemsAt := by
    apply List.flatMap_congr
    intro j hj
    rw [List.mem_range] at hj
    exact problemsAt_pushVariant_of_ne (by omega)
  unfold problemsBefore
  rw [List.range_succ, List.flatMap_append, List.flatMap_append, hsame, List.flatMap_singleton,
    List.flatMap_singleton, problemsAt_pushVariant hf, List.append_assoc]

theorem problemsFrom_pushVariant :
    (g.pushVariant i v).problemsFrom (i + 1) = g.problemsFrom (i + 1) := by
  unfold problemsFrom
  rw [length_families_pushVariant, rootProblems_pushVariant]
  congr 1
  apply List.flatMap_congr
  intro j hj
  rw [List.mem_range'_1] at hj
  exact problemsAt_pushVariant_of_ne (by omega)

theorem check_pushVariant (hf : g.families[i]? = some f) :
    (g.pushVariant i v).check = g.problemsBefore (i + 1) ++ v.problems f.name f.variantNames ++
      g.problemsFrom (i + 1) := by
  have hf' : (g.pushVariant i v).families[i]? = some (f.push v) := by
    rw [getElem?_families_pushVariant, hf]
    simp
  rw [check_eq_append hf', problemsBefore_pushVariant hf, problemsFrom_pushVariant]

/-! ## One more family -/

theorem pop_push : (g.push f).pop = g := by
  simp [push, pop]

/-- Taking off a family takes problems off the end. -/
theorem others_pop (g : Grammar) :
    others .root (others .families g.pop.check) <+: others .root (others .families g.check) := by
  rw [others_families_root, others_families_root]
  induction g using push_induction with
  | empty => exact List.prefix_refl _
  | push g f =>
    rw [pop_push, familyProblems_push]
    exact List.prefix_append ..

theorem exists_unknownRoot_push_iff :
    (∃ family, .unknownRoot family ∈ (g.push f).check) ↔
      (∃ family, .unknownRoot family ∈ g.check) ∧
        Naming.union f.name ≠ Naming.union g.root.family := by
  have hroot : (g.push f).root = g.root := rfl
  rw [exists_unknownRoot_iff, exists_unknownRoot_iff, unions_push, hroot, List.mem_append,
    List.mem_singleton, not_or, eq_comm]

/-! ## What is added -/

/-- A family at the end adds problems of its own at the end, those of the grammar as a whole left
aside; there is no lack of families then, and the root is unknown if it was and is not that family. A
variant at the end of a family adds problems of its own behind those of that family. -/
theorem check_grows (g : Grammar) :
    (∀ f : Family,
      (∃ added, others .root (others .families (g.push f).check) =
          others .root (others .families g.check) ++ added ∧
        ∀ p ∈ added, p.family? = some f.name ∨ p.again? = some g.families.length) ∧
      .noFamilies ∉ (g.push f).check ∧
      ((∃ family, .unknownRoot family ∈ (g.push f).check) ↔
        (∃ family, .unknownRoot family ∈ g.check) ∧
          Naming.union f.name ≠ Naming.union g.root.family)) ∧
    ∀ (i : Nat) (f : Family) (v : Variant), g.families[i]? = some f →
      g.check = g.problemsBefore (i + 1) ++ g.problemsFrom (i + 1) ∧
      ∃ added, (g.pushVariant i v).check =
          g.problemsBefore (i + 1) ++ added ++ g.problemsFrom (i + 1) ∧
        ∀ p ∈ added, p.family? = some f.name ∧ p.variant? = some v.name := by
  refine ⟨fun f => ⟨⟨f.problems g.unions, ?_, fun p hp => ?_⟩, ?_, ?_⟩, fun i f v hf => ?_⟩
  · rw [others_families_root, others_families_root, familyProblems_push]
  · rw [← g.length_unions]
    exact Family.names_of_mem_problems hp
  · rw [noFamilies_mem_check_iff]
    simp [push]
  · exact exists_unknownRoot_push_iff
  · exact ⟨check_eq_append hf, _, check_pushVariant hf,
      fun p hp => Variant.names_of_mem_problems hp⟩

theorem check_grows_second :
    let g : Grammar := ⟨"ast", ⟨"root", .single⟩, "crate::scanner",
      [⟨"2expr", [⟨"Unit", [""]⟩]⟩, ⟨"self", []⟩]⟩
    let before : List Problem := [.badFamilyName "2expr", .emptyPayload "2expr" "Unit" 0]
    let behind : List Problem := [.reservedFamilyName "self" "Self", .unknownRoot "root"]
    ∃ added, (g.pushVariant 0 ⟨"Unit", [" "]⟩).check = before ++ added ++ behind ∧
      ∀ p ∈ added, p.family? = some "2expr" ∧ p.variant? = some "Unit" := by
  intro g before behind
  have hfamily : g.families[0]? = some ⟨"2expr", [⟨"Unit", [""]⟩]⟩ := rfl
  obtain ⟨-, added, hadded, hnames⟩ := (check_grows g).2 0 _ ⟨"Unit", [" "]⟩ hfamily
  have hbefore : g.problemsBefore 1 = before := by decide
  have hbehind : g.problemsFrom 1 = behind := by decide
  refine ⟨added, ?_, hnames⟩
  rw [hadded, hbefore, hbehind]

end Grammar

end NodeFamilies
