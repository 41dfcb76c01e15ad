import NodeFamilies.Proofs.Topics

/-!
# Duplicates

The checks look at every family and at every variant with the names before it at hand. So the
duplicates of a longer list are those of the shorter one and what the last element adds, and
repetitions can be counted.
-/

namespace NodeFamilies

/-! ## Families -/

namespace Grammar

variable (g : Grammar) (f : Family)

theorem duplicateFamilyProblems_push : (g.push f).duplicateFamilyProblems =
    g.duplicateFamilyProblems ++ f.duplicateProblems g.unions :=
  flatMap_zipIdx_concat (fun f : Family => Naming.union f.name) Family.duplicateProblems
    g.families f

end Grammar

theorem Family.length_duplicateProblems (f : Family) (earlier : List String) :
    (f.duplicateProblems earlier).length = if Naming.union f.name ∈ earlier then 1 else 0 := by
  unfold Family.duplicateProblems
  split
  · rename_i first hfirst
    have hmem : Naming.union f.name ∈ earlier := by
      simp [← List.isSome_idxOf?, hfirst]
    rw [if_pos hmem]
    rfl
  · rename_i hnone
    rw [if_neg (List.idxOf?_eq_none_iff.mp hnone)]
    rfl

theorem Grammar.length_duplicateFamilyProblems (g : Grammar) :
    g.duplicateFamilyProblems.length + g.unions.toFinset.card = g.families.length := by
  -- Every family is the first of its union or is reported.
  induction g using Grammar.push_induction with
  | empty stem root scanner => rfl
  | push g f ih =>
    have hlength : (g.push f).families.length = g.families.length + 1 := by simp [push]
    rw [duplicateFamilyProblems_push, unions_push, List.length_append,
      Family.length_duplicateProblems, List.toFinset_append, hlength]
    -- A union that is there already is reported once more, a new one is counted.
    by_cases hmem : Naming.union f.name ∈ g.unions
    · have hcard : g.unions.toFinset ∪ [Naming.union f.name].toFinset = g.unions.toFinset := by
        simpa using hmem
      rw [if_pos hmem, hcard]
      omega
    · have hcard : (g.unions.toFinset ∪ [Naming.union f.name].toFinset).card =
          g.unions.toFinset.card + 1 := by
        rw [Finset.card_union_of_disjoint (by simpa using hmem)]
        rfl
      rw [if_neg hmem, hcard]
      omega

/-! ## Variants -/

theorem Family.duplicateVariantProblems_eq_nil_iff (f : Family) :
    f.duplicateVariantProblems = [] ↔ f.variantNames.Nodup := by
  rw [duplicateVariantProblems, flatMap_zipIdx_eq_nil_iff, nodup_variantNames_iff]
  simp only [Variant.duplicateProblems_eq_nil_iff]

theorem Family.eq_duplicateVariant_of_mem {f : Family} {p : Problem}
    (h : p ∈ f.duplicateVariantProblems) : ∃ variant, p = .duplicateVariant f.name variant := by
  obtain ⟨⟨v, k⟩, -, hp⟩ := List.mem_flatMap.mp h
  exact ⟨v.name, Variant.eq_of_mem_duplicateProblems hp⟩

theorem Family.exists_duplicateVariant_iff (f : Family) :
    (∃ variant, .duplicateVariant f.name variant ∈ f.duplicateVariantProblems) ↔
      ¬ f.variantNames.Nodup := by
  rw [← f.duplicateVariantProblems_eq_nil_iff]
  constructor
  · rintro ⟨variant, hmem⟩ hnil
    rw [hnil] at hmem
    cases hmem
  · intro hne
    obtain ⟨p, hp⟩ := List.exists_mem_of_ne_nil _ hne
    obtain ⟨variant, rfl⟩ := Family.eq_duplicateVariant_of_mem hp
    exact ⟨variant, hp⟩

end NodeFamilies
