import NodeFamilies.Failure
import NodeFamilies.Proofs.Repetitions

/-!
# Declarations in another order

The checks go through the declarations in their order and remember what they have passed. If the
families change places, and the variants within a family, the same problems are found in another
order; only of several families with one union others are taken for the repetitions, but as many.
-/

namespace NodeFamilies

open Problem (about about_other others others_append others_flatMap others_eq_self others_eq_nil)

/-! ## Definitions -/

/-- The same family with its variants in another order. -/
structure Family.Rearranged (f f' : Family) : Prop where
  name : f'.name = f.name
  variants : f.variants.Perm f'.variants

/-- The same grammar with its families, and the variants in each of them, in another order. -/
structure Grammar.Rearranged (g g' : Grammar) : Prop where
  stem : g'.stem = g.stem
  root : g'.root = g.root
  scanner : g'.scanner = g.scanner
  families : ∃ fs, g.families.Perm fs ∧ List.Forall₂ Family.Rearranged fs g'.families

namespace Problem

/-- The problem is a family with that union again. -/
def repeatsUnion (union : String) : Problem → Bool
  | duplicateFamily again _ _ => again == union
  | _ => false

end Problem

theorem Failure.message_rejected (ps : List Problem) :
    (Failure.rejected ps).message = "grammar rejected with " ++ toString ps.length ++ " problem(s)" :=
  rfl

/-! ## Variants -/

namespace Family

theorem variantProblems_perm (f : Family) :
    f.variantProblems.Perm
      ((f.variants.flatMap fun v => v.nameProblems f.name ++ v.payloadProblems f.name) ++
        f.duplicateVariantProblems) := by
  -- The repetitions are found among the other problems; they may as well come behind them.
  rw [← flatMap_zipIdx_fst f.variants fun v => v.nameProblems f.name ++ v.payloadProblems f.name]
  unfold variantProblems duplicateVariantProblems
  refine List.Perm.trans ?_ (List.flatMap_append_perm f.variants.zipIdx _ _).symm
  apply List.Perm.flatMap_left
  rintro ⟨v, k⟩ -
  simp only [Variant.problems, List.append_assoc]
  exact List.perm_append_comm.append_left _

theorem others_duplicateFamily (f : Family) (earlier : List String) :
    others .duplicateFamily (f.problems earlier) = f.nameProblems ++ f.variantProblems := by
  rw [problems, others_append, others_append,
    others_eq_self (about_other (fun _ => topic_nameProblems) (by decide)),
    others_eq_nil (fun _ => topic_duplicateProblems), List.append_nil,
    others_eq_self (f.about_variantProblems_eq_nil (by decide) (by decide) (by decide))]

namespace Rearranged

variable {f f' : Family}

theorem duplicateVariantProblems_perm (h : f.Rearranged f') :
    f.duplicateVariantProblems.Perm f'.duplicateVariantProblems := by
  rw [duplicateVariantProblems_eq_map, duplicateVariantProblems_eq_map, h.name]
  apply List.Perm.map
  have hnames : f.variantNames.Perm f'.variantNames := h.variants.map _
  have hf := repeated_secondNames f.variantNames
  have hf' := repeated_secondNames f'.variantNames
  rw [List.perm_ext_iff_of_nodup hf.nodup hf'.nodup]
  intro name
  rw [hf.mem, hf'.mem, hnames.count_eq]

theorem problems_perm (h : f.Rearranged f') :
    (f.nameProblems ++ f.variantProblems).Perm (f'.nameProblems ++ f'.variantProblems) := by
  have hname : f'.nameProblems = f.nameProblems := by
    unfold nameProblems
    rw [h.name]
  rw [hname]
  apply List.Perm.append_left
  refine f.variantProblems_perm.trans (.trans ?_ f'.variantProblems_perm.symm)
  apply List.Perm.append _ h.duplicateVariantProblems_perm
  rw [h.name]
  exact h.variants.flatMap_right _

end Rearranged

end Family

/-! ## Families -/

theorem flatMap_perm_of_forall₂ {α β : Type} {R : α → α → Prop} {f : α → List β} {as bs : List α}
    (h : List.Forall₂ R as bs) (hf : ∀ a b, R a b → (f a).Perm (f b)) :
    (as.flatMap f).Perm (bs.flatMap f) := by
  induction h with
  | nil => exact .nil
  | cons hab _ ih =>
    rw [List.flatMap_cons, List.flatMap_cons]
    exact (hf _ _ hab).append ih

theorem Family.countP_repeatsUnion_duplicateProblems (f : Family) (earlier : List String)
    (union : String) :
    (f.duplicateProblems earlier).countP (·.repeatsUnion union) =
      if Naming.union f.name = union ∧ union ∈ earlier then 1 else 0 := by
  unfold duplicateProblems
  split
  · rename_i first hfirst
    have hmem : Naming.union f.name ∈ earlier := by
      obtain ⟨hlt, hstands, -⟩ := List.idxOf?_eq_some_iff.mp hfirst
      exact hstands ▸ List.getElem_mem hlt
    rw [List.countP_singleton]
    by_cases heq : Naming.union f.name = union
    · subst heq
      simp [Problem.repeatsUnion, hmem]
    · simp [Problem.repeatsUnion, heq]
  · rename_i hnone
    rw [List.idxOf?_eq_none_iff] at hnone
    have hnot : ¬(Naming.union f.name = union ∧ union ∈ earlier) := by
      rintro ⟨rfl, hmem⟩
      exact hnone hmem
    simp [hnot]

namespace Grammar

variable {g g' : Grammar}

theorem countP_repeatsUnion_duplicateFamilyProblems (g : Grammar) (union : String) :
    g.duplicateFamilyProblems.countP (·.repeatsUnion union) = g.unions.count union - 1 := by
  induction g using Grammar.push_induction with
  | empty stem root scanner => rfl
  | push g f ih =>
    rw [duplicateFamilyProblems_push, unions_push, List.countP_append, ih,
      Family.countP_repeatsUnion_duplicateProblems, List.count_append, List.count_singleton]
    have hpos : union ∈ g.unions ↔ 0 < g.unions.count union := List.count_pos_iff.symm
    by_cases heq : Naming.union f.name = union
    · by_cases hmem : union ∈ g.unions
      · have := hpos.mp hmem
        simp only [heq, hmem, and_self, if_true, beq_self_eq_true]
        omega
      · simp [heq, hmem, List.count_eq_zero.mpr hmem]
    · simp [heq]

theorem countP_repeatsUnion_check (g : Grammar) (union : String) :
    g.check.countP (·.repeatsUnion union) = g.unions.count union - 1 := by
  rw [← countP_repeatsUnion_duplicateFamilyProblems, ← about_duplicateFamily, about,
    List.countP_filter]
  apply List.countP_congr
  intro p _
  cases p <;> simp [Problem.repeatsUnion, Problem.topic]

theorem others_duplicateFamily (g : Grammar) :
    others .duplicateFamily g.check =
      (if g.families.isEmpty then [.noFamilies] else []) ++
        (g.families.flatMap fun f => f.nameProblems ++ f.variantProblems) ++ g.rootProblems := by
  have hempty : others .duplicateFamily (if g.families.isEmpty then [Problem.noFamilies] else []) =
      if g.families.isEmpty then [.noFamilies] else [] := by
    split <;> rfl
  rw [check_eq, others_append, others_append, hempty, familyProblems, others_flatMap,
    others_eq_self (about_other (fun _ => topic_rootProblems) (by decide))]
  simp only [Family.others_duplicateFamily]
  rw [flatMap_zipIdx_fst g.families fun f => f.nameProblems ++ f.variantProblems]

namespace Rearranged

theorem unions_perm (h : g.Rearranged g') : g.unions.Perm g'.unions := by
  obtain ⟨fs, hperm, hall⟩ := h.families
  have hsame : fs.map (fun f => Naming.union f.name) =
      g'.families.map fun f => Naming.union f.name := by
    rw [← List.forall₂_eq_eq_eq, List.forall₂_map_left_iff, List.forall₂_map_right_iff]
    exact hall.imp fun f f' hf => by rw [hf.name]
  unfold unions
  rw [← hsame]
  exact hperm.map _

theorem others_perm (h : g.Rearranged g') :
    (others .duplicateFamily g.check).Perm (others .duplicateFamily g'.check) := by
  have hempty : g'.families.isEmpty = g.families.isEmpty := by
    have := h.unions_perm.isEmpty_eq
    simpa [unions] using this.symm
  have hroot : g'.rootProblems = g.rootProblems := by
    simp only [rootProblems, h.root, List.contains_eq_mem, h.unions_perm.mem_iff]
  rw [others_duplicateFamily, others_duplicateFamily, hempty, hroot]
  apply List.Perm.append_right
  apply List.Perm.append_left
  obtain ⟨fs, hperm, hall⟩ := h.families
  exact (hperm.flatMap_right _).trans
    (flatMap_perm_of_forall₂ hall fun _ _ => Family.Rearranged.problems_perm)

theorem length_check (h : g.Rearranged g') : g'.check.length = g.check.length := by
  have hothers := h.others_perm.length_eq
  have hunions := h.unions_perm
  have hcard : g'.unions.toFinset.card = g.unions.toFinset.card := by
    rw [List.toFinset_eq_of_perm _ _ hunions]
  have hlength : g'.families.length = g.families.length := by
    rw [← length_unions, ← length_unions, hunions.length_eq]
  have hg := g.length_duplicateFamilyProblems
  have hg' := g'.length_duplicateFamilyProblems
  rw [Problem.length_eq_about_add_others .duplicateFamily g.check,
    Problem.length_eq_about_add_others .duplicateFamily g'.check, about_duplicateFamily,
    about_duplicateFamily]
  omega

end Rearranged

theorem rearranged_swap (g : Grammar) (i j : Nat) : g.Rearranged (g.swap i j) := by
  have hself : ∀ fs : List Family, List.Forall₂ Family.Rearranged fs fs :=
    fun fs => List.forall₂_same.mpr fun _ _ => ⟨rfl, .refl _⟩
  unfold swap
  split
  · rename_i f f' hi hj
    obtain ⟨hi', rfl⟩ := List.getElem?_eq_some_iff.mp hi
    obtain ⟨hj', rfl⟩ := List.getElem?_eq_some_iff.mp hj
    exact ⟨rfl, rfl, rfl, _, (List.set_set_perm hi' hj').symm, hself _⟩
  · exact ⟨rfl, rfl, rfl, _, .refl _, hself _⟩

theorem length_check_swap (g : Grammar) (i j : Nat) :
    (g.swap i j).check.length = g.check.length :=
  (g.rearranged_swap i j).length_check

/-- In another order of the declarations the same problems are found, save that other families of a
union may be its repetitions. So there are as many problems, and none in one order if there are none
in the other. -/
theorem check_rearranged (g g' : Grammar) (h : g.Rearranged g') :
    (others .duplicateFamily g.check).Perm (others .duplicateFamily g'.check) ∧
    (∀ union, g'.check.countP (·.repeatsUnion union) = g.check.countP (·.repeatsUnion union)) ∧
    (g'.ensureWellFormed = .ok () ↔ g.ensureWellFormed = .ok ()) ∧
    ∀ ps, g.ensureWellFormed = .error ps → ∃ ps', g'.ensureWellFormed = .error ps' ∧
      ps'.length = ps.length ∧ (Failure.rejected ps').message = (Failure.rejected ps).message := by
  have hlength := h.length_check
  have hnil : g'.check = [] ↔ g.check = [] := by
    rw [← List.length_eq_zero_iff, ← List.length_eq_zero_iff, hlength]
  refine ⟨h.others_perm, fun union => ?_, ?_, fun ps hps => ?_⟩
  · rw [countP_repeatsUnion_check, countP_repeatsUnion_check, h.unions_perm.count_eq]
  · rw [ensureWellFormed_eq_ok_iff, ensureWellFormed_eq_ok_iff, hnil]
  · obtain ⟨hne, rfl⟩ := ensureWellFormed_eq_error_iff.mp hps
    refine ⟨g'.check, ensureWellFormed_eq_error_iff.mpr ⟨mt hnil.mp hne, rfl⟩, hlength, ?_⟩
    rw [Failure.message_rejected, Failure.message_rejected, hlength]

theorem check_rearranged_twins :
    let g : Grammar := ⟨"ast", ⟨"expr", .single⟩, "crate::scanner",
      [⟨"expr", [⟨"Unit", ["Expr"]⟩, ⟨"type", []⟩, ⟨"Unit", []⟩]⟩, ⟨"stmt", []⟩, ⟨"Expr", []⟩]⟩
    let g' : Grammar := ⟨"ast", ⟨"expr", .single⟩, "crate::scanner",
      [⟨"Expr", []⟩, ⟨"stmt", []⟩, ⟨"expr", [⟨"Unit", []⟩, ⟨"Unit", ["Expr"]⟩, ⟨"type", []⟩]⟩]⟩
    g.Rearranged g' ∧ g'.check.countP (·.repeatsUnion "Expr") = 1 ∧
      ∃ ps, g'.ensureWellFormed = .error ps ∧ ps.length = 4 ∧
        (Failure.rejected ps).message = "grammar rejected with 4 problem(s)" := by
  intro g g'
  have hsame : ∀ f : Family, f.Rearranged f := fun f => ⟨rfl, .refl _⟩
  have hexpr : Family.Rearranged ⟨"expr", [⟨"Unit", ["Expr"]⟩, ⟨"type", []⟩, ⟨"Unit", []⟩]⟩
      ⟨"expr", [⟨"Unit", []⟩, ⟨"Unit", ["Expr"]⟩, ⟨"type", []⟩]⟩ := ⟨rfl, by decide⟩
  have h : g.Rearranged g' :=
    ⟨rfl, rfl, rfl, _, by decide, .cons (hsame _) (.cons (hsame _) (.cons hexpr .nil))⟩
  obtain ⟨-, hcount, -, hfailure⟩ := check_rearranged g g' h
  refine ⟨h, ?_, ?_⟩
  · rw [hcount]
    decide
  · obtain ⟨ps, hps, hlength, hmessage⟩ := hfailure g.check
      (ensureWellFormed_eq_error_iff.mpr ⟨by decide, rfl⟩)
    refine ⟨ps, hps, ?_, ?_⟩
    · rw [hlength]
      decide
    · rw [hmessage]
      decide

end Grammar

end NodeFamilies
