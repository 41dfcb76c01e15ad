import NodeFamilies.Proofs.Duplicates

/-!
# Repetitions

The two kinds of duplicates are told in two ways. A union is reported wherever it occurs again, each
time against its first place. The name of a variant is reported once in its family, where it occurs
for the second time, and what other families call their variants does not matter.
-/

namespace NodeFamilies

open Problem (about)

/-! ## Definitions -/

/-- The union stands at `again`; its first place is `first`, and that is before. -/
structure OccursAgain (unions : List String) (union : String) (first again : Nat) : Prop where
  lt : first < again
  standsAgain : unions[again]? = some union
  stands : unions[first]? = some union
  least : ∀ j < first, unions[j]? ≠ some union

/-- The problem is that the family at `i` has a union which has stood before. -/
def Grammar.RepeatsAt (g : Grammar) (i : Nat) (p : Problem) : Prop :=
  ∃ union first, p = .duplicateFamily union first i ∧
    OccursAgain (g.families.map fun f => Naming.union f.name) union first i

/-- The name stands at `k` and at exactly one place before it. -/
def OccursSecond (names : List String) (name : String) (k : Nat) : Prop :=
  names[k]? = some name ∧ ∃! j, j < k ∧ names[j]? = some name

/-- The names that occur at least twice, each of them once, in the order of their second places. -/
structure Repeated (names repeated : List String) : Prop where
  mem : ∀ name, name ∈ repeated ↔ 2 ≤ names.count name
  nodup : repeated.Nodup
  order : repeated.Pairwise fun a b =>
    ∃ k l, OccursSecond names a k ∧ OccursSecond names b l ∧ k < l

/-! ## Places of a list -/

theorem exists_places {α β : Type} {R : Nat → β → Prop} (report : α × Nat → List β) (l : List α)
    (h : ∀ i a, l[i]? = some a →
      (∃ b, R i b ∧ report (a, i) = [b]) ∨ (∀ b, ¬R i b) ∧ report (a, i) = []) :
    ∃ places : List Nat, places.Pairwise (· < ·) ∧
      (∀ i, i ∈ places ↔ i < l.length ∧ ∃ b, R i b) ∧
      List.Forall₂ R places (l.zipIdx.flatMap report) := by
  -- If one thing at most is reported of each place, the reports stand in the order of the places.
  classical
  refine ⟨(List.range l.length).filter fun i => ∃ b, R i b, List.pairwise_lt_range.filter _,
    by simp, ?_⟩
  induction l using List.reverseRecOn with
  | nil => simp
  | append_singleton l a ih =>
    have hinit : ∀ (i : Nat) b, l[i]? = some b → (l ++ [a])[i]? = some b := by
      intro i b hb
      rwa [List.getElem?_append_left (List.getElem?_eq_some_iff.mp hb).1]
    have hzip : (l ++ [a]).zipIdx.flatMap report =
        l.zipIdx.flatMap report ++ report (a, l.length) := by
      simp [List.zipIdx_append]
    rw [hzip, List.length_append, List.length_singleton, List.range_succ, List.filter_append]
    apply List.rel_append (ih fun i b hb => h i b (hinit i b hb))
    rcases h l.length a (by simp) with ⟨b, hb, hreport⟩ | ⟨hnone, hreport⟩
    · have hsome : ∃ b, R l.length b := ⟨b, hb⟩
      simp [hsome, hreport, hb]
    · simp [hnone, hreport]

theorem pairwise_of_forall₂ {α β : Type} {R : α → β → Prop} {S : α → α → Prop} {as : List α}
    {bs : List β} (h : List.Forall₂ R as bs) (hS : as.Pairwise S) :
    bs.Pairwise fun b b' => ∃ a a', R a b ∧ R a' b' ∧ S a a' := by
  obtain ⟨hlength, hR⟩ := List.forall₂_iff_get.mp h
  rw [List.pairwise_iff_getElem] at hS ⊢
  intro i j hi hj hij
  exact ⟨as[i], as[j], hR i (by omega) hi, hR j (by omega) hj, hS i j _ _ hij⟩

/-! ## Counting a name -/

variable {names : List String} {name : String}

theorem two_le_count_iff :
    2 ≤ names.count name ↔
      ∃ i j : Nat, i < j ∧ names[i]? = some name ∧ names[j]? = some name := by
  rw [← List.duplicate_iff_two_le_count, List.duplicate_iff_exists_distinct_get]
  constructor
  · rintro ⟨i, j, hij, hi, hj⟩
    exact ⟨i, j, hij, by simp [hi], by simp [hj]⟩
  · rintro ⟨i, j, hij, hi, hj⟩
    obtain ⟨hi', hi⟩ := List.getElem?_eq_some_iff.mp hi
    obtain ⟨hj', hj⟩ := List.getElem?_eq_some_iff.mp hj
    exact ⟨⟨i, hi'⟩, ⟨j, hj'⟩, hij, hi.symm, hj.symm⟩

theorem count_eq_one_iff : names.count name = 1 ↔ ∃! j : Nat, names[j]? = some name := by
  have hone : 1 ≤ names.count name ↔ ∃ j : Nat, names[j]? = some name := by
    rw [List.one_le_count_iff, List.mem_iff_getElem?]
  constructor
  · intro h
    obtain ⟨j, hj⟩ := hone.mp (by omega)
    refine ⟨j, hj, fun i hi => ?_⟩
    by_contra hne
    have htwo : 2 ≤ names.count name := by
      rw [two_le_count_iff]
      rcases Nat.lt_or_gt_of_ne hne with hlt | hlt
      · exact ⟨i, j, hlt, hi, hj⟩
      · exact ⟨j, i, hlt, hj, hi⟩
    omega
  · rintro ⟨j, hj, hunique⟩
    have := hone.mpr ⟨j, hj⟩
    have hnot : ¬2 ≤ names.count name := by
      rw [two_le_count_iff]
      rintro ⟨i, k, hik, hi, hk⟩
      have := hunique i hi
      have := hunique k hk
      omega
    omega

/-! ## Unions -/

theorem occursAgain_of_idxOf? {unions : List String} {union : String} {first i : Nat}
    (hi : unions[i]? = some union) (h : (unions.take i).idxOf? union = some first) :
    OccursAgain unions union first i := by
  have hlength : i < unions.length := (List.getElem?_eq_some_iff.mp hi).1
  obtain ⟨hlt, hstands, hleast⟩ := List.idxOf?_eq_some_iff.mp h
  rw [List.length_take] at hlt
  rw [List.getElem_take] at hstands
  refine ⟨by omega, hi, ?_, ?_⟩
  · rw [List.getElem?_eq_getElem (by omega), hstands]
  · intro j hj
    have := hleast j hj
    rw [List.getElem_take] at this
    rw [List.getElem?_eq_getElem (by omega)]
    simpa using this

theorem idxOf?_ne_none_of_earlier {unions : List String} {union : String} {i j : Nat} (hj : j < i)
    (h : unions[j]? = some union) : (unions.take i).idxOf? union ≠ none := by
  rw [ne_eq, List.idxOf?_eq_none_iff, not_not, List.mem_take_iff_getElem]
  obtain ⟨hlength, hstands⟩ := List.getElem?_eq_some_iff.mp h
  exact ⟨j, by omega, hstands⟩

namespace Grammar

variable {g : Grammar}

theorem exists_repeatsAt_iff {i : Nat} :
    (∃ p, g.RepeatsAt i p) ↔
      ∃ j union, j < i ∧ g.unions[j]? = some union ∧ g.unions[i]? = some union := by
  constructor
  · rintro ⟨p, union, first, -, h⟩
    exact ⟨first, union, h.lt, h.stands, h.standsAgain⟩
  · rintro ⟨j, union, hj, hearlier, hagain⟩
    cases hfirst : (g.unions.take i).idxOf? union with
    | none => exact absurd hfirst (idxOf?_ne_none_of_earlier hj hearlier)
    | some first => exact ⟨_, union, first, rfl, occursAgain_of_idxOf? hagain hfirst⟩

theorem duplicateProblems_cases {i : Nat} {f : Family} (hi : g.families[i]? = some f) :
    (∃ p, g.RepeatsAt i p ∧ f.duplicateProblems (g.unions.take i) = [p]) ∨
      (∀ p, ¬g.RepeatsAt i p) ∧ f.duplicateProblems (g.unions.take i) = [] := by
  have hunion : g.unions[i]? = some (Naming.union f.name) :=
    getElem?_unions_eq_some_iff.mpr ⟨f, hi, rfl⟩
  have hlength : (g.unions.take i).length = i := by
    have := (List.getElem?_eq_some_iff.mp hunion).1
    rw [List.length_take]
    omega
  unfold Family.duplicateProblems
  cases hfirst : (g.unions.take i).idxOf? (Naming.union f.name) with
  | some first =>
    left
    exact ⟨_, ⟨_, first, rfl, occursAgain_of_idxOf? hunion hfirst⟩, by rw [hlength]⟩
  | none =>
    right
    refine ⟨?_, rfl⟩
    rintro p ⟨union, first, -, h⟩
    obtain rfl := Option.some.inj (hunion.symm.trans h.standsAgain)
    exact idxOf?_ne_none_of_earlier h.lt h.stands hfirst

theorem exists_places_duplicateFamily (g : Grammar) :
    ∃ places : List Nat, places.Pairwise (· < ·) ∧
      (∀ i, i ∈ places ↔
        ∃ j union, j < i ∧ g.unions[j]? = some union ∧ g.unions[i]? = some union) ∧
      List.Forall₂ g.RepeatsAt places (about .duplicateFamily g.check) := by
  obtain ⟨places, hlt, hmem, hall⟩ :=
    exists_places (fun p => p.1.duplicateProblems (g.unions.take p.2)) g.families
      fun _ _ => duplicateProblems_cases
  rw [about_duplicateFamily]
  refine ⟨places, hlt, fun i => ?_, hall⟩
  rw [hmem, exists_repeatsAt_iff]
  constructor
  · exact And.right
  · rintro ⟨j, union, hj, hearlier, hagain⟩
    have hi := (List.getElem?_eq_some_iff.mp hagain).1
    rw [length_unions] at hi
    exact ⟨hi, j, union, hj, hearlier, hagain⟩

end Grammar

/-! ## Variants -/

/-- The names where they stand behind exactly one of their kind. -/
def secondNames (names : List String) : List String :=
  names.zipIdx.flatMap fun (name, k) => if (names.take k).count name = 1 then [name] else []

theorem Family.duplicateVariantProblems_eq_map (f : Family) :
    f.duplicateVariantProblems = (secondNames f.variantNames).map (.duplicateVariant f.name) := by
  have hzip : f.variantNames.zipIdx = f.variants.zipIdx.map (Prod.map (·.name) id) := by
    rw [variantNames, List.zipIdx_map]
  unfold duplicateVariantProblems secondNames
  rw [hzip, List.flatMap_map, List.map_flatMap]
  apply List.flatMap_congr
  rintro ⟨v, k⟩ -
  simp only [Variant.duplicateProblems, Prod.map_apply, id_eq]
  split <;> rfl

namespace OccursSecond

variable {k l : Nat}

theorem iff_count : OccursSecond names name k ↔
    names[k]? = some name ∧ (names.take k).count name = 1 := by
  unfold OccursSecond
  rw [count_eq_one_iff]
  simp only [List.getElem?_take]
  simp

theorem unique (hk : OccursSecond names name k) (hl : OccursSecond names name l) : k = l := by
  -- Of two such places the later one would have two before it.
  have hnot : ∀ {k l}, OccursSecond names name k → OccursSecond names name l → ¬k < l := by
    rintro k l ⟨hk, j, ⟨hj, hjname⟩, -⟩ ⟨-, i, -, hunique⟩ hlt
    have := hunique k ⟨hlt, hk⟩
    have := hunique j ⟨by omega, hjname⟩
    omega
  have := hnot hk hl
  have := hnot hl hk
  omega

theorem exists_iff : (∃ k, OccursSecond names name k) ↔ 2 ≤ names.count name := by
  classical
  rw [two_le_count_iff]
  constructor
  · rintro ⟨k, hk, j, ⟨hj, hjname⟩, -⟩
    exact ⟨j, k, hj, hjname, hk⟩
  · rintro ⟨i, j, hij, hi, hj⟩
    -- The second place is the first that has another one before it.
    have hlater : ∃ k, ∃ j < k, names[j]? = some name ∧ names[k]? = some name :=
      ⟨j, i, hij, hi, hj⟩
    obtain ⟨j, hlt, hjname, hkname⟩ := Nat.find_spec hlater
    refine ⟨Nat.find hlater, hkname, j, ⟨hlt, hjname⟩, ?_⟩
    rintro i ⟨hi, hiname⟩
    by_contra hne
    rcases Nat.lt_or_gt_of_ne hne with h | h
    · exact Nat.find_min hlater hlt ⟨i, h, hiname, hjname⟩
    · exact Nat.find_min hlater hi ⟨j, h, hjname, hiname⟩

end OccursSecond

theorem secondNames_cases {k : Nat} (hk : names[k]? = some name) :
    (∃ a, OccursSecond names a k ∧
        (if (names.take k).count name = 1 then [name] else []) = [a]) ∨
      (∀ a, ¬OccursSecond names a k) ∧
        (if (names.take k).count name = 1 then [name] else []) = [] := by
  by_cases hcount : (names.take k).count name = 1
  · left
    exact ⟨name, OccursSecond.iff_count.mpr ⟨hk, hcount⟩, if_pos hcount⟩
  · right
    refine ⟨fun a h => ?_, if_neg hcount⟩
    obtain ⟨ha, hcount'⟩ := OccursSecond.iff_count.mp h
    obtain rfl := Option.some.inj (hk.symm.trans ha)
    exact hcount hcount'

theorem mem_secondNames_iff : name ∈ secondNames names ↔ ∃ k, OccursSecond names name k := by
  unfold secondNames
  simp only [List.mem_flatMap, Prod.exists, List.mem_zipIdx_iff_getElem?, OccursSecond.iff_count]
  constructor
  · rintro ⟨name', k, hk, hmem⟩
    split at hmem
    · rename_i hcount
      obtain rfl := List.mem_singleton.mp hmem
      exact ⟨k, hk, hcount⟩
    · cases hmem
  · rintro ⟨k, hk, hcount⟩
    exact ⟨name, k, hk, by simp [hcount]⟩

theorem repeated_secondNames (names : List String) : Repeated names (secondNames names) := by
  obtain ⟨places, hlt, -, hall⟩ := exists_places (R := fun k name => OccursSecond names name k)
    (fun p => if (names.take p.2).count p.1 = 1 then [p.1] else []) names
    fun _ _ => secondNames_cases
  have horder := pairwise_of_forall₂ hall hlt
  refine ⟨fun name => ?_, ?_, horder⟩
  · rw [mem_secondNames_iff, OccursSecond.exists_iff]
  · apply horder.imp
    rintro a b ⟨k, l, hk, hl, hkl⟩ rfl
    have := hk.unique hl
    omega

/-! ## All duplicates -/

/-- Every place where a union occurs again is reported once, in the order of the places and against the
first place of the union. In a family every name that occurs twice or more is reported once, in the
order of the second places. -/
theorem Grammar.duplicates_reported (g : Grammar) :
    let unions := g.families.map fun f => Naming.union f.name
    (∃ places : List Nat, places.Pairwise (· < ·) ∧
      (∀ i, i ∈ places ↔ ∃ j union, j < i ∧ unions[j]? = some union ∧ unions[i]? = some union) ∧
      List.Forall₂ g.RepeatsAt places (about .duplicateFamily g.check)) ∧
    (about .duplicateFamily g.check).length + unions.toFinset.card = g.families.length ∧
    ∃ repeated : Family → List String, (∀ f, Repeated (f.variants.map (·.name)) (repeated f)) ∧
      about .duplicateVariant g.check =
        g.families.flatMap fun f => (repeated f).map (.duplicateVariant f.name) := by
  intro unions
  refine ⟨exists_places_duplicateFamily g, ?_, fun f => secondNames f.variantNames,
    fun f => repeated_secondNames f.variantNames, ?_⟩
  · rw [about_duplicateFamily]
    exact g.length_duplicateFamilyProblems
  · rw [about_duplicateVariant]
    exact List.flatMap_congr fun f _ => f.duplicateVariantProblems_eq_map

-- The third family of a union is measured against the first, and a third variant is not reported.
example :
    (⟨"ast", ⟨"expr", .single⟩, "crate::scanner",
      [⟨"expr", [⟨"Unit", []⟩, ⟨"Unit", []⟩, ⟨"Unit", []⟩]⟩, ⟨"stmt", [⟨"Unit", []⟩]⟩,
        ⟨"Expr", []⟩, ⟨"expr", []⟩]⟩ : Grammar).check =
      [.duplicateVariant "expr" "Unit", .duplicateFamily "Expr" 0 2,
        .duplicateFamily "Expr" 0 3] := by
  decide

end NodeFamilies
