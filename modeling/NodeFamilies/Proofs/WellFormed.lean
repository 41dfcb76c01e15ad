import NodeFamilies.Proofs.Identifiers
import NodeFamilies.Proofs.Scans

/-!
# Well-formed grammars

What a grammar must be for the checks to find nothing, said of its names and payloads alone. The
checks remember the names that they have passed; here two names are compared by their positions.
-/

namespace NodeFamilies

open Naming (Identifier keywords pathWords)

/-! ## Definitions -/

structure Variant.WellFormed (v : Variant) (family : String) : Prop where
  identifier : Identifier v.name
  notKeyword : v.name ∉ keywords
  notPathWord : v.name ∉ pathWords
  notBlank : ∀ p ∈ v.payloads, ∃ c ∈ p.toList, Text.isBlank c = false
  notByValue : ∀ p ∈ v.payloads, Payload.stripOptions p ≠ Naming.union family

structure Family.WellFormed (f : Family) : Prop where
  identifier : Identifier f.name
  notKeyword : Naming.union f.name ∉ keywords
  notPathWord : Naming.union f.name ∉ pathWords
  parameter : Text.lowercase f.name ∉ ["self", "super", "crate", "_"]
  variants : ∀ v ∈ f.variants, v.WellFormed f.name
  distinct : ∀ (k l : Nat) (v w : Variant), f.variants[k]? = some v → f.variants[l]? = some w →
    k ≠ l → v.name ≠ w.name

structure Grammar.WellFormed (g : Grammar) : Prop where
  nonempty : g.families ≠ []
  families : ∀ f ∈ g.families, f.WellFormed
  distinct : ∀ (i j : Nat) (f f' : Family), g.families[i]? = some f →
    g.families[j]? = some f' → i ≠ j → Naming.union f.name ≠ Naming.union f'.name
  root : ∃ f ∈ g.families, Naming.union f.name = Naming.union g.root.family

/-! ## Names that have been passed -/

theorem flatMap_zipIdx_eq_nil_iff {α β : Type} (l : List α) (f : α × Nat → List β) :
    l.zipIdx.flatMap f = [] ↔ ∀ i a, l[i]? = some a → f (a, i) = [] := by
  rw [List.flatMap_eq_nil_iff]
  constructor
  · intro h i a ha
    exact h (a, i) (List.mem_zipIdx_iff_getElem?.mpr ha)
  · rintro h ⟨a, i⟩ ha
    exact h i a (List.mem_zipIdx_iff_getElem?.mp ha)

theorem nodup_map_iff {α β : Type} (f : α → β) (l : List α) :
    (l.map f).Nodup ↔
      ∀ (i j : Nat) (a b : α), l[i]? = some a → l[j]? = some b → i ≠ j → f a ≠ f b := by
  rw [List.nodup_iff_getElem?_ne_getElem?]
  constructor
  · intro h i j a b ha hb hij
    have hi : i < l.length := (List.getElem?_eq_some_iff.mp ha).1
    have hj : j < l.length := (List.getElem?_eq_some_iff.mp hb).1
    rcases Nat.lt_or_gt_of_ne hij with hlt | hlt
    · have := h i j hlt (by simpa using hj)
      simpa [ha, hb] using this
    · have := h j i hlt (by simpa using hi)
      simpa [ha, hb, eq_comm] using this
  · intro h i j hij hj
    rw [List.length_map] at hj
    have hi : i < l.length := by omega
    have := h i j l[i] l[j] (List.getElem?_eq_getElem hi) (List.getElem?_eq_getElem hj) (by omega)
    simpa [hi, hj] using this

theorem notMem_take_of_nodup {α : Type} {l : List α} (h : l.Nodup) {i : Nat} {a : α}
    (ha : l[i]? = some a) : a ∉ l.take i := by
  intro hm
  obtain ⟨j, hj, hja⟩ := List.mem_take_iff_getElem.mp hm
  obtain ⟨hi, hia⟩ := List.getElem?_eq_some_iff.mp ha
  have : j = i := (List.Nodup.getElem_inj_iff h).mp (hja.trans hia.symm)
  omega

theorem nodup_of_count_take_ne_one {l : List String}
    (h : ∀ i a, l[i]? = some a → (l.take i).count a ≠ 1) : l.Nodup := by
  -- A name that occurs twice stands behind exactly one of its kind the second time.
  have hprefix : ∀ n, (l.take n).Nodup := by
    intro n
    induction n with
    | zero => simp
    | succ n ih =>
      rw [List.take_add_one]
      cases ha : l[n]? with
      | none => simpa using ih
      | some a =>
        have hle : (l.take n).count a ≤ 1 := List.nodup_iff_count_le_one.mp ih a
        have hzero : (l.take n).count a = 0 := by have := h n a ha; omega
        have hmem : a ∉ l.take n := List.count_eq_zero.mp hzero
        rw [Option.toList_some, List.nodup_append]
        refine ⟨ih, by simp, ?_⟩
        rintro b hb c hc rfl
        rw [List.mem_singleton] at hc
        exact hmem (hc ▸ hb)
  have := hprefix l.length
  rwa [List.take_length] at this

/-! ## Variants -/

theorem isReserved_eq_false_iff (name : String) :
    Naming.isReserved name = false ↔ name ∉ keywords ∧ name ∉ pathWords := by
  simp [Naming.isReserved]

theorem Variant.nameProblems_eq_nil_iff (v : Variant) (family : String) :
    v.nameProblems family = [] ↔ Identifier v.name ∧ v.name ∉ keywords ∧ v.name ∉ pathWords := by
  rw [← Naming.isIdentifier_iff, ← isReserved_eq_false_iff, Variant.nameProblems]
  cases Naming.isIdentifier v.name <;> cases Naming.isReserved v.name <;> simp

theorem Variant.duplicateProblems_eq_nil_iff (v : Variant) (family : String)
    (earlier : List String) :
    v.duplicateProblems family earlier = [] ↔ earlier.count v.name ≠ 1 := by
  rw [Variant.duplicateProblems]
  split <;> simp_all

theorem isBlank_eq_false_iff (payload : String) :
    Payload.isBlank payload = false ↔ ∃ c ∈ payload.toList, Text.isBlank c = false := by
  simp [Payload.isBlank, Text.allBlank]

theorem Variant.payloadProblems_eq_nil_iff (v : Variant) (family : String) :
    v.payloadProblems family = [] ↔
      ∀ p ∈ v.payloads, (∃ c ∈ p.toList, Text.isBlank c = false) ∧
        Payload.stripOptions p ≠ Naming.union family := by
  rw [Variant.payloadProblems, flatMap_zipIdx_eq_nil_iff]
  have hone : ∀ p i, (if Payload.isBlank p then [Problem.emptyPayload family v.name i]
      else if Payload.embeds p family then [.recursiveByValue family v.name i p] else []) = [] ↔
      (∃ c ∈ p.toList, Text.isBlank c = false) ∧
        Payload.stripOptions p ≠ Naming.union family := by
    intro p i
    rw [← isBlank_eq_false_iff, ← bne_iff_ne, bne, ← Payload.embeds]
    cases Payload.isBlank p <;> cases Payload.embeds p family <;> simp
  constructor
  · intro h p hp
    obtain ⟨i, hi⟩ := List.mem_iff_getElem?.mp hp
    exact (hone p i).mp (h i p hi)
  · intro h i p hi
    exact (hone p i).mpr (h p (List.mem_of_getElem? hi))

theorem Variant.problems_eq_nil_iff (v : Variant) (family : String) (earlier : List String) :
    v.problems family earlier = [] ↔ v.WellFormed family ∧ earlier.count v.name ≠ 1 := by
  rw [Variant.problems, List.append_eq_nil_iff, List.append_eq_nil_iff, nameProblems_eq_nil_iff,
    duplicateProblems_eq_nil_iff, payloadProblems_eq_nil_iff]
  constructor
  · rintro ⟨⟨⟨h1, h2, h3⟩, hcount⟩, hp⟩
    exact ⟨⟨h1, h2, h3, fun p h => (hp p h).1, fun p h => (hp p h).2⟩, hcount⟩
  · rintro ⟨⟨h1, h2, h3, h4, h5⟩, hcount⟩
    exact ⟨⟨⟨h1, h2, h3⟩, hcount⟩, fun p h => ⟨h4 p h, h5 p h⟩⟩

/-! ## Families -/

theorem Family.nodup_variantNames_iff (f : Family) :
    f.variantNames.Nodup ↔
      ∀ k v, f.variants[k]? = some v → (f.variantNames.take k).count v.name ≠ 1 := by
  constructor
  · intro hnodup k v hk
    have hname : f.variantNames[k]? = some v.name :=
      getElem?_variantNames_eq_some_iff.mpr ⟨v, hk, rfl⟩
    rw [List.count_eq_zero.mpr (notMem_take_of_nodup hnodup hname)]
    omega
  · intro h
    apply nodup_of_count_take_ne_one
    intro k name hname
    obtain ⟨v, hv, rfl⟩ := getElem?_variantNames_eq_some_iff.mp hname
    exact h k v hv

theorem Family.variantProblems_eq_nil_iff (f : Family) :
    f.variantProblems = [] ↔ (∀ v ∈ f.variants, v.WellFormed f.name) ∧ f.variantNames.Nodup := by
  rw [Family.variantProblems, flatMap_zipIdx_eq_nil_iff, Family.nodup_variantNames_iff]
  simp only [Variant.problems_eq_nil_iff]
  constructor
  · intro h
    refine ⟨?_, fun k v hk => (h k v hk).2⟩
    intro v hv
    obtain ⟨k, hk⟩ := List.mem_iff_getElem?.mp hv
    exact (h k v hk).1
  · rintro ⟨hv, hcount⟩ k v hk
    exact ⟨hv v (List.mem_of_getElem? hk), hcount k v hk⟩

theorem lowercase_mem_pathWords_iff {name : String} (h : Identifier name) :
    Text.lowercase name ∈ pathWords ↔ Text.lowercase name ∈ ["self", "super", "crate", "_"] := by
  -- `Self` is the only path word with a capital in it, and lower case never is that.
  have hself : Text.lowercase name ≠ "Self" := by
    intro heq
    obtain ⟨c, cs, hname, -, -⟩ := id h
    have hlist := h.lowercase_toList
    rw [heq, hname, List.map_cons] at hlist
    have hc : 'S' = c.toLower := (List.cons.inj hlist).1
    have := Char.isUpper_toLower_eq_false c
    rw [← hc] at this
    exact absurd this (by decide)
  simp [pathWords, hself]

theorem Family.nameProblems_eq_nil_iff (f : Family) :
    f.nameProblems = [] ↔ Identifier f.name ∧ Naming.union f.name ∉ keywords ∧
      Naming.union f.name ∉ pathWords ∧
      Text.lowercase f.name ∉ ["self", "super", "crate", "_"] := by
  have hreserved : Naming.isReservedFamily f.name = false ↔
      (Naming.union f.name ∉ keywords ∧ Naming.union f.name ∉ pathWords) ∧
        Text.lowercase f.name ∉ pathWords := by
    rw [Naming.isReservedFamily, Bool.or_eq_false_iff, isReserved_eq_false_iff]
    simp
  by_cases h : Identifier f.name
  · rw [← lowercase_mem_pathWords_iff h, ← and_assoc (a := Naming.union f.name ∉ keywords),
      ← hreserved, ← Naming.isIdentifier_iff, Family.nameProblems]
    cases Naming.isIdentifier f.name <;> cases Naming.isReservedFamily f.name <;> simp
  · have hid : Naming.isIdentifier f.name = false := by
      rwa [← Bool.not_eq_true, Naming.isIdentifier_iff]
    simp [Family.nameProblems, hid, h]

theorem Family.duplicateProblems_eq_nil_iff (f : Family) (earlier : List String) :
    f.duplicateProblems earlier = [] ↔ Naming.union f.name ∉ earlier := by
  rw [Family.duplicateProblems, ← List.idxOf?_eq_none_iff]
  split <;> simp_all

theorem Family.problems_eq_nil_iff (f : Family) (earlier : List String) :
    f.problems earlier = [] ↔ f.WellFormed ∧ Naming.union f.name ∉ earlier := by
  rw [Family.problems, List.append_eq_nil_iff, List.append_eq_nil_iff, nameProblems_eq_nil_iff,
    duplicateProblems_eq_nil_iff, variantProblems_eq_nil_iff, Family.variantNames, nodup_map_iff]
  constructor
  · rintro ⟨⟨⟨h1, h2, h3, h4⟩, hnew⟩, h5, h6⟩
    exact ⟨⟨h1, h2, h3, h4, h5, h6⟩, hnew⟩
  · rintro ⟨⟨h1, h2, h3, h4, h5, h6⟩, hnew⟩
    exact ⟨⟨⟨h1, h2, h3, h4⟩, hnew⟩, h5, h6⟩

/-! ## Grammars -/

namespace Grammar

theorem familyProblems_eq_nil_iff (g : Grammar) :
    g.familyProblems = [] ↔ (∀ f ∈ g.families, f.WellFormed) ∧ g.unions.Nodup := by
  rw [familyProblems, flatMap_zipIdx_eq_nil_iff]
  simp only [Family.problems_eq_nil_iff]
  constructor
  · intro h
    refine ⟨?_, nodup_of_count_take_ne_one ?_⟩
    · intro f hf
      obtain ⟨i, hi⟩ := List.mem_iff_getElem?.mp hf
      exact (h i f hi).1
    · intro i union hunion
      obtain ⟨f, hf, rfl⟩ := getElem?_unions_eq_some_iff.mp hunion
      rw [List.count_eq_zero.mpr (h i f hf).2]
      omega
  · rintro ⟨hf, hnodup⟩ i f hi
    have hunion : g.unions[i]? = some (Naming.union f.name) :=
      getElem?_unions_eq_some_iff.mpr ⟨f, hi, rfl⟩
    exact ⟨hf f (List.mem_of_getElem? hi), notMem_take_of_nodup hnodup hunion⟩

theorem rootProblems_eq_nil_iff (g : Grammar) :
    g.rootProblems = [] ↔ ∃ f ∈ g.families, Naming.union f.name = Naming.union g.root.family := by
  rw [rootProblems]
  split
  · rename_i h
    simpa [unions] using h
  · rename_i h
    simpa [unions] using h

theorem check_eq_nil_iff (g : Grammar) : g.check = [] ↔ g.WellFormed := by
  have hempty : (if g.families.isEmpty then [Problem.noFamilies] else []) = [] ↔
      g.families ≠ [] := by
    cases g.families <;> simp
  rw [check_eq, List.append_eq_nil_iff, List.append_eq_nil_iff, hempty, familyProblems_eq_nil_iff,
    rootProblems_eq_nil_iff, unions, nodup_map_iff]
  constructor
  · rintro ⟨⟨h1, h2, h3⟩, h4⟩
    exact ⟨h1, h2, h3, h4⟩
  · rintro ⟨h1, h2, h3, h4⟩
    exact ⟨⟨h1, h2, h3⟩, h4⟩

theorem ensureWellFormed_eq_ok_iff (g : Grammar) : g.ensureWellFormed = .ok () ↔ g.check = [] := by
  rw [ensureWellFormed]
  cases g.check <;> simp

/-- The checks accept the well-formed grammars and no others. -/
theorem accepted_iff_wellFormed (g : Grammar) :
    (g.check = [] ↔ g.WellFormed) ∧ (g.ensureWellFormed = .ok () ↔ g.WellFormed) :=
  ⟨check_eq_nil_iff g, (ensureWellFormed_eq_ok_iff g).trans (check_eq_nil_iff g)⟩

end Grammar

end NodeFamilies
