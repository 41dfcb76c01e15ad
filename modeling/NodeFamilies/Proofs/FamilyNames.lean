import NodeFamilies.Proofs.Topics

/-!
# The names of a family

A family is written under four names: those of its union, its visitor, the method that visits it and
the parameter of that method. The checks look at the name of the family alone; it is refused exactly
when one of the four cannot be written.
-/

namespace NodeFamilies

open Problem (about mem_about_iff)

/-! ## Definitions -/

namespace Naming

/-- A word that can be a name: an identifier that is not kept for the language, or a word that is
kept for it and marked as a name. -/
def Legal (word : String) : Prop :=
  Identifier word ∧ word ∉ keywords ∧ word ∉ pathWords ∨ ∃ k ∈ keywords, word = "r#" ++ k

/-- The names that are written for a family. -/
def written (family : String) : List String :=
  [union family, visitor family, method family, parameter family]

end Naming

namespace Problem

/-- The problem refuses the name of a family. -/
def refuses (family : String) : Problem → Bool
  | badFamilyName name => name == family
  | reservedFamilyName name _ => name == family
  | _ => false

end Problem

namespace Naming

/-! ## Legal words -/

theorem legal_visitor {family : String} (h : Identifier family) : Legal (visitor family) := by
  -- No kept word has a `V` in it.
  have hunion : Identifier (union family) :=
    (identifier_union_iff (isAscii_of_identifier h)).mpr h
  have hsuffix : Identifier "Visitor" := (isIdentifier_iff _).mp (by decide)
  have hvisitor : Identifier (visitor family) := hunion.append hsuffix.parts
  have hmem : 'V' ∈ (visitor family).toList := by simp [visitor]
  have hk : ∀ k ∈ keywords, 'V' ∉ k.toList := by decide
  have hp : ∀ k ∈ pathWords, 'V' ∉ k.toList := by decide
  exact Or.inl ⟨hvisitor, fun hm => hk _ hm hmem, fun hm => hp _ hm hmem⟩

theorem legal_method {family : String} (h : Identifier family) : Legal (method family) := by
  -- The only kept word with an underscore is the underscore itself.
  have hvisit : Identifier "visit_" := (isIdentifier_iff _).mp (by decide)
  have hmethod : Identifier (method family) := hvisit.append h.lowercase.parts
  have hk : ∀ k ∈ keywords, '_' ∉ k.toList := by decide
  have hp : ∀ k ∈ pathWords, 'v' ∉ k.toList := by decide
  exact Or.inl ⟨hmethod, fun hm => hk _ hm (by simp [method]), fun hm => hp _ hm (by simp [method])⟩

theorem union_ne_marked {family : String} (h : ∀ c ∈ family.toList, Text.isAscii c = true)
    (word : String) : union family ≠ "r#" ++ word := by
  -- A marked word is no identifier, and no union begins with a small letter unless the language
  -- has no other for it.
  intro heq
  rw [← String.toList_inj] at heq
  cases hf : family.toList with
  | nil => simp [union, Text.capitalize, hf] at heq
  | cons c cs =>
    have hc : Text.isAscii c = true := h c (by simp [hf])
    have hupper : c.toUpper = 'r' := by
      simp [union, Text.capitalize, hf, Text.upper, hc] at heq
      exact heq.1
    have hlower := Char.isLower_toUpper_eq_false c
    rw [hupper] at hlower
    exact absurd hlower (by decide)

theorem legal_union_iff {family : String} (h : ∀ c ∈ family.toList, Text.isAscii c = true) :
    Legal (union family) ↔
      Identifier family ∧ union family ∉ keywords ∧ union family ∉ pathWords := by
  have hmarked : ¬∃ k ∈ keywords, union family = "r#" ++ k := by
    rintro ⟨k, -, heq⟩
    exact union_ne_marked h k heq
  rw [Legal, identifier_union_iff h, or_iff_left hmarked]

theorem legal_parameter_iff {family : String} (h : Identifier family) :
    Legal (parameter family) ↔ Text.lowercase family ∉ pathWords := by
  unfold parameter
  by_cases hk : Text.lowercase family ∈ keywords
  · have hpath : ∀ k ∈ keywords, k ∉ pathWords := by decide
    have hlegal : Legal ("r#" ++ Text.lowercase family) := Or.inr ⟨_, hk, rfl⟩
    simp [hk, hlegal, hpath _ hk]
  · have hmarked : ¬∃ k ∈ keywords, Text.lowercase family = "r#" ++ k := by
      rintro ⟨k, -, heq⟩
      have hparts := h.lowercase.parts '#' (by simp [heq])
      exact absurd hparts (by decide)
    simp [hk, Legal, h.lowercase, hmarked]

end Naming

open Naming (Identifier Legal)

theorem Family.nameProblems_eq_nil_iff_legal {f : Family}
    (h : ∀ c ∈ f.name.toList, Text.isAscii c = true) :
    f.nameProblems = [] ↔ ∀ word ∈ Naming.written f.name, Legal word := by
  rw [Family.nameProblems_eq_nil_iff]
  simp only [Naming.written, List.forall_mem_cons, List.not_mem_nil, false_imp_iff, implies_true,
    and_true, Naming.legal_union_iff h]
  constructor
  · rintro ⟨hid, hkey, hpath, hlower⟩
    refine ⟨⟨hid, hkey, hpath⟩, Naming.legal_visitor hid, Naming.legal_method hid, ?_⟩
    exact (Naming.legal_parameter_iff hid).mpr (mt (lowercase_mem_pathWords_iff hid).mp hlower)
  · rintro ⟨⟨hid, hkey, hpath⟩, -, -, hparameter⟩
    have hlower := (Naming.legal_parameter_iff hid).mp hparameter
    exact ⟨hid, hkey, hpath, mt (lowercase_mem_pathWords_iff hid).mpr hlower⟩

/-! ## What the checks say of a name -/

theorem Problem.topic_of_refuses {family : String} {p : Problem} (h : p.refuses family = true) :
    p.topic = .familyName := by
  cases p <;> simp [refuses] at h <;> rfl

theorem Family.length_nameProblems_le (f : Family) : f.nameProblems.length ≤ 1 := by
  unfold nameProblems
  split
  · simp
  split <;> simp

theorem Family.filter_refuses_nameProblems (f : Family) (family : String) :
    f.nameProblems.filter (·.refuses family) = if f.name = family then f.nameProblems else [] := by
  split
  · rename_i hname
    rw [List.filter_eq_self]
    intro p hp
    rcases eq_of_mem_nameProblems hp with rfl | rfl <;>
      simp [Problem.refuses, hname]
  · rename_i hname
    rw [List.filter_eq_nil_iff]
    intro p hp
    rcases eq_of_mem_nameProblems hp with rfl | rfl <;>
      simp [Problem.refuses, hname]

namespace Grammar

variable {g : Grammar} {f : Family}

theorem filter_refuses_check (g : Grammar) (f : Family) :
    g.check.filter (·.refuses f.name) =
      (List.replicate (g.families.countP (·.name = f.name)) f.nameProblems).flatten := by
  have htopic : g.check.filter (·.refuses f.name) =
      (about .familyName g.check).filter (·.refuses f.name) := by
    rw [about, List.filter_filter]
    apply List.filter_congr
    intro p _
    cases hp : p.refuses f.name with
    | false => simp
    | true => simp [Problem.topic_of_refuses hp]
  rw [htopic, about_familyName, List.filter_flatMap]
  induction g.families with
  | nil => rfl
  | cons f' fs ih =>
    rw [List.flatMap_cons, ih, Family.filter_refuses_nameProblems, List.countP_cons]
    split
    · rename_i hname
      have hsame : f'.nameProblems = f.nameProblems := by
        rw [Family.nameProblems, Family.nameProblems, hname]
      simp [hname, hsame, List.replicate_succ]
    · rename_i hname
      simp [hname]

theorem exists_refuses_iff (hf : f ∈ g.families) :
    (∃ p ∈ g.check, p.refuses f.name = true) ↔ f.nameProblems ≠ [] := by
  have hpos : g.families.countP (·.name = f.name) ≠ 0 := by
    rw [Nat.ne_zero_iff_zero_lt, List.countP_pos_iff]
    exact ⟨f, hf, by simp⟩
  have hsome : (∃ p ∈ g.check, p.refuses f.name = true) ↔
      g.check.filter (·.refuses f.name) ≠ [] := by
    simp [List.filter_eq_nil_iff]
  rw [hsome, filter_refuses_check, ne_eq, List.flatten_eq_nil_iff, List.forall_mem_replicate]
  simp [hpos]

theorem badFamilyName_mem_check (hf : f ∈ g.families) (h : ¬Identifier f.name) :
    .badFamilyName f.name ∈ g.check := by
  have hid : Naming.isIdentifier f.name = false := by
    rwa [← Bool.not_eq_true, Naming.isIdentifier_iff]
  have hmem : .badFamilyName f.name ∈ f.nameProblems := by simp [Family.nameProblems, hid]
  have habout : .badFamilyName f.name ∈ about .familyName g.check := by
    rw [about_familyName]
    exact List.mem_flatMap.mpr ⟨f, hf, hmem⟩
  exact (mem_about_iff.mp habout).1

/-- An ASCII name is refused exactly when one of the names written for it is not legal, and a name
with other characters is refused as no identifier. Each family of the name gets one problem for it,
or none of them does. -/
theorem familyName_refused_iff (g : Grammar) (f : Family) (hf : f ∈ g.families) :
    ((∀ c ∈ f.name.toList, Text.isAscii c = true) →
      ((∃ p ∈ g.check, p.refuses f.name = true) ↔
        ∃ word ∈ Naming.written f.name, ¬Legal word)) ∧
    ((∃ c ∈ f.name.toList, Text.isAscii c = false) → .badFamilyName f.name ∈ g.check) ∧
    ∃ ps : List Problem, ps.length ≤ 1 ∧ g.check.filter (·.refuses f.name) =
      (List.replicate (g.families.countP (·.name = f.name)) ps).flatten := by
  refine ⟨?_, ?_, f.nameProblems, f.length_nameProblems_le, filter_refuses_check g f⟩
  · intro hascii
    rw [exists_refuses_iff hf, ne_eq, Family.nameProblems_eq_nil_iff_legal hascii]
    simp
  · rintro ⟨c, hc, hascii⟩
    apply badFamilyName_mem_check hf
    intro hid
    rw [Naming.isAscii_of_identifier hid c hc] at hascii
    cases hascii

theorem familyName_refused_iff_words :
    let g : Grammar := ⟨"ast", ⟨"type", .single⟩, "crate::scanner",
      [⟨"type", []⟩, ⟨"SELF", []⟩, ⟨"größe", []⟩]⟩
    (∀ word ∈ Naming.written "type", Legal word) ∧
      (∃ word ∈ Naming.written "SELF", ¬Legal word) ∧ .badFamilyName "größe" ∈ g.check := by
  intro g
  have hascii : ∀ name : String, Naming.isIdentifier name = true →
      ∀ c ∈ name.toList, Text.isAscii c = true :=
    fun name h => Naming.isAscii_of_identifier ((Naming.isIdentifier_iff name).mp h)
  refine ⟨?_, ?_, ?_⟩
  · have h := (familyName_refused_iff g ⟨"type", []⟩ (by decide)).1 (hascii _ (by decide))
    by_contra hlegal
    push Not at hlegal
    exact absurd (h.mpr hlegal) (by decide)
  · have h := (familyName_refused_iff g ⟨"SELF", []⟩ (by decide)).1 (hascii _ (by decide))
    exact h.mp ⟨.reservedFamilyName "SELF" "SELF", by decide, by decide⟩
  · exact (familyName_refused_iff g ⟨"größe", []⟩ (by decide)).2.1 ⟨'ö', by decide, by decide⟩

end Grammar

end NodeFamilies
