import NodeFamilies.Naming
import Mathlib

/-!
# Identifiers and their case

What an identifier is, character by character. It is in ASCII, where a change of case is a change
of each character by itself, so two families with the same union have the same lower case.
-/

namespace NodeFamilies.Naming

/-! ## Identifiers -/

def IdentifierStart (c : Char) : Prop := 'A' ≤ c ∧ c ≤ 'Z' ∨ 'a' ≤ c ∧ c ≤ 'z' ∨ c = '_'

def IdentifierPart (c : Char) : Prop := IdentifierStart c ∨ '0' ≤ c ∧ c ≤ '9'

instance (c : Char) : Decidable (IdentifierStart c) :=
  inferInstanceAs (Decidable ('A' ≤ c ∧ c ≤ 'Z' ∨ 'a' ≤ c ∧ c ≤ 'z' ∨ c = '_'))

instance (c : Char) : Decidable (IdentifierPart c) :=
  inferInstanceAs (Decidable (IdentifierStart c ∨ '0' ≤ c ∧ c ≤ '9'))

/-- The whole text is a letter or underscore, then letters, underscores and digits. -/
def Identifier (name : String) : Prop :=
  ∃ c cs, name.toList = c :: cs ∧ IdentifierStart c ∧ ∀ d ∈ cs, IdentifierPart d

theorem isAlpha_iff (c : Char) : c.isAlpha = true ↔ 'A' ≤ c ∧ c ≤ 'Z' ∨ 'a' ≤ c ∧ c ≤ 'z' := by
  simp [Char.isAlpha, Char.isUpper, Char.isLower, Char.le_def]

theorem isIdentifierStart_iff (c : Char) : isIdentifierStart c = true ↔ IdentifierStart c := by
  rw [isIdentifierStart, Bool.or_eq_true, isAlpha_iff, beq_iff_eq, or_assoc]
  rfl

theorem isIdentifierPart_iff (c : Char) : isIdentifierPart c = true ↔ IdentifierPart c := by
  have hd : c.isDigit = true ↔ '0' ≤ c ∧ c ≤ '9' := by simp [Char.isDigit, Char.le_def]
  rw [isIdentifierPart, Char.isAlphanum, Bool.or_eq_true, Bool.or_eq_true, isAlpha_iff, hd,
    beq_iff_eq, IdentifierPart, IdentifierStart]
  tauto

theorem isIdentifier_iff (name : String) : isIdentifier name = true ↔ Identifier name := by
  unfold isIdentifier Identifier
  cases name.toList with
  | nil => simp
  | cons c cs => simp [isIdentifierStart_iff, isIdentifierPart_iff]

theorem Identifier.parts {name : String} (h : Identifier name) :
    ∀ c ∈ name.toList, IdentifierPart c := by
  obtain ⟨c, cs, heq, hc, hcs⟩ := h
  intro d hd
  rw [heq] at hd
  rcases List.mem_cons.mp hd with rfl | hd
  · exact Or.inl hc
  · exact hcs d hd

theorem IdentifierPart.isAscii {c : Char} (h : IdentifierPart c) : Text.isAscii c = true := by
  simp only [IdentifierPart, IdentifierStart, Char.le_def, UInt32.le_iff_toNat_le, Char.toNat_val]
    at h
  simp only [Text.isAscii, decide_eq_true_eq]
  rcases h with (⟨-, h⟩ | ⟨-, h⟩ | rfl) | ⟨-, h⟩
  · exact lt_of_le_of_lt h (by decide)
  · exact lt_of_le_of_lt h (by decide)
  · decide
  · exact lt_of_le_of_lt h (by decide)

/-! ## Case -/

theorem lowercaseAfter_of_isAscii (s : List Char) (h : ∀ c ∈ s, Text.isAscii c = true)
    (before : List Char) : Text.lowercaseAfter before s = s.map Char.toLower := by
  -- No capital sigma is in it, so the end of a word does not matter.
  induction s generalizing before with
  | nil => rfl
  | cons c s ih =>
    have hc : Text.isAscii c = true := h c List.mem_cons_self
    have hne : c ≠ 'Σ' := by rintro rfl; exact absurd hc (by decide)
    rw [Text.lowercaseAfter, if_neg hne, Text.lower, if_pos hc,
      ih (fun d hd => h d (List.mem_cons_of_mem c hd))]
    rfl

theorem Identifier.lowercase_toList {name : String} (h : Identifier name) :
    (Text.lowercase name).toList = name.toList.map Char.toLower := by
  rw [Text.lowercase, String.toList_ofList,
    lowercaseAfter_of_isAscii _ (fun c hc => (h.parts c hc).isAscii)]

theorem Identifier.union_toList {name : String} (h : Identifier name) :
    ∃ c cs, name.toList = c :: cs ∧ (union name).toList = c.toUpper :: cs := by
  obtain ⟨c, cs, heq, hc, -⟩ := h
  refine ⟨c, cs, heq, ?_⟩
  have ha : Text.isAscii c = true := IdentifierPart.isAscii (Or.inl hc)
  simp [union, Text.capitalize, heq, Text.upper, ha]

theorem identifierStart_toUpper_iff (c : Char) : IdentifierStart c.toUpper ↔ IdentifierStart c := by
  rw [← isIdentifierStart_iff, ← isIdentifierStart_iff, isIdentifierStart, isIdentifierStart,
    Char.isAlpha_toUpper_eq_isAlpha]
  by_cases ha : c.isAlpha = true
  · simp [ha]
  · rw [Char.toUpper_eq_of_not_isLower (by simp_all [Char.isAlpha])]

theorem IdentifierPart.toLower {c : Char} (h : IdentifierPart c) : IdentifierPart c.toLower := by
  by_cases ha : c.isAlpha = true
  · rw [← isIdentifierPart_iff, isIdentifierPart, Char.isAlphanum,
      Char.isAlpha_toLower_eq_isAlpha, ha]
    rfl
  · rwa [Char.toLower_eq_of_not_isUpper (by simp_all [Char.isAlpha])]

theorem IdentifierStart.toLower {c : Char} (h : IdentifierStart c) : IdentifierStart c.toLower := by
  by_cases ha : c.isAlpha = true
  · rw [← isIdentifierStart_iff, isIdentifierStart, Char.isAlpha_toLower_eq_isAlpha, ha]
    rfl
  · rwa [Char.toLower_eq_of_not_isUpper (by simp_all [Char.isAlpha])]

theorem Identifier.lowercase {name : String} (h : Identifier name) :
    Identifier (Text.lowercase name) := by
  have hlist := h.lowercase_toList
  obtain ⟨c, cs, heq, hc, hcs⟩ := h
  rw [heq, List.map_cons] at hlist
  refine ⟨c.toLower, cs.map Char.toLower, hlist, hc.toLower, ?_⟩
  intro d hd
  obtain ⟨e, he, rfl⟩ := List.mem_map.mp hd
  exact (hcs e he).toLower

theorem Identifier.append {name tail : String} (h : Identifier name)
    (ht : ∀ c ∈ tail.toList, IdentifierPart c) : Identifier (name ++ tail) := by
  obtain ⟨c, cs, heq, hc, hcs⟩ := h
  refine ⟨c, cs ++ tail.toList, by simp [heq], hc, ?_⟩
  intro d hd
  rcases List.mem_append.mp hd with hd | hd
  · exact hcs d hd
  · exact ht d hd

theorem identifier_union_iff {name : String} (h : ∀ c ∈ name.toList, Text.isAscii c = true) :
    Identifier (union name) ↔ Identifier name := by
  unfold Identifier
  cases heq : name.toList with
  | nil => simp [union, Text.capitalize, heq]
  | cons c cs =>
    have hc : Text.isAscii c = true := h c (by simp [heq])
    have hunion : (union name).toList = c.toUpper :: cs := by
      simp [union, Text.capitalize, heq, Text.upper, hc]
    simp only [hunion, List.cons.injEq]
    constructor
    · rintro ⟨d, ds, ⟨rfl, rfl⟩, hd, hds⟩
      exact ⟨c, cs, ⟨rfl, rfl⟩, (identifierStart_toUpper_iff c).mp hd, hds⟩
    · rintro ⟨d, ds, ⟨rfl, rfl⟩, hd, hds⟩
      exact ⟨c.toUpper, cs, ⟨rfl, rfl⟩, (identifierStart_toUpper_iff c).mpr hd, hds⟩

theorem isAscii_of_identifier {name : String} (h : Identifier name) :
    ∀ c ∈ name.toList, Text.isAscii c = true :=
  fun c hc => (h.parts c hc).isAscii

theorem lowercase_eq_of_union_eq {f f' : String} (h : Identifier f) (h' : Identifier f')
    (hu : union f = union f') : Text.lowercase f = Text.lowercase f' := by
  obtain ⟨c, cs, hf, huf⟩ := h.union_toList
  obtain ⟨c', cs', hf', huf'⟩ := h'.union_toList
  rw [← String.toList_inj, huf, huf', List.cons.injEq] at hu
  obtain ⟨hc, rfl⟩ := hu
  have hlow : c.toLower = c'.toLower := by
    rw [← Char.toLower_toUpper_eq_toLower c, hc, Char.toLower_toUpper_eq_toLower]
  rw [← String.toList_inj, h.lowercase_toList, h'.lowercase_toList, hf, hf', List.map_cons,
    List.map_cons, hlow]

end NodeFamilies.Naming
