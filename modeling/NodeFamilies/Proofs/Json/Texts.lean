import NodeFamilies.Json.Read
import NodeFamilies.Proofs.Json.Value

/-!
# Reading a text

Each reader takes off exactly the spellings of what it returns: two directions, for the digits of
an escape, the escape, the characters between the quotes and the whole text.
-/

namespace NodeFamilies.Json

theorem bind_eq_ok {ε α β : Type} {x : Except ε α} {f : α → Except ε β} {b : β} :
    (x >>= f) = .ok b ↔ ∃ a, x = .ok a ∧ f a = .ok b := by
  cases x <;> simp [Bind.bind, Except.bind]

/-! ## Digits -/

theorem hexDigit?_eq_some_iff {c : Char} {n : Nat} : hexDigit? c = some n ↔ HexDigit c n := by
  unfold hexDigit?
  simp only [Bool.and_eq_true, decide_eq_true_eq]
  constructor
  · intro h
    split at h
    · obtain ⟨rfl⟩ := h
      rename_i hc
      exact .digit hc.1 hc.2
    split at h
    · obtain ⟨rfl⟩ := h
      rename_i hc
      exact .lower hc.1 hc.2
    split at h
    · obtain ⟨rfl⟩ := h
      rename_i hc
      exact .upper hc.1 hc.2
    · cases h
  · intro h
    cases h with
    | digit h₁ h₂ => rw [if_pos ⟨h₁, h₂⟩]; rfl
    | lower h₁ h₂ =>
      have hn : ¬('0' ≤ c ∧ c ≤ '9') := fun h => absurd (Char.le_trans h₁ h.2) (by decide)
      rw [if_neg hn, if_pos ⟨h₁, h₂⟩]; rfl
    | upper h₁ h₂ =>
      have hn : ¬('0' ≤ c ∧ c ≤ '9') := fun h => absurd (Char.le_trans h₁ h.2) (by decide)
      have hn' : ¬('a' ≤ c ∧ c ≤ 'f') := fun h => absurd (Char.le_trans h.1 h₂) (by decide)
      rw [if_neg hn, if_neg hn', if_pos ⟨h₁, h₂⟩]; rfl

theorem hexValue?_eq_some_iff {a b c d : Char} {n : Nat} :
    hexValue? a b c d = some n ↔ CodeUnit n [a, b, c, d] := by
  simp only [hexValue?, Option.bind_eq_bind, Option.bind_eq_some_iff, Option.pure_def,
    Option.some.injEq, hexDigit?_eq_some_iff]
  constructor
  · rintro ⟨i, hi, j, hj, k, hk, l, hl, rfl⟩
    exact .mk hi hj hk hl
  · rintro ⟨hi, hj, hk, hl⟩
    exact ⟨_, hi, _, hj, _, hk, _, hl, rfl⟩

theorem readHex_eq_ok_iff {text rest : List Char} {n : Nat} :
    readHex text = .ok (n, rest) ↔ ∃ t, CodeUnit n t ∧ text = t ++ rest := by
  unfold readHex
  constructor
  · intro h
    split at h
    · split at h
      · obtain ⟨rfl, rfl⟩ := h
        rename_i heq
        exact ⟨_, hexValue?_eq_some_iff.mp heq, rfl⟩
      · cases h
    · cases h
  · rintro ⟨t, ht, rfl⟩
    obtain ⟨ha, hb, hc, hd⟩ := ht
    have hv := hexValue?_eq_some_iff.mpr (.mk ha hb hc hd)
    simp [hv]

/-! ## Escapes -/

theorem shortEscape?_eq_some_iff {letter c : Char} :
    shortEscape? letter = some c ↔ (letter, c) ∈ escapes := by
  constructor
  · unfold shortEscape?
    intro h
    split at h <;> first | (obtain rfl := Option.some.inj h; decide) | cases h
  · intro h
    simp only [escapes, List.mem_cons, Prod.mk.injEq, List.not_mem_nil, or_false] at h
    rcases h with ⟨rfl, rfl⟩ | ⟨rfl, rfl⟩ | ⟨rfl, rfl⟩ | ⟨rfl, rfl⟩ | ⟨rfl, rfl⟩ | ⟨rfl, rfl⟩ |
      ⟨rfl, rfl⟩ | ⟨rfl, rfl⟩ <;> rfl

theorem HexDigit.lt {c : Char} {n : Nat} (h : HexDigit c n) : n < 16 := by
  have h0 : '0'.toNat = 48 ∧ '9'.toNat = 57 := ⟨rfl, rfl⟩
  have ha : 'a'.toNat = 97 ∧ 'f'.toNat = 102 := ⟨rfl, rfl⟩
  have hA : 'A'.toNat = 65 ∧ 'F'.toNat = 70 := ⟨rfl, rfl⟩
  cases h <;> simp only [Char.le_def, UInt32.le_iff_toNat_le, Char.toNat_val] at * <;> omega

theorem CodeUnit.lt {n : Nat} {t : List Char} (h : CodeUnit n t) : n < 0x10000 := by
  obtain ⟨ha, hb, hc, hd⟩ := h
  have := ha.lt
  have := hb.lt
  have := hc.lt
  have := hd.lt
  omega

theorem toNat_notMem_surrogates (c : Char) : ¬(0xD800 ≤ c.toNat ∧ c.toNat ≤ 0xDFFF) := by
  have hv : c.toNat < 0xD800 ∨ 0xDFFF < c.toNat ∧ c.toNat < 0x110000 := c.valid
  omega

theorem toNat_ofNat {n : Nat} (h : n < 0xD800 ∨ 0xDFFF < n ∧ n < 0x110000) :
    (Char.ofNat n).toNat = n := by
  have hv : n.isValidChar := h
  rw [Char.ofNat, dif_pos hv]
  rfl

theorem joinSurrogates_eq_iff {high low : Nat} {c : Char} (h : isLeadSurrogate high = true)
    (h' : isTrailSurrogate low = true) :
    joinSurrogates high low = c ↔
      c.toNat = (high - 0xD800) * 0x400 + (low - 0xDC00) + 0x10000 := by
  simp only [isLeadSurrogate, isTrailSurrogate, Bool.and_eq_true, decide_eq_true_eq] at h h'
  have hn : (joinSurrogates high low).toNat =
      (high - 0xD800) * 0x400 + (low - 0xDC00) + 0x10000 := toNat_ofNat (by omega)
  rw [← hn, eq_comm, ← Char.toNat_inj]

theorem readTrail_eq_ok_iff {high : Nat} {text rest : List Char} {c : Char} :
    readTrail high text = .ok (c, rest) ↔
      ∃ low u, CodeUnit low u ∧ isTrailSurrogate low = true ∧ joinSurrogates high low = c ∧
        text = '\\' :: 'u' :: (u ++ rest) := by
  constructor
  · intro h
    unfold readTrail at h
    split at h
    · cases h
    · split at h
      · cases h
      · obtain ⟨⟨low, rest'⟩, hd, hlow⟩ := bind_eq_ok.mp h
        obtain ⟨u, hu, rfl⟩ := readHex_eq_ok_iff.mp hd
        dsimp only at hlow
        split at hlow
        · obtain ⟨rfl, rfl⟩ := Prod.mk.inj (Except.ok.inj hlow)
          exact ⟨low, u, hu, ‹_›, rfl, rfl⟩
        · cases hlow
      · cases h
    · cases h
  · rintro ⟨low, u, hu, hl, rfl, rfl⟩
    have hd : readHex (u ++ rest) = .ok (low, rest) := readHex_eq_ok_iff.mpr ⟨u, hu, rfl⟩
    simp [readTrail, hd, hl, bind_eq_ok]

theorem readCodeUnits_eq_ok_iff {text rest : List Char} {c : Char} :
    readCodeUnits text = .ok (c, rest) ↔
      ∃ t, SpellsChar c ('\\' :: 'u' :: t) ∧ text = t ++ rest := by
  constructor
  · intro h
    obtain ⟨⟨n, rest'⟩, hd, hn⟩ := bind_eq_ok.mp h
    obtain ⟨t, ht, rfl⟩ := readHex_eq_ok_iff.mp hd
    have hlt : n < 0x10000 := ht.lt
    dsimp only at hn
    split at hn
    · cases hn
    split at hn
    · rename_i hlead
      obtain ⟨low, u, hu, htrail, hc, rfl⟩ := readTrail_eq_ok_iff.mp hn
      rw [joinSurrogates_eq_iff hlead htrail] at hc
      simp only [isLeadSurrogate, isTrailSurrogate, Bool.and_eq_true, decide_eq_true_eq]
        at hlead htrail
      exact ⟨_, .pair ht hu hlead.1 hlead.2 htrail.1 htrail.2 hc, by simp⟩
    · rename_i htrail hlead
      obtain ⟨rfl, rfl⟩ := hn
      simp only [isLeadSurrogate, isTrailSurrogate, Bool.and_eq_true, decide_eq_true_eq]
        at hlead htrail
      have heq : (Char.ofNat n).toNat = n := toNat_ofNat (by omega)
      exact ⟨t, .unit (by rwa [heq]), rfl⟩
  · rintro ⟨t, ht, rfl⟩
    generalize hs : '\\' :: 'u' :: t = s at ht
    -- Only the last two ways to spell a character have a `u` behind the backslash.
    cases ht with
    | plain => cases hs
    | short h =>
      obtain ⟨-, rfl, rfl⟩ := hs
      exact absurd h (by simp [escapes])
    | unit ht =>
      obtain ⟨-, -, rfl⟩ := hs
      have hd : readHex (t ++ rest) = .ok (c.toNat, rest) := readHex_eq_ok_iff.mpr ⟨t, ht, rfl⟩
      have hc := toNat_notMem_surrogates c
      refine bind_eq_ok.mpr ⟨_, hd, ?_⟩
      have hl : isLeadSurrogate c.toNat = false := by simp [isLeadSurrogate]; omega
      have hl' : isTrailSurrogate c.toNat = false := by simp [isTrailSurrogate]; omega
      simp [hl, hl']
    | @pair high low t' u ht hu h₁ h₂ h₃ h₄ hc =>
      obtain ⟨-, -, rfl⟩ := hs
      have hlead : isLeadSurrogate high = true := by simp [isLeadSurrogate, h₁, h₂]
      have hlead' : isTrailSurrogate high = false := by simp [isTrailSurrogate]; omega
      have htrail : isTrailSurrogate low = true := by simp [isTrailSurrogate, h₃, h₄]
      refine bind_eq_ok.mpr ⟨(high, '\\' :: 'u' :: (u ++ rest)), ?_, ?_⟩
      · exact readHex_eq_ok_iff.mpr ⟨t', ht, by simp⟩
      · have hj := (joinSurrogates_eq_iff hlead htrail).mpr hc
        simp only [hlead, hlead', if_true, Bool.false_eq_true, if_false]
        exact readTrail_eq_ok_iff.mpr ⟨low, u, hu, htrail, hj, rfl⟩

theorem readEscape_eq_ok_iff {text rest : List Char} {c : Char} :
    readEscape text = .ok (c, rest) ↔ ∃ t, SpellsChar c ('\\' :: t) ∧ text = t ++ rest := by
  cases text with
  | nil =>
    simp only [readEscape, reduceCtorEq, false_iff, not_exists, not_and]
    rintro t ht hnil
    obtain ⟨rfl, -⟩ := List.append_eq_nil_iff.mp hnil.symm
    cases ht with
    | plain _ _ h => exact h rfl
  | cons letter text =>
    rw [readEscape]
    split
    · rename_i hu
      subst hu
      rw [readCodeUnits_eq_ok_iff]
      constructor
      · rintro ⟨t, ht, rfl⟩
        exact ⟨'u' :: t, ht, rfl⟩
      · rintro ⟨t, ht, heq⟩
        cases t with
        | nil =>
          cases ht with
          | plain _ _ h => exact absurd rfl h
        | cons d t =>
          obtain ⟨rfl, rfl⟩ := List.cons.inj heq
          exact ⟨t, ht, rfl⟩
    · rename_i hu
      constructor
      · intro h
        split at h
        · obtain ⟨rfl, rfl⟩ := h
          rename_i heq
          exact ⟨[letter], .short (shortEscape?_eq_some_iff.mp heq), rfl⟩
        · cases h
      · rintro ⟨t, ht, heq⟩
        cases ht with
        | plain _ _ h => exact absurd rfl h
        | short h =>
          obtain ⟨rfl, rfl⟩ := List.cons.inj heq
          simp [shortEscape?_eq_some_iff.mpr h]
        | unit => exact absurd (List.cons.inj heq).1 hu
        | pair => exact absurd (List.cons.inj heq).1 hu

/-! ## Texts -/

theorem SpellsChar.plain_or_escape {c : Char} {t : List Char} (h : SpellsChar c t) :
    (t = [c] ∧ 0x20 ≤ c.toNat ∧ c ≠ '"' ∧ c ≠ '\\') ∨ ∃ u, t = '\\' :: u := by
  cases h with
  | plain h₁ h₂ h₃ => exact Or.inl ⟨rfl, h₁, h₂, h₃⟩
  | short | unit | pair => exact Or.inr ⟨_, rfl⟩

/-- A character that stands for itself. -/
def isPlain (c : Char) : Bool := 0x20 ≤ c.toNat && c != '"' && c != '\\'

theorem spellsChar_of_isPlain {c : Char} (h : isPlain c = true) : SpellsChar c [c] := by
  obtain ⟨⟨hcontrol, hquote⟩, hescape⟩ := by simpa [isPlain] using h
  exact .plain hcontrol hquote hescape

theorem quoted_of_plain {s : String} (h : s.toList.all isPlain = true) :
    Quoted s ('"' :: s.toList ++ ['"']) := by
  have hchars : ∀ cs : List Char, cs.all isPlain = true → SpellsChars cs cs := by
    intro cs
    induction cs with
    | nil => exact fun _ => .nil
    | cons c cs ih =>
      intro hcs
      rw [List.all_cons, Bool.and_eq_true] at hcs
      exact .cons (spellsChar_of_isPlain hcs.1) (ih hcs.2)
  exact ⟨s.toList, hchars _ h, rfl⟩

theorem readCharacters_eq_ok_iff {bound : Nat} {text rest cs : List Char}
    (hb : text.length ≤ bound) :
    readCharacters bound text = .ok (cs, rest) ↔
      ∃ t, SpellsChars cs t ∧ text = t ++ '"' :: rest := by
  -- A bound as long as the text is never what ends the reading.
  induction bound generalizing text cs with
  | zero =>
    obtain rfl := List.length_eq_zero_iff.mp (by omega : text.length = 0)
    simp [readCharacters]
  | succ bound ih =>
    cases text with
    | nil => simp [readCharacters]
    | cons c text =>
      have hb : text.length ≤ bound := Nat.le_of_succ_le_succ hb
      rw [readCharacters]
      constructor
      · intro h
        split at h
        · rename_i hc
          subst hc
          obtain ⟨rfl, rfl⟩ := Prod.mk.inj (Except.ok.inj h)
          exact ⟨[], .nil, rfl⟩
        split at h
        · rename_i hc
          subst hc
          obtain ⟨⟨d, more⟩, hd, h'⟩ := bind_eq_ok.mp h
          obtain ⟨⟨ds, rest'⟩, hds, heq⟩ := bind_eq_ok.mp h'
          obtain ⟨rfl, rfl⟩ := Prod.mk.inj (Except.ok.inj heq)
          obtain ⟨t, ht, rfl⟩ := readEscape_eq_ok_iff.mp hd
          have hmore : more.length ≤ bound := by simp at hb; omega
          obtain ⟨u, hu, rfl⟩ := (ih hmore).mp hds
          exact ⟨'\\' :: t ++ u, .cons ht hu, by simp⟩
        split at h
        · cases h
        · rename_i hq hs hx
          obtain ⟨⟨ds, rest'⟩, hds, heq⟩ := bind_eq_ok.mp h
          obtain ⟨rfl, rfl⟩ := Prod.mk.inj (Except.ok.inj heq)
          obtain ⟨u, hu, rfl⟩ := (ih hb).mp hds
          exact ⟨[c] ++ u, .cons (.plain (Nat.le_of_not_lt hx) hq hs) hu, rfl⟩
      · rintro ⟨t, ht, heq⟩
        cases ht with
        | nil =>
          obtain ⟨rfl, rfl⟩ := List.cons.inj heq
          rw [if_pos rfl]
        | @cons d ds t u hd hds =>
          rcases hd.plain_or_escape with ⟨rfl, hx, hq, hs⟩ | ⟨v, rfl⟩
          · obtain ⟨rfl, rfl⟩ := List.cons.inj heq
            have hrec := (ih hb).mpr ⟨u, hds, rfl⟩
            rw [if_neg hq, if_neg hs, if_neg (Nat.not_lt.mpr hx)]
            exact bind_eq_ok.mpr ⟨_, hrec, rfl⟩
          · rw [List.append_assoc] at heq
            obtain ⟨rfl, htext⟩ := List.cons.inj heq
            have htext : text = v ++ (u ++ '"' :: rest) := htext
            have hmore : (u ++ '"' :: rest).length ≤ bound := by simp [htext] at hb ⊢; omega
            have hrec := (ih hmore).mpr ⟨u, hds, rfl⟩
            rw [if_neg (by decide), if_pos rfl]
            refine bind_eq_ok.mpr ⟨_, readEscape_eq_ok_iff.mpr ⟨v, hd, htext⟩, ?_⟩
            exact bind_eq_ok.mpr ⟨_, hrec, rfl⟩

theorem readText_eq_ok_iff {text rest : List Char} {s : String} :
    readText text = .ok (s, rest) ↔ ∃ q, Quoted s q ∧ '"' :: text = q ++ rest := by
  unfold readText Quoted
  rw [bind_eq_ok]
  constructor
  · rintro ⟨⟨cs, rest'⟩, h, heq⟩
    obtain ⟨rfl, rfl⟩ := heq
    obtain ⟨t, ht, rfl⟩ := (readCharacters_eq_ok_iff (Nat.le_refl _)).mp h
    exact ⟨_, ⟨t, by rwa [String.toList_ofList], rfl⟩, by simp⟩
  · rintro ⟨q, ⟨t, ht, rfl⟩, heq⟩
    have heq : text = t ++ '"' :: rest := by simpa using heq
    refine ⟨(s.toList, rest), (readCharacters_eq_ok_iff (Nat.le_refl _)).mpr ⟨t, ht, heq⟩, ?_⟩
    dsimp only
    rw [String.ofList_toList]
    rfl

end NodeFamilies.Json
