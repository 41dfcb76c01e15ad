import NodeFamilies.Proofs.Json.Layout

/-!
# Reading numbers

A number goes on as long as it can, so what is read of it depends on what stands behind. Bytes are
read for what they are when the text behind them does not belong to a number, and a number that is
at fault is so by itself, not by a part of it.
-/

namespace NodeFamilies.Json

/-! ## What stands behind a number -/

/-- No number goes on with that text. -/
def Bounded (rest : List Char) : Prop :=
  ∀ c more, rest = c :: more → isDigit c = false ∧ c ≠ '.' ∧ c ≠ 'e' ∧ c ≠ 'E'

theorem bounded_cons {c : Char} (h : isDigit c = false ∧ c ≠ '.' ∧ c ≠ 'e' ∧ c ≠ 'E')
    (rest : List Char) : Bounded (c :: rest) := by
  rintro d more heq
  obtain ⟨rfl, -⟩ := List.cons.inj heq
  exact h

theorem bounded_blanks {w : List Char} (hw : Blanks w) {c : Char}
    (h : isDigit c = false ∧ c ≠ '.' ∧ c ≠ 'e' ∧ c ≠ 'E') (rest : List Char) :
    Bounded (w ++ c :: rest) := by
  cases w with
  | nil => exact bounded_cons h rest
  | cons d w =>
    refine bounded_cons ?_ _
    rcases hw d List.mem_cons_self with rfl | rfl | rfl | rfl <;> decide

theorem Items.bounded {vs : List Value} {t : List Char} (h : Items false vs t) (rest : List Char) :
    Bounded (t ++ rest) := by
  cases h with
  | close hw =>
    rw [List.append_assoc]
    exact bounded_blanks hw (by decide) _
  | item hl =>
    cases hl with
    | next hw hw' =>
      rw [List.append_assoc, List.append_assoc]
      exact bounded_blanks hw (by decide) _

theorem Members.bounded {ms : List (String × Value)} {t : List Char} (h : Members false ms t)
    (rest : List Char) : Bounded (t ++ rest) := by
  cases h with
  | close hw =>
    rw [List.append_assoc]
    exact bounded_blanks hw (by decide) _
  | member hl =>
    cases hl with
    | next hw hw' =>
      rw [List.append_assoc, List.append_assoc]
      exact bounded_blanks hw (by decide) _

theorem Bounded.startsWithDigit {rest : List Char} (h : Bounded rest) :
    startsWithDigit rest = false := by
  cases rest with
  | nil => rfl
  | cons c rest => exact (h c rest rfl).1

theorem isDigit_iff {c : Char} : isDigit c = true ↔ '0' ≤ c ∧ c ≤ '9' := by
  simp [isDigit]

theorem skipDigits_append {ds : List Char} (hd : Digits ds) {rest : List Char}
    (h : startsWithDigit rest = false) : skipDigits (ds ++ rest) = rest := by
  rw [skipDigits, List.dropWhile_append_of_pos fun c hc => isDigit_iff.mpr (hd c hc)]
  cases rest with
  | nil => rfl
  | cons c rest => exact List.dropWhile_cons_of_neg (by simpa [Json.startsWithDigit] using h)

/-! ## Bytes -/

theorem absorbDigits_append {n count m k : Nat} {text rest : List Char}
    (h : absorbDigits n count text = (m, k, [])) (hr : startsWithDigit rest = false) :
    absorbDigits n count (text ++ rest) = (m, k, rest) := by
  induction text generalizing n count with
  | nil =>
    obtain ⟨rfl, rfl⟩ : n = m ∧ count = k := by simpa [absorbDigits] using h
    cases rest with
    | nil => rfl
    | cons c rest =>
      have hc : isDigit c = false := hr
      simp [absorbDigits, hc]
  | cons c text ih =>
    rw [absorbDigits] at h
    rw [List.cons_append, absorbDigits]
    split at h
    · rename_i hc
      rw [if_pos hc]
      exact ih h
    · simp at h

/-- A binary number is read, or the number itself is at fault. -/
inductive Floating : Except Fault (Number × List Char) → Prop where
  | float {negative : Bool} {x : Decimal.Binary64} {rest : List Char} :
      Floating (.ok (.float negative x, rest))
  | fault {f : Fault} : f.path = [] → Floating (.error f)

theorem Floating.ne_natural {n : Nat} {rest : List Char}
    (h : Floating (.ok (.natural n, rest))) : False := by
  cases h

section

variable {negative : Bool} {digits : Nat} {exponent : Int} {text rest : List Char}

theorem floating_finishFloat : Floating (finishFloat negative digits exponent text) := by
  unfold finishFloat
  split
  · exact .float
  · exact .fault rfl

theorem floating_readExponent : Floating (readExponent negative digits exponent text) := by
  unfold readExponent
  dsimp only
  split
  · exact .fault rfl
  split
  · exact .fault rfl
  split
  · exact floating_finishFloat
  split
  · exact .fault rfl
  · exact .float

theorem floating_exponentOrEnd : Floating (exponentOrEnd negative digits exponent text) := by
  unfold exponentOrEnd
  split
  · exact floating_readExponent
  · exact floating_readExponent
  · exact floating_finishFloat

theorem floating_readFraction : Floating (readFraction negative digits exponent text) := by
  unfold readFraction
  dsimp only
  split
  · exact floating_exponentOrEnd
  split
  · split <;> exact .fault rfl
  · exact floating_exponentOrEnd

theorem floating_readAfterLong : Floating (readAfterLong negative digits text) := by
  unfold readAfterLong
  split
  · exact floating_readFraction
  · exact floating_exponentOrEnd

theorem readAfterWhole_cases (negative : Bool) (n : Nat) (text : List Char) :
    Floating (readAfterWhole negative n text) ∨
      ∃ number, wholeNumber negative n = some number ∧
        readAfterWhole negative n text = .ok (number, text) := by
  unfold readAfterWhole
  split
  · exact Or.inl floating_readFraction
  · exact Or.inl floating_readExponent
  · exact Or.inl floating_readExponent
  · split
    · rename_i number hnumber
      exact Or.inr ⟨number, hnumber, rfl⟩
    · exact Or.inl (.fault rfl)

theorem readAfterWhole_append {n k : Nat}
    (h : readAfterWhole negative n text = .ok (.natural k, [])) (hr : Bounded rest) :
    text = [] ∧ readAfterWhole negative n rest = .ok (.natural k, rest) := by
  rcases readAfterWhole_cases negative n text with hfloat | ⟨number, hnumber, hok⟩
  · exact (h ▸ hfloat).ne_natural.elim
  obtain ⟨rfl, rfl⟩ := Prod.mk.inj (Except.ok.inj (hok.symm.trans h))
  refine ⟨rfl, ?_⟩
  unfold readAfterWhole
  split
  · exact absurd rfl (hr _ _ rfl).2.1
  · exact absurd rfl (hr _ _ rfl).2.2.1
  · exact absurd rfl (hr _ _ rfl).2.2.2
  · rw [hnumber]

theorem readNumber_append {k : Nat} (h : readNumber negative text = .ok (.natural k, []))
    (hr : Bounded rest) : readNumber negative (text ++ rest) = .ok (.natural k, rest) := by
  cases text with
  | nil => cases h
  | cons c text =>
    rw [readNumber] at h
    rw [List.cons_append, readNumber]
    split at h
    · rename_i hc
      rw [if_pos hc]
      split at h
      · cases h
      · obtain ⟨rfl, hread⟩ := readAfterWhole_append h hr
        rw [List.nil_append, hr.startsWithDigit, if_neg Bool.false_ne_true, hread]
    split at h
    · rename_i hc hdigit
      rw [if_neg hc, if_pos hdigit]
      dsimp only at h ⊢
      split at h
      · exact (h ▸ floating_readAfterLong).ne_natural.elim
      · obtain ⟨hrest, hread⟩ := readAfterWhole_append h hr
        have habsorb := absorbDigits_append (m := (absorbDigits (digitValue c) 0 text).1)
          (k := (absorbDigits (digitValue c) 0 text).2.1) (by rw [← hrest]) hr.startsWithDigit
        rw [habsorb, hr.startsWithDigit, if_neg Bool.false_ne_true, hread]
    · cases h

end

theorem byteOf_eq_ok {x : Number} {n : Nat} {rest rest' : List Char}
    (h : byteOf x rest = .ok (n, rest')) : x = .natural n ∧ n < 256 ∧ rest' = rest := by
  unfold byteOf at h
  split at h
  · split at h
    · obtain ⟨rfl, rfl⟩ := Prod.mk.inj (Except.ok.inj h)
      exact ⟨rfl, ‹_›, rfl⟩
    · cases h
  · cases h
  · cases h

theorem readByte_append {literal w rest : List Char} {n : Nat} (hl : Literal literal)
    (h : readByte literal = .ok (n, [])) (hw : Blanks w) (hr : Bounded rest) :
    readByte (w ++ (literal ++ rest)) = .ok (n, rest) := by
  obtain ⟨c, more, rfl, hc, -⟩ : Opens literal := by
    simpa using (Spells.number hl).opens []
  have hbyte : ∀ negative text, (readNumber negative text >>= fun p => byteOf p.1 p.2) =
      .ok (n, []) → (readNumber negative (text ++ rest) >>= fun p => byteOf p.1 p.2) =
      .ok (n, rest) := by
    intro negative text hread
    obtain ⟨⟨x, r⟩, hx, hn⟩ := bind_eq_ok.mp hread
    obtain ⟨rfl, hlt, rfl⟩ := byteOf_eq_ok hn
    refine bind_eq_ok.mpr ⟨_, readNumber_append hx hr, ?_⟩
    rw [byteOf, if_pos hlt]
  unfold readByte at h ⊢
  rw [skipBlanks_cons hc] at h
  rw [skipBlanks_append hw, List.cons_append, skipBlanks_cons hc]
  split at h
  · cases ‹c :: more = []›
  · rename_i rest' heq
    obtain ⟨rfl, rfl⟩ := List.cons.inj heq
    exact hbyte true _ h
  · rename_i hminus
    split
    · cases ‹c :: (more ++ rest) = []›
    · rename_i rest' heq
      obtain ⟨rfl, -⟩ := List.cons.inj heq
      exact absurd rfl (hminus more)
    · have hdigit : startsWithDigit (c :: more) = startsWithDigit (c :: (more ++ rest)) := rfl
      rw [← hdigit]
      split at h
      · rename_i hd
        rw [if_pos hd]
        exact hbyte false _ h
      · cases h

/-! ## Faults -/

theorem path_of_readNumber {negative : Bool} {text : List Char} {f : Fault}
    (h : readNumber negative text = .error f) : f.path = [] := by
  have hfloat : ∀ result, Floating result → result = .error f → f.path = [] := by
    rintro _ (_ | hf) heq
    · cases heq
    · obtain rfl := Except.error.inj heq
      exact hf
  have hwhole : ∀ n text, readAfterWhole negative n text = .error f → f.path = [] := by
    intro n text heq
    rcases readAfterWhole_cases negative n text with hcase | ⟨number, -, hok⟩
    · exact hfloat _ hcase heq
    · cases hok.symm.trans heq
  unfold readNumber at h
  split at h
  · obtain rfl := Except.error.inj h
    rfl
  split at h
  · split at h
    · obtain rfl := Except.error.inj h
      rfl
    · exact hwhole _ _ h
  split at h
  · dsimp only at h
    split at h
    · exact hfloat _ floating_readAfterLong h
    · exact hwhole _ _ h
  · obtain rfl := Except.error.inj h
    rfl

end NodeFamilies.Json
