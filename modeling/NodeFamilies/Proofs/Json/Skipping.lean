import NodeFamilies.Proofs.Json.Numbers

/-!
# Passing over values

A value that nobody asked for is passed over to its end, whatever brackets are still open around
it: first its texts and numbers, then values inside each other.
-/

namespace NodeFamilies.Json

/-! ## Texts -/

theorem skipEscape_codeUnit {n : Nat} {t : List Char} (h : CodeUnit n t) (rest : List Char) :
    skipEscape ('u' :: (t ++ rest)) = .ok rest := by
  obtain ⟨ha, hb, hc, hd⟩ := h
  have hv := hexValue?_eq_some_iff.mpr (.mk ha hb hc hd)
  simp [skipEscape, hv]

theorem skipText_char {c : Char} {t : List Char} (h : SpellsChar c t) {bound bound' : Nat}
    (hb : t.length + bound' ≤ bound) (rest : List Char) :
    ∃ n, bound' ≤ n ∧ skipText bound (t ++ rest) = skipText n rest := by
  have hescape : ∀ {k : Nat} {u more : List Char}, skipEscape u = .ok more →
      skipText (k + 1) ('\\' :: u) = skipText k more := by
    intro k u more hu
    rw [skipText, if_neg (by decide), if_pos rfl, hu]
    rfl
  cases h with
  | plain h₁ h₂ h₃ =>
    obtain ⟨k, rfl⟩ := Nat.exists_eq_add_of_le' (show 1 ≤ bound by simp at hb; omega)
    refine ⟨k, by simp at hb; omega, ?_⟩
    rw [List.cons_append, List.nil_append, skipText, if_neg h₂, if_neg h₃,
      if_neg (Nat.not_lt.mpr h₁)]
  | @short letter h =>
    obtain ⟨k, rfl⟩ := Nat.exists_eq_add_of_le' (show 1 ≤ bound by simp at hb; omega)
    have hletter : letter ≠ 'u' := by
      rintro rfl
      exact absurd h (by simp [escapes])
    refine ⟨k, by simp at hb; omega, hescape ?_⟩
    simp [skipEscape, hletter, shortEscape?_eq_some_iff.mpr h]
  | unit ht =>
    obtain ⟨k, rfl⟩ := Nat.exists_eq_add_of_le' (show 1 ≤ bound by simp at hb; omega)
    exact ⟨k, by simp at hb; omega, hescape (skipEscape_codeUnit ht rest)⟩
  | @pair high low t u ht hu =>
    obtain ⟨k, rfl⟩ := Nat.exists_eq_add_of_le' (show 2 ≤ bound by simp at hb; omega)
    refine ⟨k, by simp at hb; omega, ?_⟩
    have hassoc : '\\' :: 'u' :: t ++ '\\' :: 'u' :: u ++ rest =
        '\\' :: 'u' :: (t ++ '\\' :: 'u' :: (u ++ rest)) := by simp
    rw [hassoc, hescape (skipEscape_codeUnit ht _), hescape (skipEscape_codeUnit hu rest)]

theorem skipText_of_spells {cs t : List Char} (h : SpellsChars cs t) {bound : Nat}
    (hb : t.length < bound) (rest : List Char) : skipText bound (t ++ '"' :: rest) = .ok rest := by
  induction h generalizing bound with
  | nil =>
    obtain ⟨k, rfl⟩ := Nat.exists_eq_add_of_le' (show 1 ≤ bound by simp at hb; omega)
    rfl
  | @cons c cs t u hc _ ih =>
    rw [List.length_append] at hb
    rw [List.append_assoc]
    have hlt : t.length + (u.length + 1) ≤ bound := by omega
    obtain ⟨n, hn, hskip⟩ := skipText_char hc hlt (u ++ '"' :: rest)
    rw [hskip, ih (by omega)]

theorem skipText_quoted {s : String} {q : List Char} (hq : Quoted s q) (rest : List Char) :
    ∃ r, q ++ rest = '"' :: r ∧ skipText r.length r = .ok rest := by
  obtain ⟨body, hbody, rfl⟩ := hq
  refine ⟨body ++ '"' :: rest, by simp, ?_⟩
  exact skipText_of_spells hbody (by simp) rest

/-! ## Numbers -/

theorem startsWithDigit_append {ds : List Char} (hne : ds ≠ []) (hd : Digits ds)
    (rest : List Char) : startsWithDigit (ds ++ rest) = true := by
  obtain ⟨d, ds, rfl⟩ := List.exists_cons_of_ne_nil hne
  exact isDigit_iff.mpr (hd d List.mem_cons_self)

section

variable {rest : List Char}

theorem skipExponentIfAny_exponent {e : List Char} (h : Exponent e) (hr : Bounded rest) :
    skipExponentIfAny (e ++ rest) = .ok rest := by
  cases h with
  | none =>
    rw [List.nil_append]
    unfold skipExponentIfAny
    split
    · exact absurd rfl (hr _ _ rfl).2.2.1
    · exact absurd rfl (hr _ _ rfl).2.2.2
    · rfl
  | @some e sign ds he hsign hne hd =>
    obtain ⟨d, ds, rfl⟩ := List.exists_cons_of_ne_nil hne
    have hdigit : isDigit d = true := isDigit_iff.mpr (hd d List.mem_cons_self)
    have hds : skipDigits (ds ++ rest) = rest :=
      skipDigits_append (fun c hc => hd c (List.mem_cons_of_mem d hc)) hr.startsWithDigit
    have hsigned : (exponentSign (sign ++ (d :: ds ++ rest))).2 = d :: (ds ++ rest) := by
      simp only [List.mem_cons, List.not_mem_nil, or_false] at hsign
      rcases hsign with rfl | rfl | rfl
      · rw [List.nil_append, List.cons_append]
        have hplus : d ≠ '+' := by
          rintro rfl
          exact absurd hdigit (by decide)
        have hminus : d ≠ '-' := by
          rintro rfl
          exact absurd hdigit (by decide)
        simp [exponentSign, hplus, hminus]
      · rfl
      · rfl
    have hskip : skipExponent (sign ++ (d :: ds ++ rest)) = .ok rest := by
      rw [skipExponent, hsigned]
      simp only
      rw [if_pos hdigit, hds]
    have hassoc : e :: sign ++ d :: ds ++ rest = e :: (sign ++ (d :: ds ++ rest)) := by simp
    rw [hassoc]
    rcases List.mem_cons.mp he with rfl | he
    · exact hskip
    · obtain rfl := List.mem_singleton.mp he
      exact hskip

theorem Exponent.startsWithDigit {e : List Char} (h : Exponent e) (hr : Bounded rest) :
    startsWithDigit (e ++ rest) = false := by
  cases h with
  | none => exact hr.startsWithDigit
  | some he =>
    rcases List.mem_cons.mp he with rfl | he
    · rfl
    · obtain rfl := List.mem_singleton.mp he
      rfl

theorem skipAfterWhole_fraction {f e : List Char} (hf : Fraction f) (he : Exponent e)
    (hr : Bounded rest) : skipAfterWhole (f ++ (e ++ rest)) = .ok rest := by
  have hend := skipExponentIfAny_exponent he hr
  cases hf with
  | none =>
    rw [List.nil_append]
    unfold skipAfterWhole
    split
    · rename_i more heq
      cases he with
      | none => exact absurd rfl (hr _ _ heq).2.1
      | some he =>
        obtain ⟨rfl, -⟩ := List.cons.inj heq
        exact absurd he (by decide)
    · exact hend
  | @some ds hne hd =>
    rw [List.cons_append, skipAfterWhole, startsWithDigit_append hne hd, if_pos rfl,
      skipDigits_append hd (he.startsWithDigit hr), hend]

theorem Fraction.startsWithDigit {f e : List Char} (hf : Fraction f) (he : Exponent e)
    (hr : Bounded rest) : startsWithDigit (f ++ (e ++ rest)) = false := by
  cases hf with
  | none => exact he.startsWithDigit hr
  | some => rfl

theorem skipNumber_whole {w f e : List Char} (hw : Whole w) (hf : Fraction f) (he : Exponent e)
    (hr : Bounded rest) : skipNumber (w ++ (f ++ (e ++ rest))) = .ok rest := by
  have hskip := skipAfterWhole_fraction hf he hr
  have hstop := hf.startsWithDigit he hr
  cases hw with
  | zero =>
    rw [List.cons_append, List.nil_append, skipNumber, if_pos rfl, hstop,
      if_neg Bool.false_ne_true, hskip]
  | @digits c ds h₁ h₂ hd =>
    have hzero : c ≠ '0' := by
      rintro rfl
      exact absurd h₁ (by decide)
    have hdigit : isDigit c = true := isDigit_iff.mpr ⟨Char.le_trans (by decide) h₁, h₂⟩
    rw [List.cons_append, skipNumber, if_neg hzero, if_pos hdigit, skipDigits_append hd hstop,
      hskip]

theorem skipScalar_literal {t : List Char} (h : Literal t) (hr : Bounded rest) :
    ∃ c r, t ++ rest = c :: r ∧ c ≠ '[' ∧ c ≠ '\x7b' ∧ isBlank c = false ∧
      skipScalar c r = .ok rest := by
  cases h with
  | @negative w f e hw hf he =>
    refine ⟨'-', w ++ (f ++ (e ++ rest)), by simp, by decide, by decide, by decide, ?_⟩
    exact skipNumber_whole hw hf he hr
  | @positive w f e hw hf he =>
    have hskip := skipNumber_whole hw hf he hr
    have hassoc : w ++ f ++ e ++ rest = w ++ (f ++ (e ++ rest)) := by simp
    rw [hassoc]
    have hfirst : ∃ c more, w = c :: more ∧ isDigit c = true := by
      cases hw with
      | zero => exact ⟨_, _, rfl, by decide⟩
      | digits h₁ h₂ => exact ⟨_, _, rfl, isDigit_iff.mpr ⟨Char.le_trans (by decide) h₁, h₂⟩⟩
    obtain ⟨c, more, rfl, hdigit⟩ := hfirst
    have hne : ∀ d : Char, isDigit d = false → c ≠ d := by
      rintro d hd rfl
      rw [hdigit] at hd
      cases hd
    refine ⟨c, more ++ (f ++ (e ++ rest)), rfl, hne _ (by decide), hne _ (by decide), ?_, ?_⟩
    · rw [Bool.eq_false_iff, ne_eq, isBlank_iff]
      rintro (rfl | rfl | rfl | rfl) <;> exact absurd hdigit (by decide)
    · unfold skipScalar
      split
      · exact absurd rfl (hne 'n' (by decide))
      · exact absurd rfl (hne 't' (by decide))
      · exact absurd rfl (hne 'f' (by decide))
      · exact absurd rfl (hne '"' (by decide))
      · exact absurd rfl (hne '-' (by decide))
      · rw [if_pos hdigit]
        exact hskip

end

/-! ## One round -/

section

variable {w w' text rest : List Char} (bound : Nat) (stack : List Bracket)

attribute [local simp] skipRest

theorem skipRest_scalar {c : Char} (hw : Blanks w)
    (hc : c ≠ '[' ∧ c ≠ '\x7b' ∧ isBlank c = false) (h : skipScalar c text = .ok rest) :
    skipRest (bound + 1) .value stack (w ++ c :: text) = skipRest bound .separator stack rest := by
  rw [skipRest, skipBlanks_mark hw hc.2.2]
  split
  · cases ‹c :: text = []›
  · exact absurd (List.cons.inj ‹c :: text = '[' :: _›).1 hc.1
  · exact absurd (List.cons.inj ‹c :: text = '\x7b' :: _›).1 hc.2.1
  · rename_i heq
    obtain ⟨rfl, rfl⟩ := List.cons.inj heq
    rw [h]
    rfl

theorem skipRest_openList (hw : Blanks w) (hw' : Blanks w') (hm : Opens text) :
    skipRest (bound + 1) .value stack (w ++ '[' :: (w' ++ text)) =
      skipRest bound .value (.list :: stack) text := by
  obtain ⟨c, rest, rfl, hc, hne, -⟩ := hm
  rw [skipRest, skipBlanks_mark hw (by decide)]
  simp only [skipBlanks_append hw', skipBlanks_cons hc]
  split
  · cases ‹c :: rest = []›
  · exact absurd (List.cons.inj ‹c :: rest = ']' :: _›).1 hne
  · rfl

theorem skipRest_emptyList (hw : Blanks w) (hw' : Blanks w') :
    skipRest (bound + 1) .value stack (w ++ '[' :: (w' ++ ']' :: rest)) =
      skipRest bound .separator stack rest := by
  rw [skipRest, skipBlanks_mark hw (by decide)]
  simp only [skipBlanks_mark hw' (by decide : isBlank ']' = false)]

theorem skipRest_openObject (hw : Blanks w) (hw' : Blanks w') :
    skipRest (bound + 1) .value stack (w ++ '\x7b' :: (w' ++ '"' :: text)) =
      skipRest bound .key (.object :: stack) ('"' :: text) := by
  rw [skipRest, skipBlanks_mark hw (by decide)]
  simp only [skipBlanks_mark hw' (by decide : isBlank '"' = false)]
  rfl

theorem skipRest_emptyObject (hw : Blanks w) (hw' : Blanks w') :
    skipRest (bound + 1) .value stack (w ++ '\x7b' :: (w' ++ '\x7d' :: rest)) =
      skipRest bound .separator stack rest := by
  rw [skipRest, skipBlanks_mark hw (by decide)]
  simp only [skipBlanks_mark hw' (by decide : isBlank '\x7d' = false)]

theorem skipRest_nextItem (hw : Blanks w) :
    skipRest (bound + 1) .separator (.list :: stack) (w ++ ',' :: text) =
      skipRest bound .value (.list :: stack) text := by
  simp [skipBlanks_mark hw (by decide : isBlank ',' = false)]

theorem skipRest_closeList (hw : Blanks w) :
    skipRest (bound + 1) .separator (.list :: stack) (w ++ ']' :: rest) =
      skipRest bound .separator stack rest := by
  simp [skipBlanks_mark hw (by decide : isBlank ']' = false)]

theorem skipRest_nextMember (hw : Blanks w) :
    skipRest (bound + 1) .separator (.object :: stack) (w ++ ',' :: text) =
      skipRest bound .key (.object :: stack) text := by
  simp [skipBlanks_mark hw (by decide : isBlank ',' = false)]

theorem skipRest_closeObject (hw : Blanks w) :
    skipRest (bound + 1) .separator (.object :: stack) (w ++ '\x7d' :: rest) =
      skipRest bound .separator stack rest := by
  simp [skipBlanks_mark hw (by decide : isBlank '\x7d' = false)]

theorem skipRest_key {key : String} {q : List Char} (hw : Blanks w) (hq : Quoted key q)
    (hw' : Blanks w') :
    skipRest (bound + 1) .key stack (w ++ (q ++ (w' ++ ':' :: text))) =
      skipRest bound .value stack text := by
  obtain ⟨r, hr, hskip⟩ := skipText_quoted hq (w' ++ ':' :: text)
  have hkey : skipKey r = .ok text := by
    unfold skipKey
    rw [hskip]
    simp [Bind.bind, Except.bind, skipBlanks_mark hw' (by decide : isBlank ':' = false)]
  rw [hr, skipRest]
  simp only [skipBlanks_mark hw (by decide : isBlank '"' = false), hkey]
  rfl

end

/-! ## All rounds -/

mutual

theorem skipRest_value {v : Value} {w t rest : List Char} (h : Spells v t) (hw : Blanks w)
    (hr : Bounded rest) {bound : Nat} (hb : t.length + rest.length < bound)
    (stack : List Bracket) :
    ∃ n, rest.length < n ∧
      skipRest bound .value stack (w ++ (t ++ rest)) = skipRest n .separator stack rest := by
  -- A value is passed over up to what stands behind it; there are rounds left for that.
  -- How many rounds the parts take depends on their spelling; only what is left is carried on.
  have hpos := List.length_pos_iff.mpr h.ne_nil
  obtain ⟨k, rfl⟩ := Nat.exists_eq_add_of_le' (show 1 ≤ bound by omega)
  have hk : rest.length < k := by omega
  cases h with
  | null => exact ⟨k, hk, skipRest_scalar k stack hw (by decide) (readWord_eq_ok_iff.mpr rfl)⟩
  | true => exact ⟨k, hk, skipRest_scalar k stack hw (by decide) (readWord_eq_ok_iff.mpr rfl)⟩
  | false => exact ⟨k, hk, skipRest_scalar k stack hw (by decide) (readWord_eq_ok_iff.mpr rfl)⟩
  | number hl =>
    obtain ⟨c, r, heq, h₁, h₂, h₃, hskip⟩ := skipScalar_literal hl hr
    exact ⟨k, hk, by rw [heq, skipRest_scalar k stack hw ⟨h₁, h₂, h₃⟩ hskip]⟩
  | text hq =>
    obtain ⟨r, heq, hskip⟩ := skipText_quoted hq rest
    have hscalar : skipScalar '"' r = .ok rest := hskip
    exact ⟨k, hk, by rw [heq, skipRest_scalar k stack hw (by decide) hscalar]⟩
  | @list vs t ht =>
    cases ht with
    | @close _ w' hw' =>
      refine ⟨k, hk, ?_⟩
      rw [List.cons_append, List.append_assoc]
      exact skipRest_emptyList k stack hw hw'
    | @item _ v vs l t u hl ht hu =>
      cases hl with
      | first hl =>
        simp only [List.length_cons, List.length_append] at hb
        have hvalue := skipRest_value ht (List.forall_mem_nil _) (hu.bounded rest)
          (show t.length + (u ++ rest).length < k by simp; omega) (.list :: stack)
        obtain ⟨n, hn, hvalue⟩ := hvalue
        obtain ⟨m, hm, hitems⟩ := skipRest_items hu hr (by simpa using hn) stack
        refine ⟨m, hm, ?_⟩
        rw [← hitems, ← hvalue, List.cons_append, List.append_assoc, List.append_assoc]
        exact skipRest_openList k stack hw hl (ht.opens _)
  | @object ms t ht =>
    cases ht with
    | @close _ w' hw' =>
      refine ⟨k, hk, ?_⟩
      rw [List.cons_append, List.append_assoc]
      exact skipRest_emptyObject k stack hw hw'
    | @member _ key v ms l q w₁ w₂ t u hl hq hw₁ hw₂ ht hu =>
      cases hl with
      | first hl =>
        simp only [List.length_cons, List.length_append] at hb
        obtain ⟨j, rfl⟩ := Nat.exists_eq_add_of_le' (show 1 ≤ k by omega)
        obtain ⟨n, hn, hvalue⟩ := skipRest_value ht hw₂ (hu.bounded rest)
          (show t.length + (u ++ rest).length < j by simp; omega) (.object :: stack)
        obtain ⟨m, hm, hmembers⟩ := skipRest_members hu hr (by simpa using hn) stack
        obtain ⟨r, -, hopen⟩ := skipBlanks_quoted (List.forall_mem_nil _) hq
          (w₁ ++ ':' :: (w₂ ++ (t ++ (u ++ rest))))
        refine ⟨m, hm, ?_⟩
        rw [← hmembers, ← hvalue,
          ← skipRest_key j (.object :: stack) (List.forall_mem_nil _) hq hw₁,
          List.nil_append, ← hopen, ← skipRest_openObject (j + 1) stack hw hl, hopen]
        simp
termination_by t.length

theorem skipRest_items {vs : List Value} {t rest : List Char} (h : Items false vs t)
    (hr : Bounded rest) {bound : Nat} (hb : t.length + rest.length < bound)
    (stack : List Bracket) :
    ∃ n, rest.length < n ∧ skipRest bound .separator (.list :: stack) (t ++ rest) =
      skipRest n .separator stack rest := by
  obtain ⟨k, rfl⟩ := Nat.exists_eq_add_of_le' (show 1 ≤ bound by omega)
  cases h with
  | @close _ w hw =>
    refine ⟨k, by simp at hb; omega, ?_⟩
    rw [List.append_assoc]
    exact skipRest_closeList k stack hw
  | @item _ v vs l t u hl ht hu =>
    cases hl with
    | @next w w' hw hw' =>
      simp only [List.length_cons, List.length_append] at hb
      obtain ⟨n, hn, hvalue⟩ := skipRest_value ht hw' (hu.bounded rest)
        (show t.length + (u ++ rest).length < k by simp; omega) (.list :: stack)
      obtain ⟨m, hm, hitems⟩ := skipRest_items hu hr (by simpa using hn) stack
      refine ⟨m, hm, ?_⟩
      rw [← hitems, ← hvalue, ← skipRest_nextItem k stack hw]
      simp
termination_by t.length

theorem skipRest_members {ms : List (String × Value)} {t rest : List Char}
    (h : Members false ms t) (hr : Bounded rest) {bound : Nat}
    (hb : t.length + rest.length < bound) (stack : List Bracket) :
    ∃ n, rest.length < n ∧ skipRest bound .separator (.object :: stack) (t ++ rest) =
      skipRest n .separator stack rest := by
  obtain ⟨k, rfl⟩ := Nat.exists_eq_add_of_le' (show 1 ≤ bound by omega)
  cases h with
  | @close _ w hw =>
    refine ⟨k, by simp at hb; omega, ?_⟩
    rw [List.append_assoc]
    exact skipRest_closeObject k stack hw
  | @member _ key v ms l q w₁ w₂ t u hl hq hw₁ hw₂ ht hu =>
    cases hl with
    | @next w w' hw hw' =>
      simp only [List.length_cons, List.length_append] at hb
      obtain ⟨j, rfl⟩ := Nat.exists_eq_add_of_le' (show 1 ≤ k by omega)
      obtain ⟨n, hn, hvalue⟩ := skipRest_value ht hw₂ (hu.bounded rest)
        (show t.length + (u ++ rest).length < j by simp; omega) (.object :: stack)
      obtain ⟨m, hm, hmembers⟩ := skipRest_members hu hr (by simpa using hn) stack
      refine ⟨m, hm, ?_⟩
      rw [← hmembers, ← hvalue, ← skipRest_key j (.object :: stack) hw' hq hw₁,
        ← skipRest_nextMember (j + 1) stack hw]
      simp
termination_by t.length

end

theorem skipValue_of_spells {v : Value} {w t rest : List Char} (hw : Blanks w) (h : Spells v t)
    (hr : Bounded rest) : skipValue (w ++ (t ++ rest)) = .ok rest := by
  obtain ⟨n, hn, hskip⟩ := skipRest_value h hw hr
    (show t.length + rest.length < (w ++ (t ++ rest)).length + 1 by
      simp only [List.length_append]
      omega) []
  obtain ⟨k, rfl⟩ := Nat.exists_eq_add_of_le' (show 1 ≤ n by omega)
  rw [skipValue, hskip, skipRest]

end NodeFamilies.Json
