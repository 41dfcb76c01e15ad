import Mathlib.Data.List.TakeWhile
import NodeFamilies.Proofs.Json.Texts

/-!
# Reading between the values

What the readers of blanks, words, brackets, commas and names take off.
-/

namespace NodeFamilies.Json

@[simp] theorem within_eq_ok_iff {α : Type} {step : Step} {x : Except Fault α} {a : α} :
    within step x = .ok a ↔ x = .ok a := by
  cases x <;> simp [within, Except.mapError]

/-! ## Blanks -/

theorem isBlank_iff {c : Char} : isBlank c = true ↔ c = ' ' ∨ c = '\n' ∨ c = '\t' ∨ c = '\r' := by
  simp [isBlank, or_assoc]

theorem Blanks.append {w w' : List Char} (h : Blanks w) (h' : Blanks w') : Blanks (w ++ w') := by
  intro c hc
  rcases List.mem_append.mp hc with hc | hc
  · exact h c hc
  · exact h' c hc

theorem skipBlanks_append {w : List Char} (h : Blanks w) (text : List Char) :
    skipBlanks (w ++ text) = skipBlanks text :=
  List.dropWhile_append_of_pos fun c hc => isBlank_iff.mpr (h c hc)

theorem skipBlanks_cons {c : Char} (h : isBlank c = false) (rest : List Char) :
    skipBlanks (c :: rest) = c :: rest :=
  List.dropWhile_cons_of_neg (by simp [h])

theorem exists_blanks (text : List Char) : ∃ w, Blanks w ∧ text = w ++ skipBlanks text :=
  ⟨text.takeWhile isBlank, fun _ hc => isBlank_iff.mp (List.mem_takeWhile_imp hc),
    List.takeWhile_append_dropWhile.symm⟩

theorem skipBlanks_mark {w : List Char} (hw : Blanks w) {c : Char} (hc : isBlank c = false)
    (rest : List Char) : skipBlanks (w ++ c :: rest) = c :: rest := by
  rw [skipBlanks_append hw, skipBlanks_cons hc]

theorem skipBlanks_eq_mark_iff {text rest : List Char} {c : Char} (hc : isBlank c = false) :
    skipBlanks text = c :: rest ↔ ∃ w, Blanks w ∧ text = w ++ c :: rest := by
  constructor
  · intro h
    obtain ⟨w, hw, heq⟩ := exists_blanks text
    exact ⟨w, hw, by rw [← h, ← heq]⟩
  · rintro ⟨w, hw, rfl⟩
    exact skipBlanks_mark hw hc rest

theorem skipBlanks_quoted {w q : List Char} {s : String} (hw : Blanks w) (hq : Quoted s q)
    (rest : List Char) : ∃ r, skipBlanks (w ++ (q ++ rest)) = '"' :: r ∧ '"' :: r = q ++ rest := by
  obtain ⟨body, -, rfl⟩ := hq
  exact ⟨body ++ ['"'] ++ rest, skipBlanks_mark hw (by decide) _, rfl⟩

/-! ## Words and marks -/

theorem readWord_eq_ok_iff {word text rest : List Char} :
    readWord word text = .ok rest ↔ text = word ++ rest := by
  induction word generalizing text with
  | nil => simp [readWord]
  | cons w word ih =>
    cases text with
    | nil => simp [readWord]
    | cons c text =>
      rw [readWord]
      split
      · rename_i hc
        subst hc
        rw [ih, List.cons_append, List.cons_inj_right]
      · rename_i hc
        simp [hc]

theorem readColon_eq_ok_iff {text rest : List Char} :
    readColon text = .ok rest ↔ ∃ w, Blanks w ∧ text = w ++ ':' :: rest := by
  rw [← skipBlanks_eq_mark_iff (by decide), readColon]
  split <;> simp_all

theorem closeList_eq_ok_iff {text rest : List Char} :
    closeList text = .ok rest ↔ ∃ w, Blanks w ∧ text = w ++ ']' :: rest := by
  rw [← skipBlanks_eq_mark_iff (by decide), closeList]
  split
  · simp_all
  · simp_all
  · rename_i heq
    rw [heq]
    split <;> simp
  · simp_all

theorem readNull_eq_ok_iff {text rest : List Char} :
    readNull text = .ok rest ↔ ∃ w, Blanks w ∧ text = w ++ ('n' :: 'u' :: 'l' :: 'l' :: rest) := by
  rw [← skipBlanks_eq_mark_iff (by decide), readNull]
  split
  · simp_all
  · rename_i heq
    rw [heq, readWord_eq_ok_iff]
    simp
  · simp_all

/-! ## Items and members -/

theorem Lead.append {first : Bool} {l w : List Char} (h : Lead first l) (hw : Blanks w) :
    Lead first (l ++ w) := by
  cases h with
  | first h => exact .first (h.append hw)
  | next h h' =>
    rw [List.append_assoc]
    exact .next h (h'.append hw)

/-- What no value begins with. -/
def Opens (text : List Char) : Prop :=
  ∃ c rest, text = c :: rest ∧ isBlank c = false ∧ c ≠ ']' ∧ c ≠ '\x7d'

theorem nextElement_eq_closed_iff {first : Bool} {text rest : List Char} :
    nextElement first text = .ok (.closed rest) ↔ ∃ w, Blanks w ∧ text = w ++ ']' :: rest := by
  rw [← skipBlanks_eq_mark_iff (by decide), nextElement]
  split
  · simp_all
  · simp_all
  · rename_i hc heq
    split
    · simp_all
    split
    · split <;> simp_all
    · simp_all

theorem exists_lead_of_nextElement {first : Bool} {text more : List Char}
    (h : nextElement first text = .ok (.item more)) : ∃ l, Lead first l ∧ text = l ++ more := by
  obtain ⟨w, hw, htext⟩ := exists_blanks text
  unfold nextElement at h
  split at h
  · cases h
  · cases h
  rename_i c rest hc heq
  rw [heq] at htext
  split at h
  · rename_i hfirst
    obtain rfl := Next.item.inj (Except.ok.inj h)
    exact ⟨w, hfirst ▸ .first hw, htext⟩
  rename_i hfirst
  split at h
  · rename_i hcomma
    subst hcomma
    obtain ⟨w', hw', hrest⟩ := exists_blanks rest
    split at h
    · cases h
    · cases h
    · obtain rfl := Next.item.inj (Except.ok.inj h)
      refine ⟨w ++ ',' :: w', Bool.eq_false_iff.mpr hfirst ▸ .next hw hw', ?_⟩
      rw [htext, List.append_assoc, List.cons_append, ← hrest]
  · cases h

theorem nextElement_of_lead {first : Bool} {l more : List Char} (h : Lead first l)
    (hm : Opens more) : nextElement first (l ++ more) = .ok (.item more) := by
  obtain ⟨c, rest, rfl, hc, hne, -⟩ := hm
  cases h with
  | first hw =>
    rw [nextElement, skipBlanks_append hw, skipBlanks_cons hc]
    simp
  | next hw hw' =>
    rw [nextElement, List.append_assoc, skipBlanks_append hw, List.cons_append,
      skipBlanks_cons (by decide)]
    simp [skipBlanks_append hw', skipBlanks_cons hc, hne]

theorem nextKey_eq_closed_iff {first : Bool} {text rest : List Char} :
    nextKey first text = .ok (.closed rest) ↔ ∃ w, Blanks w ∧ text = w ++ '\x7d' :: rest := by
  rw [← skipBlanks_eq_mark_iff (by decide), nextKey]
  split
  · simp_all
  · simp_all
  · rename_i hc heq
    split
    · split <;> simp_all
    split
    · split <;> simp_all
    · simp_all

theorem nextKey_eq_item_iff {first : Bool} {text more : List Char} :
    nextKey first text = .ok (.item more) ↔ ∃ l, Lead first l ∧ text = l ++ '"' :: more := by
  constructor
  · intro h
    obtain ⟨w, hw, htext⟩ := exists_blanks text
    unfold nextKey at h
    split at h
    · cases h
    · cases h
    rename_i c rest hc heq
    rw [heq] at htext
    split at h
    · rename_i hfirst
      split at h
      · rename_i hquote
        subst hquote
        obtain rfl := Next.item.inj (Except.ok.inj h)
        exact ⟨w, hfirst ▸ .first hw, htext⟩
      · cases h
    rename_i hfirst
    split at h
    · rename_i hcomma
      subst hcomma
      obtain ⟨w', hw', hrest⟩ := exists_blanks rest
      split at h
      · cases h
      · rename_i hquote
        obtain rfl := Next.item.inj (Except.ok.inj h)
        refine ⟨w ++ ',' :: w', Bool.eq_false_iff.mpr hfirst ▸ .next hw hw', ?_⟩
        rw [htext, List.append_assoc, List.cons_append, ← hquote, ← hrest]
      · cases h
      · cases h
    · cases h
  · rintro ⟨l, hl, rfl⟩
    cases hl with
    | first hw =>
      rw [nextKey, skipBlanks_append hw, skipBlanks_cons (by decide)]
      simp
    | next hw hw' =>
      rw [nextKey, List.append_assoc, skipBlanks_append hw, List.cons_append,
        skipBlanks_cons (by decide)]
      simp [skipBlanks_append hw', skipBlanks_cons (by decide : isBlank '"' = false)]

/-! ## What a value begins with -/

theorem Whole.opens {t : List Char} (h : Whole t) (more : List Char) : Opens (t ++ more) := by
  cases h with
  | zero => exact ⟨'0', more, rfl, by decide, by decide, by decide⟩
  | @digits c ds h₁ h₂ =>
    refine ⟨c, ds ++ more, rfl, ?_, ?_, ?_⟩
    · rw [Bool.eq_false_iff, ne_eq, isBlank_iff]
      rintro (rfl | rfl | rfl | rfl) <;> exact absurd h₁ (by decide)
    · rintro rfl; exact absurd h₂ (by decide)
    · rintro rfl; exact absurd h₂ (by decide)

theorem Spells.opens {v : Value} {t : List Char} (h : Spells v t) (more : List Char) :
    Opens (t ++ more) := by
  cases h with
  | null | true | false => exact ⟨_, _, rfl, by decide, by decide, by decide⟩
  | list | object => exact ⟨_, _, rfl, by decide, by decide, by decide⟩
  | text hq =>
    obtain ⟨body, -, rfl⟩ := hq
    exact ⟨_, _, rfl, by decide, by decide, by decide⟩
  | number hl =>
    cases hl with
    | positive hw =>
      rw [List.append_assoc, List.append_assoc]
      exact hw.opens _
    | negative => exact ⟨_, _, rfl, by decide, by decide, by decide⟩

theorem Spells.ne_nil {v : Value} {t : List Char} (h : Spells v t) : t ≠ [] := by
  rintro rfl
  obtain ⟨c, rest, hc, -⟩ := h.opens []
  cases hc

theorem length_lt_of_spells {v : Value} {t : List Char} (h : Spells v t) (l u : List Char) :
    u.length < (l ++ (t ++ u)).length := by
  have ht := List.length_pos_iff.mpr h.ne_nil
  simp only [List.length_append]
  omega

theorem Items.ne_nil {first : Bool} {vs : List Value} {t : List Char} (h : Items first vs t) :
    t ≠ [] := by
  cases h with
  | close => simp
  | item _ ht => simp [ht.ne_nil]

theorem Members.ne_nil {first : Bool} {ms : List (String × Value)} {t : List Char}
    (h : Members first ms t) : t ≠ [] := by
  cases h <;> simp

/-! ## Names -/

theorem readName_eq_ok_iff {α : Type} {options : List (String × α)} {text rest : List Char}
    {n : String} {a : α} :
    readName options text = .ok ((n, a), rest) ↔
      options.lookup n = some a ∧ ∃ q, Quoted n q ∧ '"' :: text = q ++ rest := by
  rw [← readText_eq_ok_iff, readName, bind_eq_ok]
  constructor
  · rintro ⟨⟨n', rest'⟩, hn, h⟩
    dsimp only at h
    split at h
    · rename_i hl
      obtain ⟨⟨rfl, rfl⟩, rfl⟩ := h
      exact ⟨hl, hn⟩
    · cases h
  · rintro ⟨hl, hn⟩
    refine ⟨(n, rest), hn, ?_⟩
    dsimp only
    rw [hl]
    rfl

theorem readNameObject_eq_ok_iff {α : Type} {options : List (String × α)}
    {text rest : List Char} {a : α} :
    readNameObject options text = .ok (a, rest) ↔
      ∃ n t, options.lookup n = some a ∧ Members true [(n, .null)] t ∧ text = t ++ rest := by
  unfold readNameObject
  constructor
  · intro h
    split at h
    · cases h
    · rename_i r₀ heq
      obtain ⟨w, hw, rfl⟩ := (skipBlanks_eq_mark_iff (by decide)).mp heq
      obtain ⟨⟨⟨n, a'⟩, r₁⟩, hn, h₁⟩ := bind_eq_ok.mp h
      obtain ⟨r₂, hcolon, h₂⟩ := bind_eq_ok.mp h₁
      obtain ⟨r₃, hnull, h₃⟩ := bind_eq_ok.mp h₂
      obtain ⟨hl, q, hq, hr₀⟩ := readName_eq_ok_iff.mp hn
      obtain ⟨w₁, hw₁, rfl⟩ := readColon_eq_ok_iff.mp hcolon
      obtain ⟨w₂, hw₂, rfl⟩ := readNull_eq_ok_iff.mp (within_eq_ok_iff.mp hnull)
      split at h₃
      · cases h₃
      · rename_i r₄ hclose
        obtain ⟨rfl, rfl⟩ := Prod.mk.inj (Except.ok.inj h₃)
        obtain ⟨w₃, hw₃, rfl⟩ := (skipBlanks_eq_mark_iff (by decide)).mp hclose
        refine ⟨n, _, hl, .member (.first hw) hq hw₁ hw₂ .null (.close hw₃), ?_⟩
        rw [hr₀]
        simp
      · cases h₃
    · cases h
    · cases h
  · rintro ⟨n, t, hl, ht, rfl⟩
    cases ht with
    | member hlead hq hw₁ hw₂ hv hend =>
      cases hv
      obtain ⟨body, hbody, rfl⟩ := hq
      cases hlead with
      | first hw =>
      cases hend with
      | @close _ w₃ hw₃ =>
      rename_i w w₁ w₂
      let r₃ := w₃ ++ '\x7d' :: rest
      let r₁ := w₁ ++ ':' :: (w₂ ++ 'n' :: 'u' :: 'l' :: 'l' :: r₃)
      have hopen : skipBlanks (w ++ '"' :: (body ++ '"' :: r₁)) = '"' :: (body ++ '"' :: r₁) :=
        skipBlanks_mark hw (by decide) _
      have hclose : skipBlanks r₃ = '\x7d' :: rest := skipBlanks_mark hw₃ (by decide) rest
      simp only [List.append_assoc, List.cons_append, List.nil_append]
      rw [hopen]
      refine bind_eq_ok.mpr ⟨((n, a), r₁), ?_, ?_⟩
      · exact readName_eq_ok_iff.mpr ⟨hl, _, ⟨body, hbody, rfl⟩, by simp⟩
      refine bind_eq_ok.mpr ⟨_, readColon_eq_ok_iff.mpr ⟨w₁, hw₁, rfl⟩, ?_⟩
      refine bind_eq_ok.mpr ⟨r₃, within_eq_ok_iff.mpr ?_, ?_⟩
      · exact readNull_eq_ok_iff.mpr ⟨w₂, hw₂, rfl⟩
      · rw [hclose]
        rfl

end NodeFamilies.Json
