import NodeFamilies.Proofs.Json.Layout
import NodeFamilies.Proofs.Json.Encoding

/-!
# Leaves and lists

A reader is exact if it accepts a text exactly when the text begins with a value that encodes what
the reader returns. An exact reader of items makes an exact reader of lists and of records that are
written as lists.
-/

namespace NodeFamilies.Json

/-- Behind blanks, the reader takes off a spelling of a value that encodes what it returns. -/
def Takes {α : Type} (read : List Char → Except Fault (α × List Char))
    (encodes : Value → α → Prop) : Prop :=
  ∀ text a rest, read text = .ok (a, rest) ↔
    ∃ w v t, Blanks w ∧ Spells v t ∧ encodes v a ∧ text = w ++ (t ++ rest)

/-! ## Leaves -/

theorem takes_readString : Takes readString fun v s => v = .text s := by
  intro text s rest
  unfold readString
  constructor
  · intro h
    split at h
    · cases h
    · rename_i heq
      obtain ⟨w, hw, rfl⟩ := (skipBlanks_eq_mark_iff (by decide)).mp heq
      obtain ⟨q, hq, hq'⟩ := readText_eq_ok_iff.mp h
      exact ⟨w, _, q, hw, .text hq, rfl, by rw [hq']⟩
    · cases h
  · rintro ⟨w, v, t, hw, ht, rfl, rfl⟩
    cases ht with
    | text hq =>
      obtain ⟨r, hopen, hr⟩ := skipBlanks_quoted hw hq rest
      rw [hopen]
      exact readText_eq_ok_iff.mpr ⟨_, hq, hr⟩

theorem takes_readChoice {α : Type} (options : List (String × α)) :
    Takes (readChoice options) (Chosen options) := by
  intro text a rest
  unfold readChoice
  constructor
  · intro h
    split at h
    · cases h
    · rename_i heq
      obtain ⟨w, hw, rfl⟩ := (skipBlanks_eq_mark_iff (by decide)).mp heq
      obtain ⟨⟨⟨n, a'⟩, rest'⟩, hn, h'⟩ := bind_eq_ok.mp h
      obtain ⟨rfl, rfl⟩ := Prod.mk.inj (Except.ok.inj h')
      obtain ⟨hl, q, hq, hq'⟩ := readName_eq_ok_iff.mp hn
      exact ⟨w, _, q, hw, .text hq, ⟨n, hl, Or.inl rfl⟩, by rw [hq']⟩
    · rename_i heq
      obtain ⟨w, hw, rfl⟩ := (skipBlanks_eq_mark_iff (by decide)).mp heq
      obtain ⟨n, t, hl, ht, rfl⟩ := readNameObject_eq_ok_iff.mp h
      exact ⟨w, _, '\x7b' :: t, hw, .object ht, ⟨n, hl, Or.inr rfl⟩, rfl⟩
    · cases h
  · rintro ⟨w, v, t, hw, ht, ⟨n, hl, rfl | rfl⟩, rfl⟩
    · cases ht with
      | text hq =>
        obtain ⟨r, hopen, hr⟩ := skipBlanks_quoted hw hq rest
        rw [hopen]
        exact bind_eq_ok.mpr ⟨((n, a), rest), readName_eq_ok_iff.mpr ⟨hl, _, hq, hr⟩, rfl⟩
    · cases ht with
      | @object _ t ht =>
        rw [List.cons_append, skipBlanks_mark hw (by decide)]
        exact readNameObject_eq_ok_iff.mpr ⟨n, t, hl, ht, rfl⟩

/-! ## Lists -/

section

variable {α : Type} {read : List Char → Except Fault (α × List Char)}
  {encodes : Value → α → Prop} {first : Bool} {text rest : List Char}

theorem Takes.next (h : Takes read encodes) {a : α} :
    (∃ more, nextElement first text = .ok (.item more) ∧ read more = .ok (a, rest)) ↔
      ∃ l v t, Lead first l ∧ Spells v t ∧ encodes v a ∧ text = l ++ (t ++ rest) := by
  constructor
  · rintro ⟨more, hn, ha⟩
    obtain ⟨l, hl, rfl⟩ := exists_lead_of_nextElement hn
    obtain ⟨w, v, t, hw, ht, hv, rfl⟩ := (h _ _ _).mp ha
    exact ⟨l ++ w, v, t, hl.append hw, ht, hv, by simp⟩
  · rintro ⟨l, v, t, hl, ht, hv, rfl⟩
    refine ⟨t ++ rest, nextElement_of_lead hl (ht.opens rest), ?_⟩
    exact (h _ _ _).mpr ⟨[], v, t, List.forall_mem_nil _, ht, hv, rfl⟩

theorem Takes.readElements_eq_ok_iff (h : Takes read encodes) {bound index : Nat} {as : List α}
    (hb : text.length ≤ bound) :
    readElements read bound index text = .ok (as, rest) ↔
      ∃ vs t, Items (index == 0) vs t ∧ List.Forall₂ encodes vs as ∧ text = t ++ rest := by
  induction bound generalizing index text as with
  | zero =>
    obtain rfl := List.length_eq_zero_iff.mp (Nat.le_zero.mp hb)
    simp only [readElements, reduceCtorEq, false_iff, not_exists, not_and]
    rintro vs t ht - heq
    exact ht.ne_nil (List.append_eq_nil_iff.mp heq.symm).1
  | succ bound ih =>
    rw [readElements, bind_eq_ok]
    constructor
    · rintro ⟨next, hnext, hok⟩
      cases next with
      | closed more =>
        obtain ⟨rfl, rfl⟩ := Prod.mk.inj (Except.ok.inj hok)
        obtain ⟨w, hw, rfl⟩ := nextElement_eq_closed_iff.mp hnext
        exact ⟨[], _, .close hw, .nil, by simp⟩
      | item more =>
        obtain ⟨⟨a, r₁⟩, ha, hlist⟩ := bind_eq_ok.mp hok
        obtain ⟨⟨as', r₂⟩, has, heq⟩ := bind_eq_ok.mp hlist
        obtain ⟨rfl, rfl⟩ := Prod.mk.inj (Except.ok.inj heq)
        obtain ⟨l, v, t, hl, ht, hv, rfl⟩ := h.next.mp ⟨more, hnext, within_eq_ok_iff.mp ha⟩
        have hlt := length_lt_of_spells ht l r₁
        obtain ⟨vs, u, hu, hvs, rfl⟩ := (ih (by omega)).mp has
        exact ⟨v :: vs, _, .item hl ht hu, .cons hv hvs, by simp⟩
    · rintro ⟨vs, t, ht, hvs, rfl⟩
      cases ht with
      | close hw =>
        cases hvs
        exact ⟨.closed rest, nextElement_eq_closed_iff.mpr ⟨_, hw, by simp⟩, rfl⟩
      | @item _ v vs l t u hl ht hu =>
        cases hvs with
        | @cons _ a _ as hv hvs =>
        have hlt := length_lt_of_spells ht l (u ++ rest)
        have hassoc : l ++ (t ++ u) ++ rest = l ++ (t ++ (u ++ rest)) := by simp
        rw [hassoc] at hb ⊢
        obtain ⟨more, hnext, ha⟩ := h.next.mpr ⟨l, v, t, hl, ht, hv, rfl⟩
        have has : readElements read bound (index + 1) (u ++ rest) = .ok (as, rest) :=
          (ih (by omega)).mpr ⟨vs, u, hu, hvs, rfl⟩
        refine ⟨.item more, hnext, bind_eq_ok.mpr ⟨_, within_eq_ok_iff.mpr ha, ?_⟩⟩
        exact bind_eq_ok.mpr ⟨_, has, rfl⟩

end

/-! ## Records as lists -/

/-- The fields of which every reader takes exactly what encodes. -/
def Fields.Exact {β σ : Type} : Fields β σ → Prop
  | .none => True
  | .field _ _ item rest => Takes item.read item.Encodes ∧ rest.Exact

theorem Fields.fallbacks_eq_ok_iff {β σ : Type} {fields : Fields β σ} {n : Nat} {b : β} :
    fields.fallbacks n = .ok b ↔ fields.EncodesRow [] b := by
  induction fields using Fields.induction generalizing n with
  | none => simp [fallbacks, EncodesRow]
  | field key fallback item rest ih =>
    obtain ⟨a, b⟩ := b
    cases fallback with
    | none => simp [fallbacks, EncodesRow]
    | some a' =>
      rw [fallbacks, EncodesRow, bind_eq_ok, ← ih (n := n + 1)]
      constructor
      · rintro ⟨b', hb, heq⟩
        obtain ⟨rfl, rfl⟩ := Prod.mk.inj (Except.ok.inj heq)
        exact ⟨rfl, hb⟩
      · rintro ⟨ha, hb⟩
        obtain rfl := Option.some.inj ha
        exact ⟨b, hb, rfl⟩

theorem Fields.readRow_eq_ok_iff {β σ : Type} {fields : Fields β σ} (h : fields.Exact)
    {wanted : String} {index : Nat} {text rest : List Char} {b : β} :
    fields.readRow wanted index text = .ok (b, rest) ↔
      ∃ vs t, Items (index == 0) vs t ∧ fields.EncodesRow vs b ∧ text = t ++ rest := by
  induction fields using Fields.induction generalizing index text with
  | none =>
    rw [readRow, bind_eq_ok]
    constructor
    · rintro ⟨more, hclose, hok⟩
      obtain ⟨-, rfl⟩ := Prod.mk.inj (Except.ok.inj hok)
      obtain ⟨w, hw, rfl⟩ := closeList_eq_ok_iff.mp hclose
      exact ⟨[], _, .close hw, rfl, by simp⟩
    · rintro ⟨vs, t, ht, hvs, rfl⟩
      obtain rfl : vs = [] := hvs
      cases ht with
      | close hw => exact ⟨rest, closeList_eq_ok_iff.mpr ⟨_, hw, by simp⟩, rfl⟩
  | field key fallback item fields ih =>
    obtain ⟨hitem, hfields⟩ := h
    obtain ⟨a, b⟩ := b
    rw [readRow, bind_eq_ok]
    constructor
    · rintro ⟨next, hnext, hok⟩
      cases next with
      | closed more =>
        obtain ⟨w, hw, rfl⟩ := nextElement_eq_closed_iff.mp hnext
        dsimp only at hok
        split at hok
        · rename_i hb
          obtain ⟨⟨rfl, rfl⟩, rfl⟩ := hok
          exact ⟨[], _, .close hw, ⟨rfl, fallbacks_eq_ok_iff.mp hb⟩, by simp⟩
        · cases hok
        · cases hok
      | item more =>
        obtain ⟨⟨a', r₁⟩, ha, hrow⟩ := bind_eq_ok.mp hok
        obtain ⟨⟨b', r₂⟩, hb, heq⟩ := bind_eq_ok.mp hrow
        obtain ⟨⟨rfl, rfl⟩, rfl⟩ := heq
        obtain ⟨l, v, t, hl, ht, hv, rfl⟩ := hitem.next.mp ⟨more, hnext, within_eq_ok_iff.mp ha⟩
        obtain ⟨vs, u, hu, hvs, rfl⟩ := (ih hfields).mp hb
        exact ⟨v :: vs, _, .item hl ht hu, ⟨hv, hvs⟩, by simp⟩
    · rintro ⟨vs, t, ht, hvs, rfl⟩
      cases ht with
      | close hw =>
        obtain ⟨rfl, hb⟩ := hvs
        refine ⟨.closed rest, nextElement_eq_closed_iff.mpr ⟨_, hw, by simp⟩, ?_⟩
        dsimp only
        rw [fallbacks_eq_ok_iff.mpr hb]
        rfl
      | @item _ v vs l t u hl ht hu =>
        obtain ⟨hv, hvs⟩ := hvs
        have hassoc : l ++ (t ++ u) ++ rest = l ++ (t ++ (u ++ rest)) := by simp
        rw [hassoc]
        obtain ⟨more, hnext, ha⟩ := hitem.next.mpr ⟨l, v, t, hl, ht, hv, rfl⟩
        have hb : fields.readRow wanted (index + 1) (u ++ rest) = .ok (b, rest) :=
          (ih hfields).mpr ⟨vs, u, hu, hvs, rfl⟩
        refine ⟨.item more, hnext, bind_eq_ok.mpr ⟨_, within_eq_ok_iff.mpr ha, ?_⟩⟩
        exact bind_eq_ok.mpr ⟨_, hb, rfl⟩

end NodeFamilies.Json
