import NodeFamilies.Proofs.Json.Completeness

/-!
# What is refused, and where

The first value that does not fit ends the reading, whatever stands behind it. The path of the fault
leads to it: through the list or the object it stands in, past everything that was read before.
-/

namespace NodeFamilies.Json

/-- Nothing comes of it but a fault of that path. -/
def FailsAt {α : Type} (result : Except Fault α) (p : List Step) : Prop :=
  ∃ f, result = .error f ∧ f.path = p

/-- The value is refused at that path, wherever it stands. -/
def Fails {α : Type} (read : List Char → Except Fault (α × List Char)) (v : Value)
    (p : List Step) : Prop :=
  ∀ w t rest, Blanks w → Spells v t → FailsAt (read (w ++ (t ++ rest))) p

/-- From behind its key on, the member is refused. -/
def FailsMember {σ : Type} (read : String → σ → List Char → Except Fault (σ × List Char))
    (key : String) (v : Value) (s : σ) (p : List Step) : Prop :=
  ∀ w w' t rest, Blanks w → Blanks w' → Spells v t →
    FailsAt (read key s (w ++ ':' :: (w' ++ (t ++ rest)))) p

theorem FailsAt.bind {α β : Type} {result : Except Fault α} {p : List Step}
    (h : FailsAt result p) (next : α → Except Fault β) : FailsAt (result >>= next) p := by
  obtain ⟨f, rfl, hf⟩ := h
  exact ⟨f, rfl, hf⟩

theorem FailsAt.within {α : Type} {result : Except Fault α} {p : List Step}
    (h : FailsAt result p) (step : Step) : FailsAt (Json.within step result) (step :: p) := by
  obtain ⟨f, rfl, hf⟩ := h
  exact ⟨f.under step, rfl, congrArg (step :: ·) hf⟩

theorem failsAt_error {α : Type} (f : Fault) : FailsAt (.error f : Except Fault α) f.path :=
  ⟨f, rfl, rfl⟩

/-! ## Values of the wrong kind -/

/-- The characters that a value of this kind may start with. -/
def Value.Opener : Value → Char → Prop
  | .null, c => c = 'n'
  | .boolean b, c => c = if b then 't' else 'f'
  | .number _, c => c = '-' ∨ isDigit c = true
  | .text _, c => c = '"'
  | .list _, c => c = '['
  | .object _, c => c = '\x7b'

/-- Whether a value of this kind can encode anything. -/
def Schema.Admits {α : Type} : Schema α → Value → Prop
  | .text, .text _ => True
  | .byte, .number _ => True
  | .choice _, .text _ => True
  | .choice _, .object _ => True
  | .list _, .list _ => True
  | .table _, .object _ => True
  | .record _ _ _ _, .list _ => True
  | .record _ _ _ _, .object _ => True
  | _, _ => False

theorem Literal.opener {t : List Char} (h : Literal t) :
    ∃ c r, t = c :: r ∧ (c = '-' ∨ isDigit c = true) := by
  have hwhole : ∀ {w : List Char}, Whole w → ∃ c r, w = c :: r ∧ isDigit c = true := by
    rintro _ (_ | ⟨h₁, h₂, -⟩)
    · exact ⟨_, _, rfl, rfl⟩
    · exact ⟨_, _, rfl, isDigit_iff.mpr ⟨Char.le_trans (by decide) h₁, h₂⟩⟩
  cases h with
  | positive hw =>
    obtain ⟨c, r, rfl, hc⟩ := hwhole hw
    exact ⟨c, _, rfl, Or.inr hc⟩
  | negative => exact ⟨_, _, rfl, Or.inl rfl⟩

theorem exists_opener_of_spells {v : Value} {t : List Char} (h : Spells v t) :
    ∃ c r, t = c :: r ∧ isBlank c = false ∧ v.Opener c := by
  obtain ⟨c, r, hcr, hc, -⟩ := h.opens []
  rw [List.append_nil] at hcr
  refine ⟨c, r, hcr, hc, ?_⟩
  cases h with
  | number hl =>
    obtain ⟨d, s, rfl, hd⟩ := hl.opener
    obtain ⟨rfl, -⟩ := List.cons.inj hcr
    exact hd
  | text hq =>
    obtain ⟨body, -, rfl⟩ := hq
    exact (List.cons.inj hcr).1.symm
  | null | true | false | list | object => exact (List.cons.inj hcr).1.symm

theorem path_wrongType {v : Value} {t : List Char} (h : Spells v t) (wanted : String)
    (rest : List Char) : (wrongType wanted (t ++ rest)).path = [] := by
  have hfind : ∀ f, findValue (t ++ rest) = .error f → f.path = [] := by
    intro f hf
    -- Only numbers can be at fault here: of a list or an object no more than its bracket is read.
    cases h with
    | null | true | false => cases hf
    | list | object => cases hf
    | text hq =>
      obtain ⟨body, -, rfl⟩ := id hq
      have htext : readText (body ++ ['"'] ++ rest) = .ok (_, rest) :=
        readText_eq_ok_iff.mpr ⟨_, hq, rfl⟩
      change (readText (body ++ ['"'] ++ rest) >>= _) = _ at hf
      rw [htext] at hf
      cases hf
    | number hl =>
      have hnumber : ∀ negative text,
          (readNumber negative text >>= fun p => .ok (Found.number p.1, p.2)) = .error f →
          f.path = [] := by
        intro negative text heq
        cases hn : readNumber negative text with
        | ok p =>
          rw [hn] at heq
          cases heq
        | error f' =>
          rw [hn] at heq
          cases heq
          exact path_of_readNumber hn
      obtain ⟨c, r, rfl, rfl | hc⟩ := hl.opener
      · exact hnumber true _ hf
      · have hdigit : startsWithDigit (c :: r ++ rest) = true := hc
        unfold findValue at hf
        split at hf
        case h_8 =>
          rw [if_pos hdigit] at hf
          exact hnumber false _ hf
        all_goals
          obtain ⟨rfl, -⟩ := List.cons.inj ‹c :: r ++ rest = _›
          exact absurd hc (by decide)
  unfold wrongType
  split
  · rfl
  · exact hfind _ ‹_›

section

variable {v : Value}

theorem Value.Opener.text (h : v.Opener '"') : ∃ s, v = .text s := by
  cases v with
  | text s => exact ⟨s, rfl⟩
  | boolean b => cases b <;> simp [Opener] at h
  | _ => simp [Opener, isDigit] at h

theorem Value.Opener.list (h : v.Opener '[') : ∃ vs, v = .list vs := by
  cases v with
  | list vs => exact ⟨vs, rfl⟩
  | boolean b => cases b <;> simp [Opener] at h
  | _ => simp [Opener, isDigit] at h

theorem Value.Opener.object (h : v.Opener '\x7b') : ∃ ms, v = .object ms := by
  cases v with
  | object ms => exact ⟨ms, rfl⟩
  | boolean b => cases b <;> simp [Opener] at h
  | _ => simp [Opener, isDigit] at h

theorem Value.Opener.number {c : Char} (h : v.Opener c) (hc : c = '-' ∨ isDigit c = true) :
    ∃ literal, v = .number literal := by
  cases v with
  | number literal => exact ⟨literal, rfl⟩
  | boolean b =>
    obtain rfl : c = if b then 't' else 'f' := h
    cases b <;> simp [isDigit] at hc
  | _ =>
    obtain rfl := h
    simp [isDigit] at hc

end

theorem Schema.fails_of_not_admits {α : Type} {schema : Schema α} {v : Value}
    (h : ¬schema.Admits v) : Fails schema.read v [] := by
  intro w t rest hw ht
  have hwrong : ∀ {β : Type} (wanted : String),
      FailsAt (.error (wrongType wanted (t ++ rest)) : Except Fault β) [] :=
    fun wanted => ⟨_, rfl, path_wrongType ht wanted rest⟩
  obtain ⟨c, r, rfl, hc, hv⟩ := exists_opener_of_spells ht
  have hskip : skipBlanks (w ++ (c :: r ++ rest)) = c :: (r ++ rest) := skipBlanks_mark hw hc _
  have hopen : ∀ {d more}, c :: (r ++ rest) = d :: more → v.Opener d := by
    rintro d more heq
    exact (List.cons.inj heq).1 ▸ hv
  cases schema with
  | text =>
    rw [Schema.read, readString, hskip]
    split
    · cases ‹c :: (r ++ rest) = []›
    · obtain ⟨s, rfl⟩ := (hopen ‹_›).text
      exact absurd trivial h
    · exact hwrong _
  | byte =>
    rw [Schema.read, readByte, hskip]
    split
    · cases ‹c :: (r ++ rest) = []›
    · obtain ⟨literal, rfl⟩ := (hopen ‹_›).number (Or.inl rfl)
      exact absurd trivial h
    · split
      · obtain ⟨literal, rfl⟩ := hv.number (Or.inr ‹_›)
        exact absurd trivial h
      · exact hwrong _
  | choice options =>
    rw [Schema.read, readChoice, hskip]
    split
    · cases ‹c :: (r ++ rest) = []›
    · obtain ⟨s, rfl⟩ := (hopen ‹_›).text
      exact absurd trivial h
    · obtain ⟨ms, rfl⟩ := (hopen ‹_›).object
      exact absurd trivial h
    · exact failsAt_error _
  | list item =>
    rw [Schema.read, hskip]
    split
    · cases ‹c :: (r ++ rest) = []›
    · obtain ⟨vs, rfl⟩ := (hopen ‹_›).list
      exact absurd trivial h
    · exact hwrong _
  | table item =>
    rw [Schema.read, hskip]
    split
    · cases ‹c :: (r ++ rest) = []›
    · obtain ⟨ms, rfl⟩ := (hopen ‹_›).object
      exact absurd trivial h
    · exact hwrong _
  | record title closed fields build =>
    rw [Schema.read, hskip]
    split
    · cases ‹c :: (r ++ rest) = []›
    · obtain ⟨vs, rfl⟩ := (hopen ‹_›).list
      exact absurd trivial h
    · obtain ⟨ms, rfl⟩ := (hopen ‹_›).object
      exact absurd trivial h
    · exact hwrong _

/-! ## Behind what is read -/

theorem add_length_cons (index : Nat) (v : Value) (vs : List Value) :
    index + (v :: vs).length = index + 1 + vs.length := by
  simp only [List.length_cons]
  omega

section

variable {α : Type} {read : List Char → Except Fault (α × List Char)} {good after : List Value}
  {x : Value} {p : List Step} {t rest : List Char}

theorem failsAt_readElements (hgood : ∀ v ∈ good, ∃ a, Reads read v a) (hx : Fails read x p)
    {bound index : Nat} (ht : Items (index == 0) (good ++ x :: after) t)
    (hb : (t ++ rest).length ≤ bound) :
    FailsAt (readElements read bound index (t ++ rest)) (.index (index + good.length) :: p) := by
  -- Along what is read before, while the index of the reader moves on to that of the fault.
  induction good generalizing index t bound with
  | nil =>
    obtain ⟨k, rfl⟩ := exists_bound ht.ne_nil hb
    cases ht with
    | @item _ _ _ l t u hl ht hu =>
      have hassoc : l ++ (t ++ u) ++ rest = l ++ (t ++ (u ++ rest)) := by simp
      rw [hassoc, readElements_of_lead hl (ht.opens _)]
      exact ((hx [] t _ (List.forall_mem_nil _) ht).within _).bind _
  | cons v good ih =>
    obtain ⟨k, rfl⟩ := exists_bound ht.ne_nil hb
    rw [List.forall_mem_cons] at hgood
    obtain ⟨⟨a, hv⟩, hgood⟩ := hgood
    cases ht with
    | @item _ _ _ l t u hl ht hu =>
      have hlt := length_lt_of_spells ht l u
      have hitems : FailsAt (readElements read k (index + 1) (u ++ rest))
          (.index (index + 1 + good.length) :: p) :=
        ih hgood hu (by simp only [List.length_append] at hb hlt ⊢; omega)
      rw [readElements_of_item hv hl ht hu, add_length_cons]
      exact hitems.bind _

end

theorem failsAt_readMembers {σ : Type}
    {read : String → σ → List Char → Except Fault (σ × List Char)}
    {good after : List (String × Value)} {key : String} {x : Value} {s s₁ : σ} {p : List Step}
    (hgood : Run (ReadsMember read) s good s₁) (hx : FailsMember read key x s₁ p) {bound : Nat}
    {first : Bool} {t rest : List Char} (ht : Members first (good ++ (key, x) :: after) t)
    (hb : (t ++ rest).length ≤ bound) :
    FailsAt (readMembers read bound first s (t ++ rest)) p := by
  induction hgood generalizing first t bound with
  | nil =>
    obtain ⟨k, rfl⟩ := exists_bound ht.ne_nil hb
    cases ht with
    | @member _ _ _ _ l q w w' t u hl hq hw hw' ht hu =>
      have hassoc : l ++ (q ++ (w ++ ':' :: (w' ++ (t ++ u)))) ++ rest =
          l ++ (q ++ (w ++ ':' :: (w' ++ (t ++ (u ++ rest))))) := by simp
      rw [hassoc, readMembers_of_lead hl hq]
      exact (hx w w' t _ hw hw' ht).bind _
  | cons hm _ ih =>
    obtain ⟨k, rfl⟩ := exists_bound ht.ne_nil hb
    cases ht with
    | member hl hq hw hw' ht hu =>
      rw [readMembers_of_member hm hl hq hw hw' ht hu]
      exact ih hx hu (by simp only [List.length_append, List.length_cons] at hb ⊢; omega)

theorem fails_list {α : Type} {item : Schema α} {good after : List Value} {x : Value}
    {p : List Step} (hgood : ∀ v ∈ good, ∃ a, Reads item.read v a) (hx : Fails item.read x p) :
    Fails (Schema.list item).read (.list (good ++ x :: after)) (.index good.length :: p) := by
  intro w t rest hw ht
  cases ht with
  | @list _ t ht =>
    rw [Schema.read, List.cons_append, skipBlanks_mark hw (by decide)]
    have h : FailsAt (readElements item.read (t ++ rest).length 0 (t ++ rest))
        (.index (0 + good.length) :: p) := failsAt_readElements hgood hx ht (Nat.le_refl _)
    rwa [Nat.zero_add] at h

/-! ## Records as lists -/

namespace Fields

variable {β σ : Type} {fields : Fields β σ}

/-- The field at that position refuses the value. -/
def FailsNth (x : Value) (p : List Step) {β σ : Type} : Fields β σ → Nat → Prop
  | .none, _ => False
  | .field _ _ item _, 0 => Fails item.read x p
  | .field _ _ _ rest, i + 1 => rest.FailsNth x p i

theorem failsAt_readRow (h : fields.Readable) {good after after' : List Value} {v x : Value} {b : β}
    (hb : fields.EncodesRow (good ++ v :: after) b) {p : List Step}
    (hx : fields.FailsNth x p good.length) {wanted : String} {index : Nat} {t rest : List Char}
    (ht : Items (index == 0) (good ++ x :: after') t) :
    FailsAt (fields.readRow wanted index (t ++ rest)) (.index (index + good.length) :: p) := by
  induction fields using Fields.induction generalizing good index t with
  | none => exact hx.elim
  | field key fallback item fields ih =>
    obtain ⟨a, b⟩ := b
    cases good with
    | nil =>
      cases ht with
      | @item _ _ _ l t u hl ht hu =>
        have hassoc : l ++ (t ++ u) ++ rest = l ++ (t ++ (u ++ rest)) := by simp
        rw [hassoc, readRow_of_lead hl (ht.opens _)]
        exact ((hx [] t _ (List.forall_mem_nil _) ht).within _).bind _
    | cons v' good =>
      obtain ⟨hv, hb⟩ := hb
      cases ht with
      | @item _ _ _ l t u hl ht hu =>
        rw [readRow_of_item (h.1 v' a hv) hl ht hu, add_length_cons]
        exact (ih h.2 hb hx (show Items (index + 1 == 0) _ u from hu)).bind _

end Fields

section

variable {α β σ : Type} {title : String} {closed : Bool} {fields : Fields β σ} {build : β → α}
  {p : List Step}

theorem fails_row (h : fields.Readable) {good after after' : List Value} {v x : Value} {b : β}
    (hb : fields.EncodesRow (good ++ v :: after) b) (hx : fields.FailsNth x p good.length) :
    Fails (Schema.record title closed fields build).read (.list (good ++ x :: after'))
      (.index good.length :: p) := by
  intro w t rest hw ht
  cases ht with
  | @list _ t ht =>
    rw [Schema.read, List.cons_append, skipBlanks_mark hw (by decide)]
    have hrow : FailsAt (fields.readRow (fields.wantedRow title) 0 (t ++ rest))
        (.index (0 + good.length) :: p) := fields.failsAt_readRow h hb hx ht
    rw [Nat.zero_add] at hrow
    exact hrow.bind _

/-! ## Records as objects -/

theorem fails_object {good after : List (String × Value)} {key : String} {x : Value} {slots : σ}
    (hgood : Run (ReadsMember (fields.readPassed closed)) fields.unread good slots)
    (hx : FailsMember (fields.readPassed closed) key x slots p) :
    Fails (Schema.record title closed fields build).read (.object (good ++ (key, x) :: after))
      p := by
  intro w t rest hw ht
  cases ht with
  | @object _ t ht =>
    have hopen : skipBlanks (w ++ ('\x7b' :: t ++ rest)) = '\x7b' :: (t ++ rest) :=
      skipBlanks_mark hw (by decide) _
    rw [Schema.read_object hopen]
    exact (failsAt_readMembers hgood hx ht (Nat.le_refl _)).bind _

end

end NodeFamilies.Json
