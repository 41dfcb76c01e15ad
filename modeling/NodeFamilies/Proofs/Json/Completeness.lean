import NodeFamilies.Proofs.Json.Objects
import NodeFamilies.Proofs.Json.Skipping

/-!
# What encodes is read

Every value that encodes is read as what it encodes, numbers and records with further keys among
them. A value is read by itself: its spelling may stand anywhere, as long as a number in it cannot
take up what follows.
-/

namespace NodeFamilies.Json

/-! ## Definitions -/

/-- The value is read as `a`, wherever it stands. -/
def Reads {α : Type} (read : List Char → Except Fault (α × List Char)) (v : Value) (a : α) : Prop :=
  ∀ w t rest, Blanks w → Spells v t → Bounded rest → read (w ++ (t ++ rest)) = .ok (a, rest)

/-- From behind its key on, the member is read and takes what is known from `s` to `s'`. -/
def ReadsMember {σ : Type} (read : String → σ → List Char → Except Fault (σ × List Char))
    (key : String) (v : Value) (s s' : σ) : Prop :=
  ∀ w w' t rest, Blanks w → Blanks w' → Spells v t → Bounded rest →
    read key s (w ++ ':' :: (w' ++ (t ++ rest))) = .ok (s', rest)

namespace Fields

/-- The fields of which every value that encodes is read. -/
def Readable {β σ : Type} : Fields β σ → Prop
  | .none => True
  | .field _ _ item rest => (∀ v a, item.Encodes v a → Reads item.read v a) ∧ rest.Readable

/-- A member of a field whose slot is empty, or one that an open record passes over. -/
def Passes {β σ : Type} (closed : Bool) (fields : Fields β σ) (key : String) (v : Value)
    (slots slots' : σ) : Prop :=
  fields.Fills key v slots slots' ∨ closed = false ∧ key ∉ fields.keys ∧ slots' = slots

/-- What the reader of a record does from behind a key on. -/
def readPassed {β σ : Type} (closed : Bool) (fields : Fields β σ) (key : String) (slots : σ)
    (text : List Char) : Except Fault (σ × List Char) :=
  if fields.isRead key slots then
    .error (.before (.duplicateField key) (afterRefusedKey text))
  else if fields.keys.contains key then do
    let rest ← readColon text
    within (.key key) (fields.readField key slots rest)
  else if closed then
    .error ((Fault.before (.unknownField key fields.keys) (afterRefusedKey text)).under (.key key))
  else do
    let rest ← readColon text
    return (slots, ← within (.key key) (skipValue rest))

end Fields

mutual

/-- In every record each key once. -/
def Schema.Distinct {α : Type} : Schema α → Prop
  | .text => True
  | .byte => True
  | .choice _ => True
  | .list item => item.Distinct
  | .table item => item.Distinct
  | .record _ _ fields _ => fields.keys.Nodup ∧ fields.Distinct

def Fields.Distinct {β σ : Type} : Fields β σ → Prop
  | .none => True
  | .field _ _ item rest => item.Distinct ∧ rest.Distinct

end

theorem Takes.reads {α : Type} {read : List Char → Except Fault (α × List Char)}
    {encodes : Value → α → Prop} (h : Takes read encodes) {v : Value} {a : α} (hv : encodes v a) :
    Reads read v a := by
  intro w t rest hw ht _
  exact (h _ _ _).mpr ⟨w, v, t, hw, ht, hv, rfl⟩

/-! ## One item -/

section

variable {α σ : Type} {bound : Nat} {l more w : List Char}

theorem nextElement_close {first : Bool} (hw : Blanks w) (rest : List Char) :
    nextElement first (w ++ [']'] ++ rest) = .ok (.closed rest) :=
  nextElement_eq_closed_iff.mpr ⟨w, hw, by simp⟩

theorem nextKey_close {first : Bool} (hw : Blanks w) (rest : List Char) :
    nextKey first (w ++ ['\x7d'] ++ rest) = .ok (.closed rest) :=
  nextKey_eq_closed_iff.mpr ⟨w, hw, by simp⟩

theorem closeList_close (hw : Blanks w) (rest : List Char) :
    closeList (w ++ [']'] ++ rest) = .ok rest :=
  closeList_eq_ok_iff.mpr ⟨w, hw, by simp⟩

theorem readElements_of_lead {read : List Char → Except Fault (α × List Char)} {index : Nat}
    (hl : Lead (index == 0) l) (hm : Opens more) :
    readElements read (bound + 1) index (l ++ more) = (do
      let (a, rest) ← within (.index index) (read more)
      let (as, rest) ← readElements read bound (index + 1) rest
      return (a :: as, rest)) := by
  rw [readElements, nextElement_of_lead hl hm]
  rfl

theorem readMembers_of_lead {member : String → σ → List Char → Except Fault (σ × List Char)}
    {first : Bool} {s : σ} {key : String} {q : List Char} (hl : Lead first l)
    (hq : Quoted key q) :
    readMembers member (bound + 1) first s (l ++ (q ++ more)) = (do
      let (s, rest) ← member key s more
      readMembers member bound false s rest) := by
  obtain ⟨r, -, hr⟩ := skipBlanks_quoted (List.forall_mem_nil _) hq more
  have hkey : nextKey first (l ++ '"' :: r) = .ok (.item r) := nextKey_eq_item_iff.mpr ⟨l, hl, rfl⟩
  have htext : readText r = .ok (key, more) := readText_eq_ok_iff.mpr ⟨q, hq, hr⟩
  rw [← hr, readMembers, hkey]
  change (within .unknown (readText r) >>= _) = _
  rw [htext]
  rfl

theorem Fields.readRow_of_lead {β : Type} {key : String} {fallback : Option α} {item : Schema α}
    {fields : Fields β σ} {wanted : String} {index : Nat} (hl : Lead (index == 0) l)
    (hm : Opens more) :
    (Fields.field key fallback item fields).readRow wanted index (l ++ more) = (do
      let (a, rest) ← within (.index index) (item.read more)
      let (b, rest) ← fields.readRow wanted (index + 1) rest
      return ((a, b), rest)) := by
  rw [Fields.readRow, nextElement_of_lead hl hm]
  rfl

end

/-! ## Lists and objects -/

theorem exists_bound {t rest : List Char} {bound : Nat} (ht : t ≠ [])
    (hb : (t ++ rest).length ≤ bound) : ∃ k, bound = k + 1 := by
  have hpos := List.length_pos_iff.mpr ht
  rw [List.length_append] at hb
  exact Nat.exists_eq_add_of_le' (show 1 ≤ bound by omega)

section

variable {α σ : Type} {bound : Nat} {l t u rest : List Char} {v : Value}

theorem readElements_of_item {read : List Char → Except Fault (α × List Char)} {vs : List Value}
    {a : α} (hv : Reads read v a) {index : Nat} (hl : Lead (index == 0) l) (ht : Spells v t)
    (hu : Items false vs u) :
    readElements read (bound + 1) index (l ++ (t ++ u) ++ rest) = (do
      let (as, rest) ← readElements read bound (index + 1) (u ++ rest)
      return (a :: as, rest)) := by
  have hassoc : l ++ (t ++ u) ++ rest = l ++ (t ++ (u ++ rest)) := by simp
  have hvalue : read (t ++ (u ++ rest)) = .ok (a, u ++ rest) :=
    hv [] t _ (List.forall_mem_nil _) ht (hu.bounded rest)
  rw [hassoc, readElements_of_lead hl (ht.opens _), hvalue]
  rfl

theorem readMembers_of_member {read : String → σ → List Char → Except Fault (σ × List Char)}
    {ms : List (String × Value)} {key : String} {s s' : σ} {first : Bool} {q w w' : List Char}
    (hm : ReadsMember read key v s s') (hl : Lead first l) (hq : Quoted key q) (hw : Blanks w)
    (hw' : Blanks w') (ht : Spells v t) (hu : Members false ms u) :
    readMembers read (bound + 1) first s
        (l ++ (q ++ (w ++ ':' :: (w' ++ (t ++ u)))) ++ rest) =
      readMembers read bound false s' (u ++ rest) := by
  have hassoc : l ++ (q ++ (w ++ ':' :: (w' ++ (t ++ u)))) ++ rest =
      l ++ (q ++ (w ++ ':' :: (w' ++ (t ++ (u ++ rest))))) := by simp
  rw [hassoc, readMembers_of_lead hl hq, hm w w' t _ hw hw' ht (hu.bounded rest)]
  rfl

theorem Fields.readRow_of_item {β : Type} {key : String} {fallback : Option α} {item : Schema α}
    {fields : Fields β σ} {vs : List Value} {a : α} (hv : Reads item.read v a) {wanted : String}
    {index : Nat} (hl : Lead (index == 0) l) (ht : Spells v t) (hu : Items false vs u) :
    (Fields.field key fallback item fields).readRow wanted index (l ++ (t ++ u) ++ rest) = (do
      let (b, rest) ← fields.readRow wanted (index + 1) (u ++ rest)
      return ((a, b), rest)) := by
  have hassoc : l ++ (t ++ u) ++ rest = l ++ (t ++ (u ++ rest)) := by simp
  have hvalue : item.read (t ++ (u ++ rest)) = .ok (a, u ++ rest) :=
    hv [] t _ (List.forall_mem_nil _) ht (hu.bounded rest)
  rw [hassoc, readRow_of_lead hl (ht.opens _), hvalue]
  rfl

end

theorem readElements_of_reads {α : Type} {read : List Char → Except Fault (α × List Char)}
    {vs : List Value} {as : List α} (h : List.Forall₂ (Reads read) vs as) {bound index : Nat}
    {t rest : List Char} (ht : Items (index == 0) vs t) (hb : (t ++ rest).length ≤ bound) :
    readElements read bound index (t ++ rest) = .ok (as, rest) := by
  -- Along the items, with any bound: each of them takes at least one character off the text.
  induction h generalizing index t bound with
  | nil =>
    obtain ⟨k, rfl⟩ := exists_bound ht.ne_nil hb
    cases ht with
    | close hw =>
      rw [readElements, nextElement_close hw]
      rfl
  | @cons v a vs as hv _ ih =>
    obtain ⟨k, rfl⟩ := exists_bound ht.ne_nil hb
    cases ht with
    | @item _ _ _ l t u hl ht hu =>
      have hlt := length_lt_of_spells ht l u
      have hitems : readElements read k (index + 1) (u ++ rest) = .ok (as, rest) :=
        ih hu (by simp only [List.length_append] at hb hlt ⊢; omega)
      rw [readElements_of_item hv hl ht hu, hitems]
      rfl

theorem readMembers_of_run {σ : Type}
    {read : String → σ → List Char → Except Fault (σ × List Char)} {ms : List (String × Value)}
    {s s' : σ} (h : Run (ReadsMember read) s ms s') {bound : Nat} {first : Bool}
    {t rest : List Char} (ht : Members first ms t) (hb : (t ++ rest).length ≤ bound) :
    readMembers read bound first s (t ++ rest) = .ok (s', rest) := by
  induction h generalizing first t bound with
  | nil =>
    obtain ⟨k, rfl⟩ := exists_bound ht.ne_nil hb
    cases ht with
    | close hw =>
      rw [readMembers, nextKey_close hw]
      rfl
  | cons hm _ ih =>
    obtain ⟨k, rfl⟩ := exists_bound ht.ne_nil hb
    cases ht with
    | member hl hq hw hw' ht hu =>
      rw [readMembers_of_member hm hl hq hw hw' ht hu]
      exact ih hu (by simp only [List.length_append, List.length_cons] at hb ⊢; omega)

/-! ## Records -/

namespace Fields

variable {β σ : Type} {fields : Fields β σ} {key : String} {v : Value} {slots slots' : σ}
  {closed : Bool}

theorem readField_reads (h : fields.Readable) (hf : fields.Fills key v slots slots') :
    Reads (fields.readField key slots) v slots' := by
  induction fields using Fields.induction with
  | none => exact hf.elim
  | field k fallback item rest ih =>
    obtain ⟨slot, slots⟩ := slots
    obtain ⟨slot', slots'⟩ := slots'
    intro w t more hw ht hr
    rw [readField]
    unfold Fills at hf
    split at hf
    · rename_i hk
      obtain ⟨-, ⟨a, ha, rfl⟩, rfl⟩ := hf
      rw [if_pos hk, h.1 v a ha w t more hw ht hr]
      rfl
    · rename_i hk
      obtain ⟨rfl, hf⟩ := hf
      rw [if_neg hk, ih h.2 hf w t more hw ht hr]
      rfl

theorem Fills.isRead_eq_false (h : fields.Fills key v slots slots') :
    fields.isRead key slots = false := by
  induction fields using Fields.induction with
  | none => exact h.elim
  | field k fallback item rest ih =>
    obtain ⟨slot, slots⟩ := slots
    obtain ⟨slot', slots'⟩ := slots'
    rw [isRead]
    unfold Fills at h
    split at h
    · rename_i hk
      rw [if_pos hk, h.1]
      rfl
    · rename_i hk
      rw [if_neg hk]
      exact ih h.2

theorem mem_keys_of_isRead (h : fields.isRead key slots = true) : key ∈ fields.keys := by
  induction fields using Fields.induction with
  | none => cases h
  | field k fallback item rest ih =>
    obtain ⟨slot, slots⟩ := slots
    rw [isRead] at h
    split at h
    · rename_i hk
      exact hk ▸ List.mem_cons_self
    · exact List.mem_cons_of_mem k (ih h)

theorem readPassed_reads (h : fields.Readable) (hp : fields.Passes closed key v slots slots') :
    ReadsMember (fields.readPassed closed) key v slots slots' := by
  intro w w' t rest hw hw' ht hr
  have hcolon : readColon (w ++ ':' :: (w' ++ (t ++ rest))) = .ok (w' ++ (t ++ rest)) :=
    readColon_eq_ok_iff.mpr ⟨w, hw, rfl⟩
  rw [readPassed]
  rcases hp with hfills | ⟨rfl, hkey, rfl⟩
  · rw [hfills.isRead_eq_false, if_neg Bool.false_ne_true,
      if_pos (List.contains_iff_mem.mpr hfills.mem_keys), hcolon]
    exact within_eq_ok_iff.mpr (readField_reads h hfills w' t rest hw' ht hr)
  · have hread : fields.isRead key slots' = false := by
      rw [Bool.eq_false_iff]
      exact fun hread => hkey (mem_keys_of_isRead hread)
    rw [hread, if_neg Bool.false_ne_true, if_neg (mt List.contains_iff_mem.mp hkey),
      if_neg Bool.false_ne_true, hcolon]
    change (within (.key key) (skipValue (w' ++ (t ++ rest))) >>= _) = _
    rw [skipValue_of_spells hw' ht hr]
    rfl

theorem readRow_of_encodesRow (h : fields.Readable) {vs : List Value} {b : β}
    (hb : fields.EncodesRow vs b) {wanted : String} {index : Nat} {t rest : List Char}
    (ht : Items (index == 0) vs t) : fields.readRow wanted index (t ++ rest) = .ok (b, rest) := by
  induction fields using Fields.induction generalizing vs index t with
  | none =>
    obtain rfl : vs = [] := hb
    cases ht with
    | close hw =>
      rw [readRow, closeList_close hw]
      rfl
  | field key fallback item fields ih =>
    obtain ⟨a, b⟩ := b
    cases ht with
    | close hw =>
      obtain ⟨rfl, hb⟩ := hb
      have hfallbacks : fields.fallbacks (index + 1) = .ok b := fallbacks_eq_ok_iff.mpr hb
      rw [readRow, nextElement_close hw, hfallbacks]
      rfl
    | @item _ v vs l t u hl ht hu =>
      obtain ⟨ha, hb⟩ := hb
      have hrow : fields.readRow wanted (index + 1) (u ++ rest) = .ok (b, rest) := ih h.2 hb hu
      rw [readRow_of_item (h.1 v a ha) hl ht hu, hrow]
      rfl

/-! ## Members in any order -/

theorem Passes.swap {key key' : String} {v v' : Value} {s s₁ s₂ : σ}
    (h : fields.Passes closed key v s s₁) (h' : fields.Passes closed key' v' s₁ s₂) :
    ∃ s₁', fields.Passes closed key' v' s s₁' ∧ fields.Passes closed key v s₁' s₂ := by
  rcases h with h | ⟨hc, hk, rfl⟩
  · rcases h' with h' | ⟨hc', hk', rfl⟩
    · obtain ⟨s₁', h₁, h₂⟩ := h.swap h'
      exact ⟨s₁', Or.inl h₁, Or.inl h₂⟩
    · exact ⟨s, Or.inr ⟨hc', hk', rfl⟩, Or.inl h⟩
  · exact ⟨s₂, h', Or.inr ⟨hc, hk, rfl⟩⟩

theorem run_passes_of_others {others : List (String × Value)} (hc : closed = false)
    (h : ∀ m ∈ others, m.1 ∉ fields.keys) (slots : σ) :
    Run (fields.Passes closed) slots others slots := by
  induction others with
  | nil => exact .nil
  | cons m others ih =>
    rw [List.forall_mem_cons] at h
    exact .cons (Or.inr ⟨hc, h.1, rfl⟩) (ih h.2)

/-- The members of a record that is encoded pass one after the other, and complete it. -/
theorem exists_run_passes (hkeys : fields.keys.Nodup) {ms known others : List (String × Value)}
    {b : β} (hp : ms.Perm (known ++ others)) (hknown : fields.EncodesMembers known b)
    (hothers : if closed then others = [] else ∀ m ∈ others, m.1 ∉ fields.keys) :
    ∃ slots, Run (fields.Passes closed) fields.unread ms slots ∧
      fields.complete slots = .ok b := by
  -- First the known members in the order of the schema, then the others, then all as they stand.
  obtain ⟨slots, hrun, hb⟩ := exists_run_of_encodesMembers hkeys hknown
  have hrest : Run (fields.Passes closed) slots others slots := by
    cases closed with
    | true =>
      obtain rfl : others = [] := hothers
      exact .nil
    | false => exact run_passes_of_others rfl hothers slots
  exact ⟨slots, ((hrun.imp Or.inl).append hrest).perm Passes.swap hp.symm, hb⟩

end Fields

/-! ## Every schema -/

theorem reads_byte {v : Value} {n : Nat} (h : Schema.byte.Encodes v n) :
    Reads Schema.byte.read v n := by
  rw [Schema.Encodes] at h
  obtain ⟨literal, rfl, hread⟩ := h
  intro w t rest hw ht hr
  cases ht with
  | number hl => rw [Schema.read, readByte_append hl hread hw hr]

theorem reads_list {α : Type} {item : Schema α}
    (hitem : ∀ v a, item.Encodes v a → Reads item.read v a) {v : Value} {as : List α}
    (h : (Schema.list item).Encodes v as) : Reads (Schema.list item).read v as := by
  rw [Schema.Encodes] at h
  obtain ⟨vs, rfl, hvs⟩ := h
  intro w t rest hw ht _
  cases ht with
  | @list _ t ht =>
    rw [Schema.read, List.cons_append, skipBlanks_mark hw (by decide)]
    exact readElements_of_reads (hvs.imp hitem) ht (Nat.le_refl _)

theorem reads_table {α : Type} {item : Schema α}
    (hitem : ∀ v a, item.Encodes v a → Reads item.read v a) {v : Value}
    {entries : List (String × α)} (h : (Schema.table item).Encodes v entries) :
    Reads (Schema.table item).read v entries := by
  rw [Schema.Encodes] at h
  obtain ⟨ms, rfl, hms⟩ := h
  intro w t rest hw ht _
  cases ht with
  | @object _ t ht =>
    rw [Schema.read, List.cons_append, skipBlanks_mark hw (by decide)]
    refine readMembers_of_run ?_ ht (Nat.le_refl _)
    refine (run_table_iff.mpr ⟨entries, hms, (List.nil_append entries).symm⟩).imp ?_
    rintro key v es _ ⟨a, ha, rfl⟩ w w' t rest hw hw' ht hr
    have hcolon : readColon (w ++ ':' :: (w' ++ (t ++ rest))) = .ok (w' ++ (t ++ rest)) :=
      readColon_eq_ok_iff.mpr ⟨w, hw, rfl⟩
    have hvalue : item.read (w' ++ (t ++ rest)) = .ok (a, rest) := hitem v a ha w' t rest hw' ht hr
    refine bind_eq_ok.mpr ⟨_, hcolon, bind_eq_ok.mpr ⟨(a, rest), ?_, rfl⟩⟩
    exact within_eq_ok_iff.mpr hvalue

theorem Schema.read_object {α β σ : Type} {title : String} {closed : Bool}
    {fields : Fields β σ} {build : β → α} {text rest : List Char}
    (h : skipBlanks text = '\x7b' :: rest) :
    (Schema.record title closed fields build).read text = (do
      let (slots, rest) ← readMembers (fields.readPassed closed) rest.length true fields.unread rest
      match fields.complete slots with
      | .ok b => return (build b, rest)
      | .error key => .error (.before (.missingField key) rest)) := by
  rw [Schema.read, h]
  rfl

theorem reads_record {α β σ : Type} {title : String} {closed : Bool} {fields : Fields β σ}
    {build : β → α} (hkeys : fields.keys.Nodup) (hfields : fields.Readable) {v : Value} {a : α}
    (h : (Schema.record title closed fields build).Encodes v a) :
    Reads (Schema.record title closed fields build).read v a := by
  rw [Schema.Encodes] at h
  obtain ⟨b, rfl, ⟨vs, rfl, hvs⟩ | ⟨ms, known, others, rfl, hp, hknown, hothers⟩⟩ := h
  · intro w t rest hw ht _
    cases ht with
    | @list _ t ht =>
      have hrow : fields.readRow (fields.wantedRow title) 0 (t ++ rest) = .ok (b, rest) :=
        fields.readRow_of_encodesRow hfields hvs ht
      rw [Schema.read, List.cons_append, skipBlanks_mark hw (by decide)]
      simp only [hrow]
      rfl
  · intro w t rest hw ht _
    obtain ⟨slots, hrun, hb⟩ := Fields.exists_run_passes hkeys hp hknown hothers
    cases ht with
    | @object _ t ht =>
      have hmembers := readMembers_of_run (hrun.imp (Fields.readPassed_reads hfields)) ht
        (Nat.le_refl (t ++ rest).length)
      have hopen : skipBlanks (w ++ ('\x7b' :: t ++ rest)) = '\x7b' :: (t ++ rest) :=
        skipBlanks_mark hw (by decide) _
      rw [Schema.read_object hopen, hmembers]
      simp only [Bind.bind, Except.bind, hb]
      rfl

mutual

theorem Schema.reads {α : Type} : (schema : Schema α) → schema.Distinct → (v : Value) → (a : α) →
    schema.Encodes v a → Reads schema.read v a
  | .text, _, _, _, hv => takes_readString.reads (by rwa [Schema.Encodes] at hv)
  | .byte, _, _, _, hv => reads_byte hv
  | .choice options, _, _, _, hv => (takes_readChoice options).reads (by rwa [Schema.Encodes] at hv)
  | .list item, h, _, _, hv => reads_list (item.reads h) hv
  | .table item, h, _, _, hv => reads_table (item.reads h) hv
  | .record _ _ fields _, h, _, _, hv => by
    unfold Schema.Distinct at h
    exact reads_record h.1 (fields.readable h.2) hv

theorem Fields.readable {β σ : Type} : (fields : Fields β σ) → fields.Distinct → fields.Readable
  | .none, _ => trivial
  | .field _ _ item rest, h => by
    unfold Fields.Distinct at h
    exact ⟨item.reads h.1, rest.readable h.2⟩

end

mutual

theorem Schema.distinct_of_plain {α : Type} :
    (schema : Schema α) → schema.Plain → schema.Distinct
  | .text, _ | .choice _, _ => trivial
  | .list item, h | .table item, h => item.distinct_of_plain h
  | .record _ _ fields _, h => by
    unfold Schema.Plain at h
    exact ⟨h.2.1, fields.distinct_of_plain h.2.2⟩

theorem Fields.distinct_of_plain {β σ : Type} :
    (fields : Fields β σ) → fields.Plain → fields.Distinct
  | .none, _ => trivial
  | .field _ _ item rest, h => by
    unfold Fields.Plain at h
    exact ⟨item.distinct_of_plain h.1, rest.distinct_of_plain h.2⟩

end

end NodeFamilies.Json
