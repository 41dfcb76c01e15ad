import NodeFamilies.Proofs.Json.Exact
import NodeFamilies.Proofs.Json.Records

/-!
# Objects and whole documents

A schema without numbers and open records is read exactly. Numbers are left out because a digit
behind one belongs to it, open records because what is passed over there need not be a value.
-/

namespace NodeFamilies.Json

/-! ## Objects -/

/-- From behind a key on, the reader takes off the colon and a value. -/
def TakesMember {σ : Type} (read : String → σ → List Char → Except Fault (σ × List Char))
    (member : String → Value → σ → σ → Prop) : Prop :=
  ∀ key s text s' rest, read key s text = .ok (s', rest) ↔
    ∃ w w' v t, Blanks w ∧ Blanks w' ∧ Spells v t ∧ member key v s s' ∧
      text = w ++ ':' :: (w' ++ (t ++ rest))

theorem TakesMember.readMembers_eq_ok_iff {σ : Type}
    {read : String → σ → List Char → Except Fault (σ × List Char)}
    {member : String → Value → σ → σ → Prop} (h : TakesMember read member) {bound : Nat}
    {first : Bool} {s s' : σ} {text rest : List Char} (hb : text.length ≤ bound) :
    readMembers read bound first s text = .ok (s', rest) ↔
      ∃ ms t, Members first ms t ∧ Run member s ms s' ∧ text = t ++ rest := by
  induction bound generalizing first s text with
  | zero =>
    obtain rfl := List.length_eq_zero_iff.mp (Nat.le_zero.mp hb)
    simp only [readMembers, reduceCtorEq, false_iff, not_exists, not_and]
    rintro ms t ht - heq
    exact ht.ne_nil (List.append_eq_nil_iff.mp heq.symm).1
  | succ bound ih =>
    rw [readMembers, bind_eq_ok]
    constructor
    · rintro ⟨next, hnext, hok⟩
      rw [within_eq_ok_iff] at hnext
      cases next with
      | closed more =>
        obtain ⟨rfl, rfl⟩ := Prod.mk.inj (Except.ok.inj hok)
        obtain ⟨w, hw, rfl⟩ := nextKey_eq_closed_iff.mp hnext
        exact ⟨[], _, .close hw, .nil, by simp⟩
      | item more =>
        obtain ⟨⟨key, r₁⟩, hkey, hmembers⟩ := bind_eq_ok.mp hok
        obtain ⟨⟨s₁, r₂⟩, hs₁, hrest⟩ := bind_eq_ok.mp hmembers
        obtain ⟨l, hl, rfl⟩ := nextKey_eq_item_iff.mp hnext
        obtain ⟨q, hq, hmore⟩ := readText_eq_ok_iff.mp (within_eq_ok_iff.mp hkey)
        obtain ⟨w, w', v, t, hw, hw', ht, hm, rfl⟩ := (h _ _ _ _ _).mp hs₁
        rw [hmore] at hb ⊢
        have hlt : r₂.length ≤ bound := by
          simp only [List.length_append, List.length_cons] at hb
          omega
        obtain ⟨ms, u, hu, hrun, rfl⟩ := (ih hlt).mp hrest
        exact ⟨(key, v) :: ms, _, .member hl hq hw hw' ht hu, .cons hm hrun, by simp⟩
    · rintro ⟨ms, t, ht, hrun, rfl⟩
      cases ht with
      | close hw =>
        cases hrun
        refine ⟨.closed rest, within_eq_ok_iff.mpr ?_, rfl⟩
        exact nextKey_eq_closed_iff.mpr ⟨_, hw, by simp⟩
      | @member _ key v ms l q w w' t u hl hq hw hw' ht hu =>
        cases hrun with
        | @cons _ _ _ _ s₁ _ hm hrun =>
        -- The opening quote of the key is taken together with what leads up to it.
        obtain ⟨r, -, hr⟩ := skipBlanks_quoted (List.forall_mem_nil _) hq
          (w ++ ':' :: (w' ++ (t ++ (u ++ rest))))
        have hassoc : l ++ (q ++ (w ++ ':' :: (w' ++ (t ++ u)))) ++ rest = l ++ '"' :: r := by
          rw [hr]
          simp
        have hlt : (u ++ rest).length ≤ bound := by
          simp only [List.length_append, List.length_cons] at hb ⊢
          omega
        refine ⟨.item r, within_eq_ok_iff.mpr (nextKey_eq_item_iff.mpr ⟨l, hl, hassoc⟩), ?_⟩
        refine bind_eq_ok.mpr ⟨_, within_eq_ok_iff.mpr (readText_eq_ok_iff.mpr ⟨q, hq, hr⟩), ?_⟩
        refine bind_eq_ok.mpr ⟨_, (h _ _ _ _ _).mpr ⟨w, w', v, t, hw, hw', ht, hm, rfl⟩, ?_⟩
        exact (ih hlt).mpr ⟨ms, u, hu, hrun, rfl⟩

/-- What the reader of a closed record does from behind a key on. -/
def Fields.readMember {β σ : Type} (fields : Fields β σ) (key : String) (slots : σ)
    (text : List Char) : Except Fault (σ × List Char) :=
  if fields.isRead key slots then
    .error (.before (.duplicateField key) (afterRefusedKey text))
  else if fields.keys.contains key then do
    let rest ← readColon text
    within (.key key) (fields.readField key slots rest)
  else
    .error ((Fault.before (.unknownField key fields.keys) (afterRefusedKey text)).under (.key key))

theorem Fields.readField_eq_ok_iff {β σ : Type} {fields : Fields β σ} (h : fields.Exact)
    {key : String} {slots slots' : σ} {text rest : List Char} :
    fields.isRead key slots = false ∧ key ∈ fields.keys ∧
        fields.readField key slots text = .ok (slots', rest) ↔
      ∃ w v t, Blanks w ∧ Spells v t ∧ fields.Fills key v slots slots' ∧
        text = w ++ (t ++ rest) := by
  induction fields using Fields.induction generalizing text with
  | none => simp [keys, Fills]
  | field k fallback item fields ih =>
    obtain ⟨hitem, hfields⟩ := h
    obtain ⟨slot, slots⟩ := slots
    obtain ⟨slot', slots'⟩ := slots'
    rw [isRead, readField, keys]
    by_cases hk : k = key
    · subst hk
      simp only [if_true, List.mem_cons_self, true_and, bind_eq_ok]
      constructor
      · rintro ⟨hslot, ⟨a, r⟩, ha, hok⟩
        obtain ⟨⟨rfl, rfl⟩, rfl⟩ := hok
        obtain ⟨w, v, t, hw, ht, hv, rfl⟩ := (hitem _ _ _).mp ha
        have hslot : slot = Option.none := by simpa using hslot
        exact ⟨w, v, t, hw, ht, by simp [Fills, hslot, hv], rfl⟩
      · rintro ⟨w, v, t, hw, ht, hfill, rfl⟩
        rw [Fills, if_pos rfl] at hfill
        obtain ⟨rfl, ⟨a, hv, rfl⟩, rfl⟩ := hfill
        exact ⟨rfl, (a, rest), (hitem _ _ _).mpr ⟨w, v, t, hw, ht, hv, rfl⟩, rfl⟩
    · have hmem : key ∈ k :: fields.keys ↔ key ∈ fields.keys := by
        simp [Ne.symm hk]
      rw [if_neg hk, if_neg hk, hmem, bind_eq_ok]
      constructor
      · rintro ⟨hslot, hkey, ⟨slots₁, r⟩, hread, hok⟩
        obtain ⟨⟨rfl, rfl⟩, rfl⟩ := hok
        obtain ⟨w, v, t, hw, ht, hfill, rfl⟩ := (ih hfields).mp ⟨hslot, hkey, hread⟩
        exact ⟨w, v, t, hw, ht, by simp [Fills, hk, hfill], rfl⟩
      · rintro ⟨w, v, t, hw, ht, hfill, rfl⟩
        rw [Fills, if_neg hk] at hfill
        obtain ⟨rfl, hfill⟩ := hfill
        obtain ⟨hslot, hkey, hread⟩ := (ih hfields).mpr ⟨w, v, t, hw, ht, hfill, rfl⟩
        exact ⟨hslot, hkey, (slots', rest), hread, rfl⟩

theorem Fields.Exact.takesMember {β σ : Type} {fields : Fields β σ} (h : fields.Exact) :
    TakesMember fields.readMember fields.Fills := by
  intro key slots text slots' rest
  unfold readMember
  constructor
  · intro hok
    split at hok
    · cases hok
    split at hok
    · rename_i hslot hkey
      obtain ⟨r, hcolon, hread⟩ := bind_eq_ok.mp hok
      obtain ⟨w, hw, rfl⟩ := readColon_eq_ok_iff.mp hcolon
      have hslot := Bool.eq_false_iff.mpr hslot
      have hkey := List.contains_iff_mem.mp hkey
      obtain ⟨w', v, t, hw', ht, hfill, rfl⟩ :=
        (readField_eq_ok_iff h).mp ⟨hslot, hkey, within_eq_ok_iff.mp hread⟩
      exact ⟨w, w', v, t, hw, hw', ht, hfill, rfl⟩
    · cases hok
  · rintro ⟨w, w', v, t, hw, hw', ht, hfill, rfl⟩
    obtain ⟨hslot, hkey, hread⟩ : fields.isRead key slots = false ∧ key ∈ fields.keys ∧
        fields.readField key slots (w' ++ (t ++ rest)) = .ok (slots', rest) :=
      (readField_eq_ok_iff h).mpr ⟨w', v, t, hw', ht, hfill, rfl⟩
    rw [hslot, if_neg Bool.false_ne_true, if_pos (List.contains_iff_mem.mpr hkey)]
    refine bind_eq_ok.mpr ⟨_, readColon_eq_ok_iff.mpr ⟨w, hw, rfl⟩, ?_⟩
    exact within_eq_ok_iff.mpr hread

theorem Fields.Exact.readMembers_complete_iff {β σ : Type} {fields : Fields β σ}
    (h : fields.Exact) (hkeys : fields.keys.Nodup) {text rest : List Char} {b : β} :
    (∃ slots, readMembers fields.readMember text.length true fields.unread text =
        .ok (slots, rest) ∧ fields.complete slots = .ok b) ↔
      ∃ ms known t, Members true ms t ∧ ms.Perm known ∧ fields.EncodesMembers known b ∧
        text = t ++ rest := by
  constructor
  · rintro ⟨slots, hmembers, hb⟩
    obtain ⟨ms, t, ht, hrun, heq⟩ :=
      (h.takesMember.readMembers_eq_ok_iff (Nat.le_refl _)).mp hmembers
    obtain ⟨known, hp, hknown⟩ := (run_complete_iff hkeys).mp ⟨slots, hrun, hb⟩
    exact ⟨ms, known, t, ht, hp, hknown, heq⟩
  · rintro ⟨ms, known, t, ht, hp, hknown, heq⟩
    obtain ⟨slots, hrun, hb⟩ := (run_complete_iff hkeys).mpr ⟨known, hp, hknown⟩
    refine ⟨slots, ?_, hb⟩
    exact (h.takesMember.readMembers_eq_ok_iff (Nat.le_refl _)).mpr ⟨ms, t, ht, hrun, heq⟩

theorem run_table_iff {α : Type} {item : Schema α} {ms : List (String × Value)}
    {es es' : List (String × α)} :
    Run (fun key v es es' => ∃ a, item.Encodes v a ∧ es' = es ++ [(key, a)]) es ms es' ↔
      ∃ as, List.Forall₂ (fun m a => m.1 = a.1 ∧ item.Encodes m.2 a.2) ms as ∧ es' = es ++ as := by
  constructor
  · intro h
    induction h with
    | nil => exact ⟨[], .nil, by simp⟩
    | @cons key v ms es es₁ es' hm _ ih =>
      obtain ⟨a, ha, rfl⟩ := hm
      obtain ⟨as, has, rfl⟩ := ih
      exact ⟨(key, a) :: as, .cons ⟨rfl, ha⟩ has, by simp⟩
  · rintro ⟨as, has, rfl⟩
    induction has generalizing es with
    | nil => simpa using Run.nil
    | @cons m a ms as hm _ ih =>
      obtain ⟨key, v⟩ := m
      obtain ⟨key', a⟩ := a
      obtain ⟨rfl, ha⟩ := hm
      have hassoc : es ++ (key, a) :: as = es ++ [(key, a)] ++ as := by simp
      rw [hassoc]
      exact .cons ⟨a, ha, rfl⟩ ih

/-! ## Whole documents -/

theorem Takes.list {α : Type} {item : Schema α} (h : Takes item.read item.Encodes) :
    Takes (Schema.list item).read (Schema.list item).Encodes := by
  intro text as rest
  rw [Schema.read]
  constructor
  · intro hok
    split at hok
    · cases hok
    · rename_i r heq
      obtain ⟨w, hw, rfl⟩ := (skipBlanks_eq_mark_iff (by decide)).mp heq
      obtain ⟨vs, t, ht, hvs, rfl⟩ := (h.readElements_eq_ok_iff (Nat.le_refl _)).mp hok
      exact ⟨w, .list vs, '[' :: t, hw, .list ht, ⟨vs, rfl, hvs⟩, rfl⟩
    · cases hok
  · rintro ⟨w, v, t, hw, ht, ⟨vs, rfl, hvs⟩, rfl⟩
    cases ht with
    | @list _ t ht =>
      rw [List.cons_append, skipBlanks_mark hw (by decide)]
      exact (h.readElements_eq_ok_iff (Nat.le_refl _)).mpr ⟨vs, t, ht, hvs, rfl⟩

theorem Takes.tableMember {α : Type} {item : Schema α} (h : Takes item.read item.Encodes) :
    TakesMember (fun key (entries : List (String × α)) rest => do
      let rest ← readColon rest
      let (a, rest) ← within (.key key) (item.read rest)
      return (entries ++ [(key, a)], rest))
      (fun key v es es' => ∃ a, item.Encodes v a ∧ es' = es ++ [(key, a)]) := by
  intro key es text es' rest
  simp only [bind_eq_ok, within_eq_ok_iff, Prod.exists]
  constructor
  · rintro ⟨r, hcolon, a, r', ha, hok⟩
    obtain ⟨rfl, rfl⟩ := Prod.mk.inj (Except.ok.inj hok)
    obtain ⟨w, hw, rfl⟩ := readColon_eq_ok_iff.mp hcolon
    obtain ⟨w', v, t, hw', ht, hv, rfl⟩ := (h _ _ _).mp ha
    exact ⟨w, w', v, t, hw, hw', ht, ⟨a, hv, rfl⟩, rfl⟩
  · rintro ⟨w, w', v, t, hw, hw', ht, ⟨a, hv, rfl⟩, rfl⟩
    refine ⟨_, readColon_eq_ok_iff.mpr ⟨w, hw, rfl⟩, a, rest, ?_, rfl⟩
    exact (h _ _ _).mpr ⟨w', v, t, hw', ht, hv, rfl⟩

theorem Takes.table {α : Type} {item : Schema α} (h : Takes item.read item.Encodes) :
    Takes (Schema.table item).read (Schema.table item).Encodes := by
  intro text as rest
  rw [Schema.read]
  constructor
  · intro hok
    split at hok
    · cases hok
    · rename_i r heq
      obtain ⟨w, hw, rfl⟩ := (skipBlanks_eq_mark_iff (by decide)).mp heq
      obtain ⟨ms, t, ht, hrun, rfl⟩ := (h.tableMember.readMembers_eq_ok_iff (Nat.le_refl _)).mp hok
      obtain ⟨as, hms, rfl⟩ := run_table_iff.mp hrun
      exact ⟨w, .object ms, '\x7b' :: t, hw, .object ht, ⟨ms, rfl, hms⟩, rfl⟩
    · cases hok
  · rintro ⟨w, v, t, hw, ht, ⟨ms, rfl, hms⟩, rfl⟩
    cases ht with
    | @object _ t ht =>
      rw [List.cons_append, skipBlanks_mark hw (by decide)]
      refine (h.tableMember.readMembers_eq_ok_iff (Nat.le_refl _)).mpr ⟨ms, t, ht, ?_, rfl⟩
      exact run_table_iff.mpr ⟨as, hms, rfl⟩

theorem Takes.record {α β σ : Type} {title : String} {fields : Fields β σ} {build : β → α}
    (h : fields.Exact) (hkeys : fields.keys.Nodup) :
    Takes (Schema.record title true fields build).read
      (Schema.record title true fields build).Encodes := by
  intro text a rest
  rw [Schema.read]
  constructor
  · intro hok
    split at hok
    · cases hok
    · rename_i r heq
      obtain ⟨w, hw, rfl⟩ := (skipBlanks_eq_mark_iff (by decide)).mp heq
      obtain ⟨⟨b, r'⟩, hrow, hok'⟩ := bind_eq_ok.mp hok
      obtain ⟨rfl, rfl⟩ := Prod.mk.inj (Except.ok.inj hok')
      obtain ⟨vs, t, ht, hvs, rfl⟩ := (Fields.readRow_eq_ok_iff h).mp hrow
      exact ⟨w, .list vs, '[' :: t, hw, .list ht, ⟨b, rfl, Or.inl ⟨vs, rfl, hvs⟩⟩, rfl⟩
    · rename_i r heq
      obtain ⟨w, hw, rfl⟩ := (skipBlanks_eq_mark_iff (by decide)).mp heq
      obtain ⟨⟨slots, r'⟩, hmembers, hok'⟩ := bind_eq_ok.mp hok
      dsimp only at hok'
      split at hok'
      · rename_i b hb
        obtain ⟨rfl, rfl⟩ := Prod.mk.inj (Except.ok.inj hok')
        obtain ⟨ms, known, t, ht, hp, hknown, rfl⟩ :=
          (h.readMembers_complete_iff hkeys).mp ⟨slots, hmembers, hb⟩
        refine ⟨w, .object ms, '\x7b' :: t, hw, .object ht, ⟨b, rfl, Or.inr ?_⟩, rfl⟩
        exact ⟨ms, known, [], rfl, by simpa using hp, hknown, by simp⟩
      · cases hok'
    · cases hok
  · rintro ⟨w, v, t, hw, ht, ⟨b, rfl, hcase⟩, rfl⟩
    rcases hcase with ⟨vs, rfl, hvs⟩ | ⟨ms, known, others, rfl, hp, hknown, hothers⟩
    · cases ht with
      | @list _ t ht =>
        rw [List.cons_append, skipBlanks_mark hw (by decide)]
        refine bind_eq_ok.mpr ⟨(b, rest), ?_, rfl⟩
        exact (Fields.readRow_eq_ok_iff h).mpr ⟨vs, t, ht, hvs, rfl⟩
    · cases ht with
      | @object _ t ht =>
        obtain rfl : others = [] := hothers
        rw [List.append_nil] at hp
        obtain ⟨slots, hmembers, hb⟩ :=
          (h.readMembers_complete_iff hkeys).mpr ⟨ms, known, t, ht, hp, hknown, rfl⟩
        rw [List.cons_append, skipBlanks_mark hw (by decide)]
        refine bind_eq_ok.mpr ⟨(slots, rest), hmembers, ?_⟩
        dsimp only
        rw [hb]
        rfl

mutual

/-- No numbers, and in every record no other keys and each key once. -/
def Schema.Plain {α : Type} : Schema α → Prop
  | .text => True
  | .byte => False
  | .choice _ => True
  | .list item => item.Plain
  | .table item => item.Plain
  | .record _ closed fields _ => closed = true ∧ fields.keys.Nodup ∧ fields.Plain

def Fields.Plain {β σ : Type} : Fields β σ → Prop
  | .none => True
  | .field _ _ item rest => item.Plain ∧ rest.Plain

end

mutual

/-- The reader of a plain schema accepts exactly the texts that begin with what encodes. -/
theorem Schema.takes {α : Type} : (schema : Schema α) → schema.Plain →
    Takes schema.read schema.Encodes
  | .text, _ => takes_readString
  | .choice options, _ => takes_readChoice options
  | .list item, h => (item.takes h).list
  | .table item, h => (item.takes h).table
  | .record _ _ fields _, h => by
    unfold Schema.Plain at h
    obtain ⟨rfl, hkeys, h⟩ := h
    exact .record (fields.exact h) hkeys

theorem Fields.exact {β σ : Type} : (fields : Fields β σ) → fields.Plain → fields.Exact
  | .none, _ => trivial
  | .field _ _ item rest, h => by
    unfold Fields.Plain at h
    exact ⟨item.takes h.1, rest.exact h.2⟩

end

theorem Schema.ofText_iff_encodes {α : Type} {schema : Schema α} (h : schema.Plain) {text : String}
    {a : α} :
    schema.ofText text = .ok a ↔
      ∃ w v t rest, Blanks w ∧ Spells v t ∧ schema.Encodes v a ∧
        text.toList = w ++ (t ++ rest) := by
  unfold ofText
  constructor
  · intro hok
    cases hread : schema.read text.toList with
    | error fault => simp [hread, Except.map] at hok
    | ok result =>
      obtain ⟨a', rest⟩ := result
      obtain rfl : a' = a := by simpa [hread, Except.map] using hok
      obtain ⟨w, v, t, hw, ht, hv, heq⟩ := (schema.takes h _ _ _).mp hread
      exact ⟨w, v, t, rest, hw, ht, hv, heq⟩
  · rintro ⟨w, v, t, rest, hw, ht, hv, heq⟩
    rw [(schema.takes h _ _ _).mpr ⟨w, v, t, hw, ht, hv, heq⟩]
    rfl

end NodeFamilies.Json
