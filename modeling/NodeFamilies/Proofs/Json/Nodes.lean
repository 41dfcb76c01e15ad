import NodeFamilies.Proofs.Json.Keys

/-!
# A document with another value in one place

A value is put into a document that encodes. If the schema refuses it there, the document is refused
at the path that leads there, whatever comes behind it.
-/

namespace NodeFamilies.Json

/-- The value that a path leads to; of several members with one key it is the first. -/
def Value.at? : Value → List Step → Option Value
  | v, [] => some v
  | .list vs, .index i :: p => vs[i]? >>= (·.at? p)
  | .object ms, .key key :: p => ms.lookup key >>= (·.at? p)
  | _, _ :: _ => none

/-- The value with `new` at that path, if the path leads anywhere. -/
def Value.put : Value → List Step → Value → Value
  | _, [], new => new
  | .list vs, .index i :: p, new => .list (vs.modify i fun v => v.put p new)
  | .object ms, .key key :: p, new =>
    .object (ms.map fun m => if m.1 = key then (m.1, m.2.put p new) else m)
  | v, _ :: _, _ => v

/-- A document with `new` for `old` at that path. What comes behind it may differ, too. -/
inductive Swapped (old new : Value) : List Step → Value → Value → Prop where
  | here : Swapped old new [] old new
  | item {p : List Step} {v v' : Value} {before after after' : List Value} :
      Swapped old new p v v' → Swapped old new (.index before.length :: p)
        (.list (before ++ v :: after)) (.list (before ++ v' :: after'))
  | member {p : List Step} {v v' : Value} {key : String}
      {before after after' : List (String × Value)} :
      Swapped old new p v v' → Swapped old new (.key key :: p)
        (.object (before ++ (key, v) :: after)) (.object (before ++ (key, v') :: after'))

mutual

/-- Where the path can lead, what encodes as `old` is refused as `new`, at the path `q`. -/
def Schema.RefusesAt (old new : Value) (q : List Step) {α : Type} : Schema α → List Step → Prop
  | schema, [] => ∀ a, schema.Encodes old a → Fails schema.read new q
  | .list item, .index _ :: p => item.RefusesAt old new q p
  | .table _, .key _ :: _ => False
  | .record _ _ fields _, .index i :: p => fields.RefusesNth old new q p i
  | .record _ closed fields _, .key key :: p =>
    (closed = true ∨ key ∈ fields.keys) ∧ fields.RefusesKey old new q p key
  | _, _ :: _ => True

def Fields.RefusesNth (old new : Value) (q p : List Step) {β σ : Type} : Fields β σ → Nat → Prop
  | .none, _ => True
  | .field _ _ item _, 0 => item.RefusesAt old new q p
  | .field _ _ _ rest, i + 1 => rest.RefusesNth old new q p i

def Fields.RefusesKey (old new : Value) (q p : List Step) {β σ : Type} :
    Fields β σ → String → Prop
  | .none, _ => True
  | .field k _ item rest, key =>
    if k = key then item.RefusesAt old new q p else rest.RefusesKey old new q p key

end

theorem Schema.admits_of_encodes {α : Type} {schema : Schema α} {v : Value} {a : α}
    (h : schema.Encodes v a) : schema.Admits v := by
  unfold Encodes at h
  cases schema with
  | text =>
    obtain rfl := h
    trivial
  | byte =>
    obtain ⟨literal, rfl, -⟩ := h
    trivial
  | choice =>
    obtain ⟨n, -, rfl | rfl⟩ := h <;> trivial
  | list =>
    obtain ⟨vs, rfl, -⟩ := h
    trivial
  | table =>
    obtain ⟨ms, rfl, -⟩ := h
    trivial
  | record =>
    obtain ⟨b, -, ⟨vs, rfl, -⟩ | ⟨ms, known, others, rfl, -⟩⟩ := h <;> trivial

theorem exists_of_mem_left {α β : Type} {r : α → β → Prop} {as : List α} {bs : List β}
    (h : List.Forall₂ r as bs) : ∀ a ∈ as, ∃ b, r a b := by
  induction h with
  | nil => simp
  | cons hab _ ih => exact List.forall_mem_cons.mpr ⟨⟨_, hab⟩, ih⟩

theorem lookup_append_of_notMem {before after : List (String × Value)} {key : String} {v : Value}
    (h : key ∉ before.map Prod.fst) : (before ++ (key, v) :: after).lookup key = some v := by
  induction before with
  | nil => simp
  | cons m before ih =>
    simp only [List.map_cons, List.mem_cons, not_or] at h
    rw [List.cons_append, List.lookup_cons, beq_false_of_ne h.1]
    exact ih h.2

/-! ## Fields -/

section

variable {old new v v' : Value} {p q : List Step}

/-- Every schema that has to refuse the new document refuses it. -/
def Located (old new : Value) (q p : List Step) (v v' : Value) : Prop :=
  ∀ {α : Type} (schema : Schema α) (a : α), schema.Distinct → schema.RefusesAt old new q p →
    schema.Encodes v a → Fails schema.read v' (p ++ q) ∧ v'.at? p = some new

theorem Fields.failsNth_of_located {β σ : Type} {fields : Fields β σ}
    {before after : List Value} {b : β} (h : Located old new q p v v') (hd : fields.Distinct)
    (hr : fields.RefusesNth old new q p before.length)
    (hb : fields.EncodesRow (before ++ v :: after) b) :
    fields.FailsNth v' (p ++ q) before.length ∧ v'.at? p = some new := by
  induction fields using Fields.induction generalizing before with
  | none =>
    have hnil : before ++ v :: after = [] := hb
    simp at hnil
  | field key fallback item fields ih =>
    obtain ⟨a, b⟩ := b
    unfold Distinct at hd
    cases before with
    | nil => exact h item a hd.1 hr hb.1
    | cons u before => exact ih hd.2 hr hb.2

theorem Fields.fails_readField_of_located {β σ : Type} {fields : Fields β σ} {key : String}
    {slots slots' : σ} (h : Located old new q p v v') (hd : fields.Distinct)
    (hr : fields.RefusesKey old new q p key) (hf : fields.Fills key v slots slots') :
    Fails (fields.readField key slots) v' (p ++ q) ∧ v'.at? p = some new := by
  induction fields using Fields.induction with
  | none => exact hf.elim
  | field k fallback item fields ih =>
    obtain ⟨slot, slots⟩ := slots
    obtain ⟨slot', slots'⟩ := slots'
    unfold Distinct at hd
    unfold Fills at hf
    unfold RefusesKey at hr
    split at hf
    · rename_i hk
      obtain ⟨-, ⟨a, ha, -⟩, -⟩ := hf
      rw [if_pos hk] at hr
      obtain ⟨hfails, hat⟩ := h item a hd.1 hr ha
      refine ⟨?_, hat⟩
      intro w t rest hw ht
      rw [readField, if_pos hk]
      exact (hfails w t rest hw ht).bind _
    · rename_i hk
      rw [if_neg hk] at hr
      obtain ⟨hfails, hat⟩ := ih hd.2 hr hf.2
      refine ⟨?_, hat⟩
      intro w t rest hw ht
      rw [readField, if_neg hk]
      exact (hfails w t rest hw ht).bind _

end

/-! ## Values -/

section

variable {α β σ : Type} {old new v v' : Value} {p q : List Step}

theorem Located.list {item : Schema α} (h : Located old new q p v v')
    {before after after' : List Value} {as : List α} (hd : item.Distinct)
    (hr : item.RefusesAt old new q p)
    (ha : (Schema.list item).Encodes (.list (before ++ v :: after)) as) :
    Fails (Schema.list item).read (.list (before ++ v' :: after'))
        (.index before.length :: p ++ q) ∧
      (Value.list (before ++ v' :: after')).at? (.index before.length :: p) = some new := by
  rw [Schema.Encodes] at ha
  obtain ⟨_, ⟨⟩, has⟩ := ha
  have hmem := exists_of_mem_left has
  obtain ⟨a, ha⟩ := hmem v (by simp)
  obtain ⟨hfails, hat⟩ := h item a hd hr ha
  have hgood : ∀ u ∈ before, ∃ a, Reads item.read u a := by
    intro u hu
    obtain ⟨a, ha⟩ := hmem u (List.mem_append_left _ hu)
    exact ⟨a, item.reads hd u a ha⟩
  exact ⟨fails_list hgood hfails, by simpa [Value.at?] using hat⟩

theorem Located.row {title : String} {closed : Bool} {fields : Fields β σ} {build : β → α} {a : α}
    (h : Located old new q p v v') {before after after' : List Value} (hd : fields.Distinct)
    (hr : fields.RefusesNth old new q p before.length)
    (ha : (Schema.record title closed fields build).Encodes (.list (before ++ v :: after)) a) :
    Fails (Schema.record title closed fields build).read (.list (before ++ v' :: after'))
        (.index before.length :: p ++ q) ∧
      (Value.list (before ++ v' :: after')).at? (.index before.length :: p) = some new := by
  rw [Schema.Encodes] at ha
  obtain ⟨b, -, ⟨_, ⟨⟩, hb⟩ | ⟨ms, _, _, ⟨⟩, -⟩⟩ := ha
  obtain ⟨hfails, hat⟩ := Fields.failsNth_of_located h hd hr hb
  exact ⟨fails_row (fields.readable hd) hb hfails, by simpa [Value.at?] using hat⟩

theorem Located.object {title : String} {closed : Bool} {fields : Fields β σ} {build : β → α}
    {a : α} {key : String} (h : Located old new q p v v')
    {before after after' : List (String × Value)} (hkeys : fields.keys.Nodup)
    (hd : fields.Distinct) (hkey : closed = true ∨ key ∈ fields.keys)
    (hr : fields.RefusesKey old new q p key)
    (ha : (Schema.record title closed fields build).Encodes
      (.object (before ++ (key, v) :: after)) a) :
    Fails (Schema.record title closed fields build).read
        (.object (before ++ (key, v') :: after')) (.key key :: p ++ q) ∧
      (Value.object (before ++ (key, v') :: after')).at? (.key key :: p) = some new := by
  obtain ⟨slots, b, hrun, -⟩ := exists_run_of_encodes hkeys ha
  obtain ⟨slots₁, hbefore, hrest⟩ := hrun.exists_of_append
  cases hrest with
  | @cons _ _ _ _ slots₂ _ hm _ =>
  have hfill : fields.Fills key v slots₁ slots₂ := by
    rcases hm with hm | ⟨hopen, hother, -⟩
    · exact hm
    · rcases hkey with hclosed | hkey
      · cases hclosed.symm.trans hopen
      · exact absurd hkey hother
  obtain ⟨hfails, hat⟩ := Fields.fails_readField_of_located h hd hr hfill
  -- The key stands here for the first time, since its slot is still empty.
  have hfirst : key ∉ before.map Prod.fst := by
    intro hmem
    have hread := (Fields.isRead_iff_of_run hbefore hfill.mem_keys).mpr (Or.inr hmem)
    rw [hfill.isRead_eq_false] at hread
    cases hread
  refine ⟨fails_object (hbefore.imp (Fields.readPassed_reads (fields.readable hd))) ?_, ?_⟩
  · exact Fields.failsMember_field hfill.isRead_eq_false hfill.mem_keys hfails
  · simpa [Value.at?, lookup_append_of_notMem hfirst] using hat

end

/-- The path of the fault is the path of the value, and the value is what it leads to. -/
theorem Swapped.located {old new v v' : Value} {p q : List Step} (h : Swapped old new p v v')
    (hold : old ≠ .null) : Located old new q p v v' := by
  -- From the swapped value outwards, for all schemas at once, since each level has its own.
  induction h with
  | here =>
    intro α schema a _ hr ha
    unfold Schema.RefusesAt at hr
    exact ⟨hr a ha, rfl⟩
  | item _ ih =>
    intro α schema a hd hr ha
    unfold Schema.Distinct at hd
    unfold Schema.RefusesAt at hr
    cases schema with
    | list item => exact ih.list hd hr ha
    | record title closed fields build => exact ih.row hd.2 hr ha
    | text | byte | choice | table => exact (Schema.admits_of_encodes ha).elim
  | @member p v v' key before after after' h ih =>
    intro α schema a hd hr ha
    unfold Schema.Distinct at hd
    unfold Schema.RefusesAt at hr
    cases schema with
    | record title closed fields build => exact ih.object hd.1 hd.2 hr.1 hr.2 ha
    | table item => exact hr.elim
    | choice options =>
      -- All that stands in a name that is written as an object is a null.
      rw [Schema.Encodes] at ha
      obtain ⟨n, -, hname⟩ := ha
      have heq : before ++ (key, v) :: after = [(n, Value.null)] := by
        simpa using hname
      have hmem : (key, v) ∈ [(n, Value.null)] := by
        rw [← heq]
        simp
      obtain ⟨-, rfl⟩ := Prod.mk.inj (List.mem_singleton.mp hmem)
      cases h
      exact absurd rfl hold
    | text | byte | list => exact (Schema.admits_of_encodes ha).elim

/-! ## Putting a value -/

theorem map_put_eq_self {ms : List (String × Value)} {key : String}
    (h : ∀ m ∈ ms, (key != m.1) = true) (f : Value → Value) :
    ms.map (fun m => if m.1 = key then (m.1, f m.2) else m) = ms := by
  refine (List.map_congr_left ?_).trans ms.map_id
  intro m hm
  rw [if_neg (bne_iff_ne.mp (h m hm)).symm]
  rfl

theorem Value.swapped_put {v old : Value} {p : List Step} (h : v.at? p = some old) (new : Value) :
    Swapped old new p v (v.put p new) := by
  induction p generalizing v with
  | nil =>
    obtain rfl := Option.some.inj h
    rw [put]
    exact .here
  | cons step p ih =>
    cases v with
    | list vs =>
      cases step with
      | index i =>
        rw [at?, Option.bind_eq_bind, Option.bind_eq_some_iff] at h
        obtain ⟨v, hv, h⟩ := h
        obtain ⟨hi, -⟩ := List.getElem?_eq_some_iff.mp hv
        obtain ⟨before, u, after, rfl, rfl, hmodify⟩ :=
          List.exists_of_modify (fun v => Value.put v p new) hi
        obtain rfl : u = v := by simpa using hv
        rw [put, hmodify]
        exact .item (ih h)
      | _ => simp [at?] at h
    | object ms =>
      cases step with
      | key key =>
        rw [at?, Option.bind_eq_bind, Option.bind_eq_some_iff] at h
        obtain ⟨v, hv, h⟩ := h
        obtain ⟨before, after, rfl, hbefore⟩ := List.lookup_eq_some_iff.mp hv
        rw [put, List.map_append, List.map_cons,
          map_put_eq_self hbefore fun v => v.put p new, if_pos rfl]
        exact .member (ih h)
      | _ => simp [at?] at h
    | _ => simp [at?] at h

end NodeFamilies.Json
