import NodeFamilies.Proofs.Json.Encoding

/-!
# Records, member by member

Each member of an object fills the empty slot of its key. Two members fill different slots, so
their order does not matter, and filling every slot that has no fallback is encoding the record.
-/

namespace NodeFamilies.Json

/-- Members in a row, each with what is known before and behind it. -/
inductive Run {σ : Type} (member : String → Value → σ → σ → Prop) :
    σ → List (String × Value) → σ → Prop where
  | nil {s : σ} : Run member s [] s
  | cons {key : String} {v : Value} {ms : List (String × Value)} {s s₁ s' : σ} :
      member key v s s₁ → Run member s₁ ms s' → Run member s ((key, v) :: ms) s'

theorem Run.append {σ : Type} {member : String → Value → σ → σ → Prop}
    {ms ms' : List (String × Value)} {s s₁ s' : σ} (h : Run member s ms s₁)
    (h' : Run member s₁ ms' s') : Run member s (ms ++ ms') s' := by
  induction h with
  | nil => exact h'
  | cons hm _ ih => exact .cons hm (ih h')

theorem Run.exists_of_append {σ : Type} {member : String → Value → σ → σ → Prop}
    {ms ms' : List (String × Value)} {s s' : σ} (h : Run member s (ms ++ ms') s') :
    ∃ s₁, Run member s ms s₁ ∧ Run member s₁ ms' s' := by
  induction ms generalizing s with
  | nil => exact ⟨s, .nil, h⟩
  | cons m ms ih =>
    cases h with
    | cons hm h =>
    obtain ⟨s₁, h₁, h₂⟩ := ih h
    exact ⟨s₁, .cons hm h₁, h₂⟩

theorem Run.imp {σ : Type} {member member' : String → Value → σ → σ → Prop}
    (himp : ∀ {key v s s'}, member key v s s' → member' key v s s')
    {ms : List (String × Value)} {s s' : σ} (h : Run member s ms s') : Run member' s ms s' := by
  induction h with
  | nil => exact .nil
  | cons hm _ ih => exact .cons (himp hm) ih

theorem Run.perm {σ : Type} {member : String → Value → σ → σ → Prop}
    (hswap : ∀ {key key' v v' s s₁ s₂}, member key v s s₁ → member key' v' s₁ s₂ →
      ∃ s₁', member key' v' s s₁' ∧ member key v s₁' s₂)
    {ms ms' : List (String × Value)} (hp : ms.Perm ms') {s s' : σ} (h : Run member s ms s') :
    Run member s ms' s' := by
  induction hp generalizing s with
  | nil => exact h
  | cons m _ ih =>
    cases h with
    | cons hm h => exact .cons hm (ih h)
  | swap m m' ms =>
    cases h with
    | cons hm h =>
    cases h with
    | cons hm' h =>
    obtain ⟨s₁, h₁, h₂⟩ := hswap hm hm'
    exact .cons h₁ (.cons h₂ h)
  | trans _ _ ih ih' => exact ih' (ih h)

namespace Fields

/-- The value goes into the slot of that key, which is empty. -/
def Fills {β σ : Type} : Fields β σ → String → Value → σ → σ → Prop
  | .none, _, _, _, _ => False
  | .field k _ item rest, key, v, (slot, slots), (slot', slots') =>
    if k = key then
      slot = Option.none ∧ (∃ a, item.Encodes v a ∧ slot' = some a) ∧ slots' = slots
    else slot' = slot ∧ rest.Fills key v slots slots'

/-! ## Order -/

theorem Fills.mem_keys {β σ : Type} {fields : Fields β σ} {key : String} {v : Value}
    {slots slots' : σ} (h : fields.Fills key v slots slots') : key ∈ fields.keys := by
  induction fields using Fields.induction with
  | none => exact h.elim
  | field k fallback item rest ih =>
    unfold Fills at h
    split at h
    · rename_i hk
      exact hk ▸ List.mem_cons_self
    · exact List.mem_cons_of_mem k (ih h.2)

theorem Fills.swap {β σ : Type} {fields : Fields β σ} {key key' : String} {v v' : Value}
    {s s₁ s₂ : σ} (h : fields.Fills key v s s₁) (h' : fields.Fills key' v' s₁ s₂) :
    ∃ s₁', fields.Fills key' v' s s₁' ∧ fields.Fills key v s₁' s₂ := by
  induction fields using Fields.induction with
  | none => exact h.elim
  | field k fallback item rest ih =>
    obtain ⟨slot, slots⟩ := s
    obtain ⟨slot₁, slots₁⟩ := s₁
    obtain ⟨slot₂, slots₂⟩ := s₂
    unfold Fills at h h'
    split at h <;> rename_i hk <;> split at h' <;> rename_i hk'
    · -- The slot is full after the first of them.
      obtain ⟨-, ⟨a, -, rfl⟩, -⟩ := h
      cases h'.1
    · obtain ⟨rfl, ha, rfl⟩ := h
      obtain ⟨rfl, h'⟩ := h'
      exact ⟨(Option.none, slots₂), by simp [Fills, hk', h'], by simpa [Fills, hk] using ha⟩
    · obtain ⟨rfl, h⟩ := h
      obtain ⟨rfl, ha, rfl⟩ := h'
      exact ⟨(slot₂, slots), by simpa [Fills, hk'] using ha, by simp [Fills, hk, h]⟩
    · obtain ⟨rfl, h⟩ := h
      obtain ⟨rfl, h'⟩ := h'
      obtain ⟨slots₁', h₁, h₂⟩ := ih h h'
      exact ⟨(slot₂, slots₁'), by simp [Fills, hk', h₁], by simp [Fills, hk, h₂]⟩

theorem run_perm {β σ : Type} {fields : Fields β σ} {ms ms' : List (String × Value)}
    (hp : ms.Perm ms') {s s' : σ} (h : Run fields.Fills s ms s') : Run fields.Fills s ms' s' :=
  h.perm Fills.swap hp

/-! ## The first field -/

variable {α β σ : Type} {key : String} {fallback : Option α} {item : Schema α}
  {rest : Fields β σ} {ms : List (String × Value)} {slot slot' : Option α} {slots slots' : σ}

theorem run_of_rest (hk : key ∉ rest.keys) (h : Run rest.Fills slots ms slots') :
    Run (Fields.field key fallback item rest).Fills (slot, slots) ms (slot, slots') := by
  induction h with
  | nil => exact .nil
  | @cons k v ms s s₁ s' hm _ ih =>
    have hne : key ≠ k := by
      rintro rfl
      exact hk hm.mem_keys
    exact .cons (show Fills _ _ _ _ (slot, s₁) by simp [Fills, hne, hm]) ih

theorem exists_run_rest
    (h : Run (Fields.field key fallback item rest).Fills (slot, slots) ms (slot', slots')) :
    ∃ ms', Run rest.Fills slots ms' slots' ∧
      (slot' = slot ∧ ms = ms' ∨
        slot = Option.none ∧ ∃ v a, slot' = some a ∧ item.Encodes v a ∧
          ms.Perm ((key, v) :: ms')) := by
  -- Either no member fills the first slot, or one does and the others are for the rest.
  generalize hs : (slot, slots) = s at h
  generalize hs' : (slot', slots') = s' at h
  induction h generalizing slot slots with
  | nil =>
    obtain ⟨rfl, rfl⟩ := Prod.mk.inj (hs.trans hs'.symm)
    exact ⟨[], .nil, Or.inl ⟨rfl, rfl⟩⟩
  | @cons k v ms s s₁ s' hm _ ih =>
    subst hs
    obtain ⟨slot₁, slots₁⟩ := s₁
    obtain ⟨ms', hrun, hcase⟩ := ih rfl hs'
    unfold Fills at hm
    split at hm
    · rename_i hk
      subst hk
      obtain ⟨rfl, ⟨a, ha, rfl⟩, rfl⟩ := hm
      rcases hcase with ⟨rfl, rfl⟩ | ⟨hnone, -⟩
      · exact ⟨_, hrun, Or.inr ⟨rfl, v, a, rfl, ha, .refl _⟩⟩
      · cases hnone
    · obtain ⟨rfl, hm⟩ := hm
      refine ⟨(k, v) :: ms', .cons hm hrun, ?_⟩
      rcases hcase with ⟨rfl, rfl⟩ | ⟨rfl, w, a, rfl, ha, hp⟩
      · exact Or.inl ⟨rfl, rfl⟩
      · exact Or.inr ⟨rfl, w, a, rfl, ha, (hp.cons _).trans (.swap _ _ _)⟩

/-! ## The whole record -/

theorem complete_field_eq_ok_iff {a : α} {b : β} :
    (Fields.field key fallback item rest).complete (slot, slots) = .ok (a, b) ↔
      (slot <|> fallback) = some a ∧ rest.complete slots = .ok b := by
  rw [complete]
  split
  · rename_i a' heq
    rw [heq, Option.some.injEq]
    cases rest.complete slots <;>
      simp [Bind.bind, Except.bind, Pure.pure, Except.pure]
  · rename_i heq
    simp [heq]

theorem exists_known_of_run {β σ : Type} {fields : Fields β σ} {ms : List (String × Value)}
    {slots : σ} {b : β} (h : Run fields.Fills fields.unread ms slots)
    (hb : fields.complete slots = .ok b) :
    ∃ known, ms.Perm known ∧ fields.EncodesMembers known b := by
  induction fields using Fields.induction generalizing ms with
  | none =>
    cases h with
    | nil => exact ⟨[], .refl _, rfl⟩
    | cons hm => exact hm.elim
  | field key fallback item rest ih =>
    obtain ⟨slot, slots⟩ := slots
    obtain ⟨a, b⟩ := b
    obtain ⟨hslot, hrest⟩ := complete_field_eq_ok_iff.mp hb
    obtain ⟨ms', hrun, hcase⟩ := exists_run_rest h
    obtain ⟨known, hp, hknown⟩ := ih hrun hrest
    rcases hcase with ⟨rfl, rfl⟩ | ⟨-, v, a', rfl, hv, hms⟩
    · exact ⟨known, hp, Or.inr ⟨hslot, hknown⟩⟩
    · obtain rfl : a' = a := Option.some.inj hslot
      exact ⟨(key, v) :: known, hms.trans (hp.cons _), Or.inl ⟨v, known, rfl, hv, hknown⟩⟩

theorem exists_run_of_encodesMembers {β σ : Type} {fields : Fields β σ}
    (hkeys : fields.keys.Nodup) {ms : List (String × Value)} {b : β}
    (h : fields.EncodesMembers ms b) :
    ∃ slots, Run fields.Fills fields.unread ms slots ∧ fields.complete slots = .ok b := by
  induction fields using Fields.induction generalizing ms with
  | none =>
    obtain rfl : ms = [] := h
    exact ⟨(), .nil, rfl⟩
  | field key fallback item rest ih =>
    obtain ⟨a, b⟩ := b
    obtain ⟨hk, hrest⟩ := List.nodup_cons.mp hkeys
    rcases h with ⟨v, ms', rfl, hv, h⟩ | ⟨hfallback, h⟩
    · obtain ⟨slots, hrun, hb⟩ := ih hrest h
      refine ⟨(some a, slots), .cons ?_ (run_of_rest hk hrun), ?_⟩
      · simp [Fills, unread, hv]
      · exact complete_field_eq_ok_iff.mpr ⟨rfl, hb⟩
    · obtain ⟨slots, hrun, hb⟩ := ih hrest h
      refine ⟨(Option.none, slots), run_of_rest hk hrun, ?_⟩
      exact complete_field_eq_ok_iff.mpr ⟨hfallback, hb⟩

/-- Reading the members of an object in any order is encoding the record. -/
theorem run_complete_iff {β σ : Type} {fields : Fields β σ} (hkeys : fields.keys.Nodup)
    {ms : List (String × Value)} {b : β} :
    (∃ slots, Run fields.Fills fields.unread ms slots ∧ fields.complete slots = .ok b) ↔
      ∃ known, ms.Perm known ∧ fields.EncodesMembers known b := by
  constructor
  · rintro ⟨slots, hrun, hb⟩
    exact exists_known_of_run hrun hb
  · rintro ⟨known, hp, hknown⟩
    obtain ⟨slots, hrun, hb⟩ := exists_run_of_encodesMembers hkeys hknown
    exact ⟨slots, run_perm hp.symm hrun, hb⟩

end Fields

end NodeFamilies.Json
