import NodeFamilies.Proofs.Json.Nodes

/-!
# A document with other values in many places

Which node of a document is changed is said by its path. Up to the first changed node, in the order
of the document, the changed document is the same.
-/

namespace NodeFamilies.Json

def Value.IsScalar : Value → Prop
  | .null | .boolean _ | .number _ => True
  | .text _ | .list _ | .object _ => False

/-- The changes below a step. -/
def below (change : List Step → Option Value) (step : Step) (p : List Step) : Option Value :=
  change (step :: p)

mutual

/-- The value with every node for which there is a change put in its place, the outer one if one
lies in another. A null stays. -/
def Value.changed (change : List Step → Option Value) : Value → Value
  | .null => .null
  | .boolean b => (change []).getD (.boolean b)
  | .number literal => (change []).getD (.number literal)
  | .text s => (change []).getD (.text s)
  | .list vs => (change []).getD (.list (changedItems change 0 vs))
  | .object ms => (change []).getD (.object (changedMembers change ms))

def changedItems (change : List Step → Option Value) (index : Nat) : List Value → List Value
  | [] => []
  | v :: vs => v.changed (below change (.index index)) :: changedItems change (index + 1) vs

def changedMembers (change : List Step → Option Value) :
    List (String × Value) → List (String × Value)
  | [] => []
  | (key, v) :: ms => (key, v.changed (below change (.key key))) :: changedMembers change ms

end

mutual

/-- The paths of all nodes but the nulls, in the order of the document. -/
def Value.places : Value → List (List Step)
  | .null => []
  | .boolean _ | .number _ | .text _ => [[]]
  | .list vs => [] :: itemPlaces 0 vs
  | .object ms => [] :: memberPlaces ms

def itemPlaces (index : Nat) : List Value → List (List Step)
  | [] => []
  | v :: vs => v.places.map (.index index :: ·) ++ itemPlaces (index + 1) vs

def memberPlaces : List (String × Value) → List (List Step)
  | [] => []
  | (key, v) :: ms => v.places.map (.key key :: ·) ++ memberPlaces ms

end

/-- The first node of the document for which there is a change. -/
def Value.firstChanged (change : List Step → Option Value) (v : Value) : Option (List Step) :=
  v.places.find? fun p => (change p).isSome

/-! ## What is not changed -/

section

variable {change : List Step → Option Value}

theorem Value.changed_of_some {v new : Value} (hv : v ≠ .null) (h : change [] = some new) :
    v.changed change = new := by
  cases v with
  | null => exact absurd rfl hv
  | _ => simp [changed, h]

theorem firstChanged_eq_none_iff {v : Value} :
    v.firstChanged change = none ↔ ∀ p ∈ v.places, change p = none := by
  simp [Value.firstChanged]

mutual

theorem Value.changed_eq_self {change : List Step → Option Value} :
    (v : Value) → (∀ p ∈ v.places, change p = none) → v.changed change = v
  | .null, _ => rfl
  | .boolean _, h | .number _, h | .text _, h => by
    simp [Value.changed, h [] (by simp [Value.places])]
  | .list vs, h => by
    have hself : change [] = none := h [] (by simp [Value.places])
    have hitems : changedItems change 0 vs = vs :=
      changedItems_eq_self vs 0 fun p hp => h p (by simp [Value.places, hp])
    rw [Value.changed, hself, hitems, Option.getD_none]
  | .object ms, h => by
    have hself : change [] = none := h [] (by simp [Value.places])
    have hmembers : changedMembers change ms = ms :=
      changedMembers_eq_self ms fun p hp => h p (by simp [Value.places, hp])
    rw [Value.changed, hself, hmembers, Option.getD_none]

theorem changedItems_eq_self {change : List Step → Option Value} :
    (vs : List Value) → (index : Nat) → (∀ p ∈ itemPlaces index vs, change p = none) →
      changedItems change index vs = vs
  | [], _, _ => rfl
  | v :: vs, index, h => by
    rw [itemPlaces, List.forall_mem_append, List.forall_mem_map] at h
    have hself : v.changed (below change (.index index)) = v := Value.changed_eq_self v h.1
    rw [changedItems, hself, changedItems_eq_self vs (index + 1) h.2]

theorem changedMembers_eq_self {change : List Step → Option Value} :
    (ms : List (String × Value)) → (∀ p ∈ memberPlaces ms, change p = none) →
      changedMembers change ms = ms
  | [], _ => rfl
  | (key, v) :: ms, h => by
    rw [memberPlaces, List.forall_mem_append, List.forall_mem_map] at h
    have hself : v.changed (below change (.key key)) = v := Value.changed_eq_self v h.1
    rw [changedMembers, hself, changedMembers_eq_self ms h.2]

end

/-! ## The first change -/

theorem firstChanged_map {v : Value} {step : Step} :
    (v.places.map (step :: ·)).find? (fun p => (change p).isSome) =
      (v.firstChanged (below change step)).map (step :: ·) := by
  rw [List.find?_map]
  rfl

theorem exists_item_of_find? {vs : List Value} {index : Nat} {p : List Step}
    (h : (itemPlaces index vs).find? (fun p => (change p).isSome) = some p) :
    ∃ before v after after' p', vs = before ++ v :: after ∧
      changedItems change index vs =
        before ++ v.changed (below change (.index (index + before.length))) :: after' ∧
      v.firstChanged (below change (.index (index + before.length))) = some p' ∧
      p = .index (index + before.length) :: p' := by
  -- An item without a change stays as it is and goes to what stands before.
  induction vs generalizing index with
  | nil => cases h
  | cons v vs ih =>
    rw [itemPlaces, List.find?_append, firstChanged_map] at h
    cases hv : v.firstChanged (below change (.index index)) with
    | some p' =>
      rw [hv] at h
      obtain rfl := Option.some.inj h
      exact ⟨[], v, vs, _, p', rfl, rfl, hv, rfl⟩
    | none =>
      rw [hv] at h
      obtain ⟨before, u, after, after', p', rfl, heq, hu, rfl⟩ := ih h
      have hself : v.changed (below change (.index index)) = v :=
        v.changed_eq_self (firstChanged_eq_none_iff.mp hv)
      refine ⟨v :: before, u, after, after', p', rfl, ?_, ?_, ?_⟩
      · rw [changedItems, hself, heq, add_length_cons]
        rfl
      · rw [add_length_cons, hu]
      · rw [add_length_cons]

theorem exists_member_of_find? {ms : List (String × Value)} {p : List Step}
    (h : (memberPlaces ms).find? (fun p => (change p).isSome) = some p) :
    ∃ before key v after after' p', ms = before ++ (key, v) :: after ∧
      changedMembers change ms =
        before ++ (key, v.changed (below change (.key key))) :: after' ∧
      v.firstChanged (below change (.key key)) = some p' ∧ p = .key key :: p' := by
  induction ms with
  | nil => cases h
  | cons m ms ih =>
    obtain ⟨key, v⟩ := m
    rw [memberPlaces, List.find?_append, firstChanged_map] at h
    cases hv : v.firstChanged (below change (.key key)) with
    | some p' =>
      rw [hv] at h
      obtain rfl := Option.some.inj h
      exact ⟨[], key, v, ms, _, p', rfl, rfl, hv, rfl⟩
    | none =>
      rw [hv] at h
      obtain ⟨before, key', u, after, after', p', rfl, heq, hu, rfl⟩ := ih h
      have hself : v.changed (below change (.key key)) = v :=
        v.changed_eq_self (firstChanged_eq_none_iff.mp hv)
      refine ⟨(key, v) :: before, key', u, after, after', p', rfl, ?_, hu, rfl⟩
      rw [changedMembers, hself, heq]
      rfl

end

/-- Induction over a value: what holds of all that stands in it holds of it. -/
theorem Value.induction {motive : Value → Prop} (null : motive .null)
    (boolean : ∀ b, motive (.boolean b)) (number : ∀ literal, motive (.number literal))
    (text : ∀ s, motive (.text s)) (list : ∀ vs, (∀ v ∈ vs, motive v) → motive (.list vs))
    (object : ∀ ms, (∀ m ∈ ms, motive m.2) → motive (.object ms)) : ∀ v, motive v
  | .null => null
  | .boolean b => boolean b
  | .number literal => number literal
  | .text s => text s
  | .list vs => list vs fun v _ => v.induction null boolean number text list object
  | .object ms => object ms fun m _ => m.2.induction null boolean number text list object
termination_by v => sizeOf v
decreasing_by
  · have := List.sizeOf_lt_of_mem ‹_ ∈ vs›
    decreasing_tactic
  · have := List.sizeOf_lt_of_mem ‹_ ∈ ms›
    have : sizeOf m.2 < sizeOf m := by
      cases m
      decreasing_tactic
    simp only [Value.object.sizeOf_spec]
    omega

theorem swapped_of_change {change : List Step → Option Value} {v new : Value} {p : List Step}
    (hv : v ≠ .null) (hnew : change [] = some new) (h : v.firstChanged change = some p) :
    ∃ old new, old ≠ .null ∧ change p = some new ∧ Swapped old new p v (v.changed change) := by
  have hfirst : v.firstChanged change = some [] := by
    cases v with
    | null => exact absurd rfl hv
    | _ => simp [Value.firstChanged, Value.places, hnew]
  obtain rfl := Option.some.inj (h.symm.trans hfirst)
  refine ⟨v, new, hv, hnew, ?_⟩
  rw [Value.changed_of_some hv hnew]
  exact .here

theorem Value.swapped_of_firstChanged {change : List Step → Option Value} {v : Value}
    {p : List Step} (h : v.firstChanged change = some p) :
    ∃ old new, old ≠ .null ∧ change p = some new ∧ Swapped old new p v (v.changed change) := by
  induction v using Value.induction generalizing change p with
  | null => cases h
  | boolean | number | text =>
    cases hself : change [] with
    | some new => exact swapped_of_change nofun hself h
    | none => simp [firstChanged, places, hself] at h
  | list vs ih =>
    cases hself : change [] with
    | some new => exact swapped_of_change nofun hself h
    | none =>
      have hitems : (itemPlaces 0 vs).find? (fun p => (change p).isSome) = some p := by
        simpa [firstChanged, places, hself] using h
      obtain ⟨before, v, after, after', p', rfl, heq, hv, rfl⟩ := exists_item_of_find? hitems
      rw [Nat.zero_add] at heq hv ⊢
      obtain ⟨old, new, hold, hnew, hswap⟩ := ih v (by simp) hv
      refine ⟨old, new, hold, hnew, ?_⟩
      rw [changed, hself, heq, Option.getD_none]
      exact .item hswap
  | object ms ih =>
    cases hself : change [] with
    | some new => exact swapped_of_change nofun hself h
    | none =>
      have hmembers : (memberPlaces ms).find? (fun p => (change p).isSome) = some p := by
        simpa [firstChanged, places, hself] using h
      obtain ⟨before, key, v, after, after', p', rfl, heq, hv, rfl⟩ :=
        exists_member_of_find? hmembers
      obtain ⟨old, new, hold, hnew, hswap⟩ := ih (key, v) (by simp) hv
      refine ⟨old, new, hold, hnew, ?_⟩
      rw [changed, hself, heq, Option.getD_none]
      exact .member hswap

/-! ## Where there are nodes -/

theorem mem_itemPlaces {vs : List Value} {v : Value} {p : List Step} {index i : Nat}
    (hv : vs[i]? = some v) (hp : p ∈ v.places) :
    .index (index + i) :: p ∈ itemPlaces index vs := by
  induction vs generalizing index i with
  | nil => cases hv
  | cons u vs ih =>
    rw [itemPlaces, List.mem_append]
    cases i with
    | zero =>
      obtain rfl := Option.some.inj hv
      exact Or.inl (List.mem_map_of_mem hp)
    | succ i =>
      have hindex : index + (i + 1) = index + 1 + i := by omega
      rw [hindex]
      exact Or.inr (ih hv)

theorem mem_memberPlaces {ms : List (String × Value)} {key : String} {v : Value} {p : List Step}
    (hv : (key, v) ∈ ms) (hp : p ∈ v.places) : .key key :: p ∈ memberPlaces ms := by
  induction ms with
  | nil => cases hv
  | cons m ms ih =>
    rw [memberPlaces, List.mem_append]
    rcases List.mem_cons.mp hv with rfl | hv
    · exact Or.inl (List.mem_map_of_mem hp)
    · exact Or.inr (ih hv)

theorem mem_of_lookup_eq_some {ms : List (String × Value)} {key : String} {v : Value}
    (h : ms.lookup key = some v) : (key, v) ∈ ms := by
  obtain ⟨before, after, rfl, -⟩ := List.lookup_eq_some_iff.mp h
  simp

theorem Value.mem_places_of_at? {v u : Value} {p : List Step} (h : v.at? p = some u)
    (hu : u ≠ .null) : p ∈ v.places := by
  induction p generalizing v with
  | nil =>
    obtain rfl := Option.some.inj h
    cases v with
    | null => exact absurd rfl hu
    | _ => simp [places]
  | cons step p ih =>
    cases v with
    | list vs =>
      cases step with
      | index i =>
        rw [at?, Option.bind_eq_bind, Option.bind_eq_some_iff] at h
        obtain ⟨v, hv, h⟩ := h
        have hmem : .index (0 + i) :: p ∈ itemPlaces 0 vs := mem_itemPlaces hv (ih h)
        rw [Nat.zero_add] at hmem
        exact List.mem_cons_of_mem _ hmem
      | _ => simp [at?] at h
    | object ms =>
      cases step with
      | key key =>
        rw [at?, Option.bind_eq_bind, Option.bind_eq_some_iff] at h
        obtain ⟨v, hv, h⟩ := h
        exact List.mem_cons_of_mem _ (mem_memberPlaces (mem_of_lookup_eq_some hv) (ih h))
      | _ => simp [at?] at h
    | _ => simp [at?] at h

/-! ## Changes that are refused -/

mutual

/-- No numbers, no tables and no open records. -/
def Schema.Strict {α : Type} : Schema α → Prop
  | .text => True
  | .byte => False
  | .choice _ => True
  | .list item => item.Strict
  | .table _ => False
  | .record _ closed fields _ => closed = true ∧ fields.Strict

def Fields.Strict {β σ : Type} : Fields β σ → Prop
  | .none => True
  | .field _ _ item rest => item.Strict ∧ rest.Strict

end

theorem Schema.Strict.not_admits {α : Type} {schema : Schema α} (h : schema.Strict) {new : Value}
    (hnew : new.IsScalar) : ¬schema.Admits new := by
  intro hadmits
  cases schema with
  | byte | table => exact h.elim
  | text | choice | list | record => cases new <;> first | exact hnew.elim | exact hadmits.elim

mutual

theorem Schema.Strict.refusesAt {α : Type} {new : Value} (hnew : new.IsScalar) (old : Value) :
    {schema : Schema α} → schema.Strict → (p : List Step) → schema.RefusesAt old new [] p
  | schema, h, [] => by
    unfold Schema.RefusesAt
    exact fun _ _ => Schema.fails_of_not_admits (h.not_admits hnew)
  | .list _, h, .index _ :: p => by
    unfold Schema.Strict at h
    unfold Schema.RefusesAt
    exact h.refusesAt hnew old p
  | .record _ _ _ _, h, .index i :: p => by
    unfold Schema.Strict at h
    unfold Schema.RefusesAt
    exact h.2.refusesNth hnew old p i
  | .record _ _ _ _, h, .key key :: p => by
    unfold Schema.Strict at h
    unfold Schema.RefusesAt
    exact ⟨Or.inl h.1, h.2.refusesKey hnew old p key⟩
  | .text, _, step :: _ | .choice _, _, step :: _ => by cases step <;> trivial
  | .list _, _, .key _ :: _ | .list _, _, .unknown :: _ => trivial
  | .record _ _ _ _, _, .unknown :: _ => trivial

theorem Fields.Strict.refusesNth {β σ : Type} {new : Value} (hnew : new.IsScalar) (old : Value) :
    {fields : Fields β σ} → fields.Strict → (p : List Step) → (i : Nat) →
      fields.RefusesNth old new [] p i
  | .none, _, _, _ => trivial
  | .field _ _ _ _, h, p, 0 => h.1.refusesAt hnew old p
  | .field _ _ _ _, h, p, i + 1 => h.2.refusesNth hnew old p i

theorem Fields.Strict.refusesKey {β σ : Type} {new : Value} (hnew : new.IsScalar) (old : Value) :
    {fields : Fields β σ} → fields.Strict → (p : List Step) → (key : String) →
      fields.RefusesKey old new [] p key
  | .none, _, _, _ => trivial
  | .field _ _ _ _, h, p, key => by
    unfold Fields.RefusesKey
    split
    · exact h.1.refusesAt hnew old p
    · exact h.2.refusesKey hnew old p key

end

end NodeFamilies.Json
