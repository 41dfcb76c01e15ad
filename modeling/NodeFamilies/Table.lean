/-!
# Tables

Values under keys, in the order in which the keys came. A key that comes again keeps its place.
-/

namespace NodeFamilies.Table

variable {κ α : Type} [BEq κ]

/-- Puts a value under a key, in the place of the value that was there. -/
def put (k : κ) (a : α) : List (κ × α) → List (κ × α)
  | [] => [(k, a)]
  | (k', a') :: rest => if k == k' then (k, a) :: rest else (k', a') :: put k a rest

variable [LawfulBEq κ] {k : κ} {a : α} {t : List (κ × α)}

theorem put_cons_self (k : κ) (a a' : α) (t : List (κ × α)) :
    put k a ((k, a') :: t) = (k, a) :: t := by
  rw [put, if_pos (BEq.refl k)]

theorem put_cons_of_ne {k' : κ} (h : k ≠ k') (a a' : α) (t : List (κ × α)) :
    put k a ((k', a') :: t) = (k', a') :: put k a t := by
  rw [put, if_neg (by simp [h])]

theorem lookup_put [DecidableEq κ] (k k' : κ) (a : α) (t : List (κ × α)) :
    (put k a t).lookup k' = if k' = k then some a else t.lookup k' := by
  induction t with
  | nil =>
    rw [put, List.lookup_cons]
    by_cases h : k' = k
    · simp [h]
    · simp [h, beq_false_of_ne h]
  | cons p t ih =>
    obtain ⟨m, b⟩ := p
    by_cases hm : k = m
    · subst hm
      rw [put_cons_self, List.lookup_cons, List.lookup_cons]
      by_cases h : k' = k
      · simp [h]
      · simp [h, beq_false_of_ne h]
    · rw [put_cons_of_ne hm, List.lookup_cons, List.lookup_cons, ih]
      by_cases h : k' = m
      · subst h
        simp [Ne.symm hm]
      · simp [beq_false_of_ne h]

/-! ## The last value counts -/

theorem put_put (k : κ) (a a' : α) (t : List (κ × α)) : put k a (put k a' t) = put k a t := by
  induction t with
  | nil => rw [put, put_cons_self, put]
  | cons p t ih =>
    obtain ⟨m, b⟩ := p
    by_cases h : k = m
    · subst h
      rw [put_cons_self, put_cons_self, put_cons_self]
    · rw [put_cons_of_ne h, put_cons_of_ne h, put_cons_of_ne h, ih]

theorem put_of_lookup (h : t.lookup k = some a) : put k a t = t := by
  induction t with
  | nil => cases h
  | cons p t ih =>
    obtain ⟨m, b⟩ := p
    rw [List.lookup_cons] at h
    by_cases hm : k = m
    · subst hm
      have hb : b = a := by simpa using h
      rw [put_cons_self, hb]
    · rw [beq_false_of_ne hm] at h
      rw [put_cons_of_ne hm, ih h]

/-! ## No key twice -/

theorem map_fst_put (k : κ) (a : α) (t : List (κ × α)) :
    (put k a t).map Prod.fst =
      if k ∈ t.map Prod.fst then t.map Prod.fst else t.map Prod.fst ++ [k] := by
  induction t with
  | nil => simp [put]
  | cons p t ih =>
    obtain ⟨m, b⟩ := p
    by_cases h : k = m
    · subst h
      simp [put_cons_self]
    · rw [put_cons_of_ne h, List.map_cons, List.map_cons, ih]
      by_cases hmem : k ∈ t.map Prod.fst
      · rw [if_pos hmem, if_pos (List.mem_cons_of_mem _ hmem)]
      · rw [if_neg hmem, if_neg (by simpa [h] using hmem)]
        rfl

theorem nodup_put (h : (t.map Prod.fst).Nodup) (k : κ) (a : α) :
    ((put k a t).map Prod.fst).Nodup := by
  rw [map_fst_put]
  split
  · exact h
  · rename_i hnew
    rw [List.nodup_append]
    refine ⟨h, by simp, ?_⟩
    rintro k' hk' _ hk rfl
    exact hnew (List.mem_singleton.mp hk ▸ hk')

theorem lookup_eq_some_iff_mem (h : (t.map Prod.fst).Nodup) :
    t.lookup k = some a ↔ (k, a) ∈ t := by
  induction t with
  | nil => simp
  | cons p t ih =>
    obtain ⟨m, b⟩ := p
    rw [List.map_cons, List.nodup_cons] at h
    rw [List.lookup_cons, List.mem_cons]
    by_cases hm : k = m
    · subst hm
      have hnew : (k, a) ∉ t := fun hmem =>
        h.1 (List.mem_map.mpr ⟨(k, a), hmem, rfl⟩)
      simp [hnew, eq_comm]
    · simp [hm, beq_false_of_ne hm, ih h.2]

end NodeFamilies.Table
