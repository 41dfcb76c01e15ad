import NodeFamilies.Proofs.Json.Refusals

/-!
# Keys at fault

A closed record refuses a key that it does not know, a key that comes a second time and the end of
an object in which a key is missing. The unknown key is located itself, the others as faults of the
object, whatever members were read before and whatever stands behind.
-/

namespace NodeFamilies.Json

namespace Fields

variable {β σ : Type} {fields : Fields β σ} {key : String} {v x : Value} {slots slots' : σ}
  {closed : Bool} {p : List Step}

/-! ## One member -/

theorem failsMember_field (hread : fields.isRead key slots = false) (hkey : key ∈ fields.keys)
    (hx : Fails (fields.readField key slots) x p) :
    FailsMember (fields.readPassed closed) key x slots (.key key :: p) := by
  intro w w' t rest hw hw' ht
  have hcolon : readColon (w ++ ':' :: (w' ++ (t ++ rest))) = .ok (w' ++ (t ++ rest)) :=
    readColon_eq_ok_iff.mpr ⟨w, hw, rfl⟩
  rw [readPassed, hread, if_neg Bool.false_ne_true, if_pos (List.contains_iff_mem.mpr hkey),
    hcolon]
  exact (hx w' t rest hw' ht).within _

theorem failsMember_repeated (hread : fields.isRead key slots = true) :
    FailsMember (fields.readPassed closed) key x slots [] := by
  intro w w' t rest _ _ _
  rw [readPassed, if_pos hread]
  exact failsAt_error _

theorem failsMember_unknown (hkey : key ∉ fields.keys) :
    FailsMember (fields.readPassed true) key x slots [.key key] := by
  intro w w' t rest _ _ _
  rw [readPassed, if_neg (mt mem_keys_of_isRead hkey), if_neg (mt List.contains_iff_mem.mp hkey),
    if_pos rfl]
  exact failsAt_error _

/-! ## What has been read -/

theorem Fills.isRead_iff (h : fields.Fills key v slots slots') {key' : String} :
    fields.isRead key' slots' = true ↔ fields.isRead key' slots = true ∨ key = key' := by
  induction fields using Fields.induction with
  | none => exact h.elim
  | field k fallback item rest ih =>
    obtain ⟨slot, slots⟩ := slots
    obtain ⟨slot', slots'⟩ := slots'
    unfold Fills at h
    rw [isRead, isRead]
    split at h
    · rename_i hk
      obtain ⟨rfl, ⟨a, -, rfl⟩, rfl⟩ := h
      subst hk
      split <;> simp_all
    · rename_i hk
      obtain ⟨rfl, h⟩ := h
      split
      · rename_i hk'
        subst hk'
        simp [Ne.symm hk]
      · exact ih h

theorem isRead_iff_of_run {ms : List (String × Value)}
    (h : Run (fields.Passes closed) slots ms slots') (hkey : key ∈ fields.keys) :
    fields.isRead key slots' = true ↔
      fields.isRead key slots = true ∨ key ∈ ms.map Prod.fst := by
  induction h with
  | nil => simp
  | @cons k v ms s s₁ s' hm _ ih =>
    rw [ih, List.map_cons, List.mem_cons]
    rcases hm with hm | ⟨-, hk, rfl⟩
    · rw [hm.isRead_iff, or_assoc, eq_comm (a := k)]
    · have hne : key ≠ k := by
        rintro rfl
        exact hk hkey
      simp [hne]

theorem keys_subset_of_run {ms : List (String × Value)}
    (h : Run (fields.Passes true) slots ms slots') : ms.map Prod.fst ⊆ fields.keys := by
  induction h with
  | nil => exact List.nil_subset _
  | cons hm _ ih =>
    rcases hm with hm | ⟨⟨⟩, -⟩
    exact List.cons_subset.mpr ⟨hm.mem_keys, ih⟩

/-- The keys of the fields that must not be left out. -/
def required {β σ : Type} : Fields β σ → List String
  | .none => []
  | .field key fallback _ rest => if fallback.isNone then key :: rest.required else rest.required

theorem required_subset_keys : fields.required ⊆ fields.keys := by
  induction fields using Fields.induction with
  | none => exact List.Subset.refl _
  | field k fallback item rest ih =>
    rw [required, keys]
    split
    · exact List.cons_subset_cons k ih
    · exact List.subset_cons_of_subset k ih

theorem isRead_of_complete (hkeys : fields.keys.Nodup) (hkey : key ∈ fields.required) {b : β}
    (h : fields.complete slots = .ok b) : fields.isRead key slots = true := by
  induction fields using Fields.induction with
  | none => cases hkey
  | field k fallback item rest ih =>
    obtain ⟨slot, slots⟩ := slots
    obtain ⟨a, b⟩ := b
    obtain ⟨hk, hrest⟩ := List.nodup_cons.mp hkeys
    obtain ⟨hslot, hb⟩ := complete_field_eq_ok_iff.mp h
    rw [isRead]
    rw [required] at hkey
    split
    · rename_i heq
      subst heq
      cases fallback with
      | none => cases slot <;> simp_all
      -- The key may be left out here, so it would have to come once more among the others.
      | some a' => exact absurd (required_subset_keys hkey) hk
    · rename_i hne
      refine ih hrest ?_ hb
      split at hkey
      · exact (List.mem_cons.mp hkey).resolve_left (Ne.symm hne)
      · exact hkey

end Fields

/-! ## One object -/

section

variable {α β σ : Type} {title : String} {fields : Fields β σ} {build : β → α} {a : α}
  {before after : List (String × Value)} {key : String} {v x : Value} {p : List Step}

theorem exists_run_of_encodes {closed : Bool} (hkeys : fields.keys.Nodup)
    {ms : List (String × Value)}
    (h : (Schema.record title closed fields build).Encodes (.object ms) a) :
    ∃ slots b, Run (fields.Passes closed) fields.unread ms slots ∧
      fields.complete slots = .ok b := by
  rw [Schema.Encodes] at h
  obtain ⟨b, -, ⟨vs, ⟨⟩, -⟩ | ⟨_, known, others, ⟨⟩, hp, hknown, hothers⟩⟩ := h
  obtain ⟨slots, hrun, hb⟩ := Fields.exists_run_passes hkeys hp hknown hothers
  exact ⟨slots, b, hrun, hb⟩

theorem fails_unknown (hkeys : fields.keys.Nodup) (hread : fields.Readable)
    (h : (Schema.record title true fields build).Encodes (.object (before ++ after)) a)
    (hkey : key ∉ fields.keys) :
    Fails (Schema.record title true fields build).read (.object (before ++ (key, x) :: after))
      [.key key] := by
  obtain ⟨slots, b, hrun, -⟩ := exists_run_of_encodes hkeys h
  obtain ⟨slots₁, hbefore, -⟩ := hrun.exists_of_append
  exact fails_object (hbefore.imp (Fields.readPassed_reads hread)) (Fields.failsMember_unknown hkey)

theorem fails_repeated (hkeys : fields.keys.Nodup) (hread : fields.Readable)
    (h : (Schema.record title true fields build).Encodes (.object (before ++ after)) a)
    (hkey : key ∈ before.map Prod.fst) :
    Fails (Schema.record title true fields build).read (.object (before ++ (key, x) :: after))
      [] := by
  obtain ⟨slots, b, hrun, -⟩ := exists_run_of_encodes hkeys h
  obtain ⟨slots₁, hbefore, -⟩ := hrun.exists_of_append
  have hmem : key ∈ fields.keys := Fields.keys_subset_of_run hbefore hkey
  have hslot : fields.isRead key slots₁ = true :=
    (Fields.isRead_iff_of_run hbefore hmem).mpr (Or.inr hkey)
  exact fails_object (hbefore.imp (Fields.readPassed_reads hread))
    (Fields.failsMember_repeated hslot)

theorem fails_missing (hkeys : fields.keys.Nodup) (hread : fields.Readable)
    (h : (Schema.record title true fields build).Encodes
      (.object (before ++ (key, x) :: after)) a)
    (hkey : key ∈ fields.required) :
    Fails (Schema.record title true fields build).read (.object (before ++ after)) [] := by
  -- A record is complete only when every field has been read that must not be left out.
  obtain ⟨slots, b, hrun, -⟩ := exists_run_of_encodes hkeys h
  -- The member that is left out may as well have been the last one.
  have hp : (before ++ (key, x) :: after).Perm (before ++ after ++ [(key, x)]) := by
    rw [List.append_assoc]
    exact (List.perm_append_singleton _ _).symm.append_left before
  obtain ⟨slots₁, hrest, hlast⟩ := (hrun.perm Fields.Passes.swap hp).exists_of_append
  have hslot : fields.isRead key slots₁ = false := by
    cases hlast with
    | cons hm _ =>
    rcases hm with hm | ⟨⟨⟩, -⟩
    exact hm.isRead_eq_false
  intro w t rest hw ht
  cases ht with
  | @object _ t ht =>
    have hopen : skipBlanks (w ++ ('\x7b' :: t ++ rest)) = '\x7b' :: (t ++ rest) :=
      skipBlanks_mark hw (by decide) _
    have hmembers := readMembers_of_run (hrest.imp (Fields.readPassed_reads hread)) ht
      (Nat.le_refl (t ++ rest).length)
    rw [Schema.read_object hopen, hmembers]
    cases hcomplete : fields.complete slots₁ with
    | ok b =>
      rw [Fields.isRead_of_complete hkeys hkey hcomplete] at hslot
      cases hslot
    | error key' =>
      simp only [Bind.bind, Except.bind, hcomplete]
      exact failsAt_error _

end

end NodeFamilies.Json
