import NodeFamilies.Disk.Path

/-!
# Replacing one place of a disk

Where a path leads depends only on directories, so a path leads to the same place after something
that is not a directory has been replaced.
-/

namespace NodeFamilies.Disk

variable {d : Disk} {l : Location} {e : Entry}

theorem get?_nil (d : Disk) : d.get? [] = some .directory := by
  rw [get?, if_pos rfl]

theorem ne_nil_of_get? (h : d.get? l ≠ some .directory) : l ≠ [] := by
  rintro rfl
  exact h d.get?_nil

theorem get?_set_self (hl : l ≠ []) (e : Entry) : (d.set l e).get? l = some e := by
  rw [get?_set d hl, if_pos rfl]

theorem get?_set_of_ne (hl : l ≠ []) (e : Entry) {l' : Location} (h : l' ≠ l) :
    (d.set l e).get? l' = d.get? l' := by
  rw [get?_set d hl, if_neg h]

/-! ## The last entry counts -/

theorem set_set (d : Disk) (l : Location) (e e' : Entry) : (d.set l e').set l e = d.set l e := by
  rw [set, set, set, Table.put_put]

theorem set_of_get? (hl : l ≠ []) (h : d.get? l = some e) : d.set l e = d := by
  unfold get? at h
  rw [if_neg hl] at h
  rw [set, Table.put_of_lookup h]

theorem overwrite_set_empty (hl : l ≠ []) (data : Bytes) :
    (d.set l (.file [])).overwrite l data = d.set l (.file data) := by
  rw [overwrite, get?_set_self hl]
  simp [overlay, set_set]

/-! ## Paths -/

theorem directory_of_step {l' : Location} {name : String} (h : d.step l name = .ok l') :
    d.get? l = some .directory := by
  unfold step at h
  split at h
  · assumption
  · cases h
  · cases h

theorem resolve_eq_ok_iff {path : String} :
    d.resolve path = .ok l ↔
      '\x00' ∉ path.toList ∧ path ≠ "" ∧ path.utf8ByteSize ≤ Path.longest ∧
        d.follow (d.start path) (Path.steps path) = .ok l := by
  unfold resolve
  by_cases hnul : '\x00' ∈ path.toList
  · simp [hnul]
  by_cases hempty : path = ""
  · simp [hempty]
  by_cases hlong : Path.longest < path.utf8ByteSize
  · simp [hnul, hempty, hlong, Nat.not_le_of_lt hlong]
  · simp [hnul, hempty, hlong, Nat.le_of_not_lt hlong]

section

variable {d' : Disk} (hdir : ∀ l, d.get? l = some .directory → d'.get? l = some .directory)

include hdir

theorem follow_mono {names : List String} {l₀ l₁ : Location} (h : d.follow l₀ names = .ok l₁) :
    d'.follow l₀ names = .ok l₁ := by
  induction names generalizing l₀ with
  | nil => exact h
  | cons name names ih =>
    rw [follow] at h ⊢
    cases hstep : d.step l₀ name with
    | error cause =>
      rw [hstep] at h
      cases h
    | ok l₂ =>
      have hhere := directory_of_step hstep
      have hsame : d'.step l₀ name = d.step l₀ name := by simp [step, hhere, hdir l₀ hhere]
      rw [hstep] at h
      rw [hsame, hstep]
      exact ih h

theorem resolve_mono (hworking : d'.working = d.working) {path : String}
    (h : d.resolve path = .ok l) : d'.resolve path = .ok l := by
  rw [resolve_eq_ok_iff] at h ⊢
  obtain ⟨hnul, hempty, hlong, hfollow⟩ := h
  have hstart : d'.start path = d.start path := by rw [start, start, hworking]
  exact ⟨hnul, hempty, hlong, hstart ▸ follow_mono hdir hfollow⟩

end

theorem resolve_set (hl : d.get? l ≠ some .directory) (e : Entry) {path : String} {l₁ : Location}
    (h : d.resolve path = .ok l₁) : (d.set l e).resolve path = .ok l₁ := by
  have hdir : ∀ l₀, d.get? l₀ = some .directory → (d.set l e).get? l₀ = some .directory := by
    intro l₀ hl₀
    have hne : l₀ ≠ l := by
      rintro rfl
      exact hl hl₀
    rw [get?_set_of_ne (ne_nil_of_get? hl) e hne]
    exact hl₀
  exact resolve_mono hdir rfl h

/-! ## Opening -/

/-- A file or nothing is there. -/
def Replaceable (d : Disk) (l : Location) : Prop :=
  d.get? l = none ∨ ∃ contents, d.get? l = some (.file contents)

theorem Replaceable.ne_directory (h : d.Replaceable l) : d.get? l ≠ some .directory := by
  rcases h with h | ⟨contents, h⟩ <;> simp [h]

theorem replaceable_iff :
    d.Replaceable l ↔ d.get? l ≠ some .directory ∧ d.get? l ≠ some .full := by
  unfold Replaceable
  cases d.get? l with
  | none => simp
  | some e => cases e <;> simp

theorem create_of_full {path : String} (hr : d.resolve path = .ok l) (h : d.get? l = some .full) :
    d.create path = .ok (l, d) := by
  simp [create, hr, bind, Except.bind, h]

theorem create_of_replaceable {path : String} (hr : d.resolve path = .ok l)
    (h : d.Replaceable l) : d.create path = .ok (l, d.set l (.file [])) := by
  rcases h with h | ⟨contents, h⟩ <;> simp [create, hr, bind, Except.bind, h]

theorem create_cases (d : Disk) (path : String) :
    (∃ cause, d.create path = .error cause) ∨
      (∃ l, d.resolve path = .ok l ∧ d.get? l = some .full) ∨
      ∃ l, d.resolve path = .ok l ∧ d.Replaceable l := by
  cases hr : d.resolve path with
  | error cause => exact Or.inl ⟨cause, by rw [create, hr]; rfl⟩
  | ok l =>
    cases he : d.get? l with
    | none => exact Or.inr (Or.inr ⟨l, rfl, Or.inl he⟩)
    | some e =>
      cases e with
      | directory => exact Or.inl ⟨.isADirectory, by simp [create, hr, bind, Except.bind, he]⟩
      | file contents => exact Or.inr (Or.inr ⟨l, rfl, Or.inr ⟨contents, he⟩⟩)
      | full => exact Or.inr (Or.inl ⟨l, rfl, he⟩)

theorem replaceable_set (hl : l ≠ []) (contents : Bytes) :
    (d.set l (.file contents)).Replaceable l :=
  Or.inr ⟨contents, get?_set_self hl _⟩

/-! ## Making directories -/

/-- All that is there stays as it is, and what is new is a directory. -/
def GrowsTo (d d' : Disk) : Prop :=
  ∀ l, d'.get? l = d.get? l ∨ d.get? l = none ∧ d'.get? l = some .directory

theorem GrowsTo.trans {d' d'' : Disk} (h : d.GrowsTo d') (h' : d'.GrowsTo d'') :
    d.GrowsTo d'' := by
  intro l
  rcases h l with hl | ⟨hnone, hl⟩
  · rw [← hl]
    exact h' l
  · rcases h' l with hl' | ⟨hnone', -⟩
    · exact Or.inr ⟨hnone, hl'.trans hl⟩
    · rw [hl] at hnone'
      cases hnone'

theorem growsTo_enter (d : Disk) (l : Location) (name : String) : d.GrowsTo (d.enter l name).1 := by
  unfold enter
  split
  · exact fun _ => Or.inl rfl
  split
  · exact fun _ => Or.inl rfl
  split
  · exact fun _ => Or.inl rfl
  · rename_i hnew
    intro l'
    rw [get?_set d (List.append_ne_nil_of_right_ne_nil l (List.cons_ne_nil name []))]
    by_cases h : l' = l ++ [name]
    · subst h
      exact Or.inr ⟨by simpa using hnew, if_pos rfl⟩
    · exact Or.inl (if_neg h)

theorem get?_enter {name : String} (hname : name ∉ ["", ".", ".."])
    (hway : ∀ e, d.get? (l ++ [name]) = some e → e = .directory) :
    (d.enter l name).2 = l ++ [name] ∧
      (d.enter l name).1.get? (l ++ [name]) = some .directory := by
  simp only [List.mem_cons, List.not_mem_nil, or_false, not_or] at hname
  unfold enter
  rw [if_neg (by simp [hname]), if_neg hname.2.2]
  cases he : d.get? (l ++ [name]) with
  | none => exact ⟨rfl, get?_set_self (by simp) _⟩
  | some e => exact ⟨rfl, he.trans (congrArg some (hway e he))⟩

theorem growsTo_enterAll (d : Disk) (l : Location) (names : List String) :
    d.GrowsTo (d.enterAll l names) := by
  induction names generalizing d l with
  | nil => exact fun _ => Or.inl rfl
  | cons name names ih => exact (d.growsTo_enter l name).trans (ih _ _)

/-- If nothing but directories is on the way, there is a directory at its end afterwards. -/
theorem get?_enterAll {names : List String} (hnames : ∀ name ∈ names, name ∉ ["", ".", ".."])
    (hl : d.get? l = some .directory)
    (hway : ∀ passed, passed <+: names → ∀ e, d.get? (l ++ passed) = some e → e = .directory) :
    (d.enterAll l names).get? (l ++ names) = some .directory := by
  induction names generalizing d l with
  | nil => rwa [List.append_nil]
  | cons name names ih =>
    obtain ⟨hplace, hentry⟩ := get?_enter (hnames name List.mem_cons_self)
      (hway [name] (List.prefix_append [name] names))
    rw [enterAll, hplace, List.append_cons l name names]
    refine ih (fun n hn => hnames n (List.mem_cons_of_mem _ hn)) hentry ?_
    intro passed hpassed e he
    rw [← List.append_cons] at he
    rcases d.growsTo_enter l name (l ++ name :: passed) with hsame | ⟨-, hnew⟩
    · exact hway _ (List.cons_prefix_cons.mpr ⟨rfl, hpassed⟩) e (hsame ▸ he)
    · exact Option.some.inj (he.symm.trans hnew)

theorem growsTo_makeDirectory (d : Disk) (path : String) : d.GrowsTo (d.makeDirectory path) :=
  d.growsTo_enterAll _ _

/-! ## Listings -/

/-- No place has two entries. -/
def Distinct (d : Disk) : Prop := (d.entries.map Prod.fst).Nodup

theorem Distinct.set (h : d.Distinct) (l : Location) (e : Entry) : (d.set l e).Distinct :=
  Table.nodup_put h l e

theorem Distinct.place (h : d.Distinct) (path : String) (e : Entry) :
    (d.place path e).Distinct := by
  unfold Disk.place
  split
  · exact h.set _ e
  · exact h

theorem Distinct.enter (h : d.Distinct) (l : Location) (name : String) :
    (d.enter l name).1.Distinct := by
  unfold Disk.enter
  split
  · exact h
  split
  · exact h
  split
  · exact h
  · exact h.set _ _

theorem Distinct.enterAll (h : d.Distinct) (l : Location) (names : List String) :
    (d.enterAll l names).Distinct := by
  induction names generalizing d l with
  | nil => exact h
  | cons name names ih => exact ih (h.enter l name) _

theorem Distinct.makeDirectory (h : d.Distinct) (path : String) :
    (d.makeDirectory path).Distinct :=
  h.enterAll _ _

/-- A listing shows what is found below the working directory, and all of it. -/
theorem mem_listing_iff (h : d.Distinct) {path : String} :
    (path, e) ∈ d.listing ↔
      ∃ names, names ≠ [] ∧ path = "/".intercalate names ∧ d.get? (d.working ++ names) = some e := by
  have hget : ∀ names, names ≠ [] →
      (d.get? (d.working ++ names) = some e ↔ (d.working ++ names, e) ∈ d.entries) := by
    intro names hnames
    rw [get?, if_neg (List.append_ne_nil_of_right_ne_nil _ hnames)]
    exact Table.lookup_eq_some_iff_mem h
  unfold listing
  rw [List.mem_filterMap]
  constructor
  · rintro ⟨⟨l, e'⟩, hmem, hl⟩
    dsimp only at hl
    split at hl
    · rename_i hbelow
      rw [Bool.and_eq_true, List.isPrefixOf_iff_prefix, decide_eq_true_eq] at hbelow
      obtain ⟨⟨names, rfl⟩, hlength⟩ := hbelow
      obtain ⟨rfl, rfl⟩ := Prod.mk.inj (Option.some.inj hl)
      have hnames : names ≠ [] := by
        rintro rfl
        simp at hlength
      exact ⟨names, hnames, by rw [List.drop_left], (hget names hnames).mpr hmem⟩
    · cases hl
  · rintro ⟨names, hnames, rfl, hentry⟩
    refine ⟨(d.working ++ names, e), (hget names hnames).mp hentry, ?_⟩
    have hlength : 0 < names.length := List.length_pos_iff.mpr hnames
    simp [hlength]

end NodeFamilies.Disk
