import NodeFamilies.Proofs.Generating
import NodeFamilies.Session

/-!
# What files hold after a session

Several artifacts can be open at once, also on the same file. Each file holds what comes out of the
changes that were made to it, in their order: to open it empties it, and to write lays bytes over its
start. Which artifact lies where is settled by the disk at the start of the session.
-/

namespace NodeFamilies

/-! ## Changes of a file -/

inductive Change where
  | emptied
  | overwritten (data : Bytes)
  deriving DecidableEq, Repr

/-- An emptied file is there, even if it was not before. Bytes behind the new ones stay. -/
def Change.apply (contents : Option Bytes) : Change → Option Bytes
  | emptied => some []
  | overwritten data => contents.map fun old => data ++ old.drop data.length

/-- The contents after some changes. -/
def replay (contents : Option Bytes) (changes : List Change) : Option Bytes :=
  changes.foldl Change.apply contents

theorem replay_append (contents : Option Bytes) (changes changes' : List Change) :
    replay contents (changes ++ changes') = replay (replay contents changes) changes' :=
  List.foldl_append

theorem isSome_replay {contents : Option Bytes} (h : contents.isSome) (changes : List Change) :
    (replay contents changes).isSome := by
  induction changes generalizing contents with
  | nil => exact h
  | cons change changes ih =>
    apply ih
    cases change with
    | emptied => rfl
    | overwritten data => rwa [Change.apply, Option.isSome_map]

/-! ## Files -/

namespace Disk

variable {d d' : Disk} {l : Location} {path : String}

/-- The bytes of the file at a place, if there is one. -/
def contents? (d : Disk) (l : Location) : Option Bytes :=
  match d.get? l with
  | some (.file contents) => some contents
  | _ => none

/-- The place where a path can be opened for writing: anything but a directory. -/
def target? (d : Disk) (path : String) : Option Location :=
  match d.resolve path with
  | .ok l => if d.get? l = some .directory then none else some l
  | .error _ => none

theorem target?_eq_some_iff :
    d.target? path = some l ↔ d.resolve path = .ok l ∧ d.get? l ≠ some .directory := by
  unfold target?
  cases d.resolve path with
  | error cause => simp
  | ok l₁ =>
    by_cases h : d.get? l₁ = some .directory
    · simp only [h, if_true, reduceCtorEq, Except.ok.injEq, false_iff]
      rintro ⟨rfl, hl⟩
      exact hl h
    · simp only [h, if_false, Option.some.injEq, Except.ok.injEq]
      constructor
      · rintro rfl
        exact ⟨rfl, h⟩
      · exact And.left

theorem target_cases (d : Disk) (path : String) :
    (∃ cause, d.create path = .error cause ∧ d.target? path = none) ∨
      (∃ l, d.resolve path = .ok l ∧ d.get? l = some .full ∧ d.target? path = some l) ∨
      ∃ l, d.resolve path = .ok l ∧ d.Replaceable l ∧ d.target? path = some l := by
  rcases d.create_cases path with ⟨cause, hc⟩ | ⟨l, hr, hl⟩ | ⟨l, hr, hl⟩
  · refine Or.inl ⟨cause, hc, Option.eq_none_iff_forall_ne_some.mpr fun l hl => ?_⟩
    obtain ⟨hr, hdir⟩ := target?_eq_some_iff.mp hl
    by_cases hfull : d.get? l = some .full
    · rw [create_of_full hr hfull] at hc
      cases hc
    · rw [create_of_replaceable hr (replaceable_iff.mpr ⟨hdir, hfull⟩)] at hc
      cases hc
  · exact Or.inr (Or.inl ⟨l, hr, hl, target?_eq_some_iff.mpr ⟨hr, by simp [hl]⟩⟩)
  · exact Or.inr (Or.inr ⟨l, hr, hl, target?_eq_some_iff.mpr ⟨hr, hl.ne_directory⟩⟩)

theorem contents?_set (hl : l ≠ []) (contents : Bytes) (l' : Location) :
    (d.set l (.file contents)).contents? l' = if l' = l then some contents else d.contents? l' := by
  unfold contents?
  rw [get?_set d hl]
  by_cases h : l' = l <;> simp [h]

theorem contents?_eq_some_iff {contents : Bytes} :
    d.contents? l = some contents ↔ d.get? l = some (.file contents) := by
  unfold contents?
  cases d.get? l with
  | none => simp
  | some e => cases e <;> simp

theorem read_of_target? {contents : Bytes} (ht : d.target? path = some l)
    (hc : d.contents? l = some contents) : d.read path = .ok contents := by
  obtain ⟨hr, -⟩ := target?_eq_some_iff.mp ht
  have hl := contents?_eq_some_iff.mp hc
  simp [read, hr, bind, Except.bind, hl]

/-- The two disks differ in files at most. -/
structure SameFrame (d d' : Disk) : Prop where
  working : d'.working = d.working
  directory : ∀ l, d'.get? l = some .directory ↔ d.get? l = some .directory
  full : ∀ l, d'.get? l = some .full ↔ d.get? l = some .full

namespace SameFrame

protected theorem refl (d : Disk) : d.SameFrame d := ⟨rfl, fun _ => Iff.rfl, fun _ => Iff.rfl⟩

theorem set (h : d.SameFrame d') (hl : d'.Replaceable l) (contents : Bytes) :
    d.SameFrame (d'.set l (.file contents)) := by
  have hnil : l ≠ [] := ne_nil_of_get? hl.ne_directory
  obtain ⟨hdir, hfull⟩ := replaceable_iff.mp hl
  refine ⟨h.working, fun l' => ?_, fun l' => ?_⟩
  · rw [← h.directory, get?_set d' hnil]
    by_cases hl' : l' = l
    · simp [hl', hdir]
    · simp [hl']
  · rw [← h.full, get?_set d' hnil]
    by_cases hl' : l' = l
    · simp [hl', hfull]
    · simp [hl']

theorem target?_eq (h : d.SameFrame d') (path : String) : d'.target? path = d.target? path := by
  ext l
  rw [target?_eq_some_iff, target?_eq_some_iff, ne_eq, ne_eq, h.directory]
  constructor
  · rintro ⟨hr, hl⟩
    exact ⟨resolve_mono (fun l => (h.directory l).mp) h.working.symm hr, hl⟩
  · rintro ⟨hr, hl⟩
    exact ⟨resolve_mono (fun l => (h.directory l).mpr) h.working hr, hl⟩

end SameFrame

end Disk

/-! ## What is open -/

namespace Session

variable {d : Disk} {s : Session} {l : Location} {opened : List (String × Location)}

/-- The place that an action concerns. The disk is the one at the start, and `opened` gives each open
name the place of its file. -/
def Action.place? (d : Disk) (opened : List (String × Location)) : Action → Option Location
  | openAs _ dir stem => d.target? (Artifact.pathIn dir stem)
  | write name _ _ => opened.lookup name
  | drop _ => none
  | generate dir g => d.target? (Artifact.pathIn dir g.stem)

/-- The changes that an action makes to the file there. -/
def Action.changes : Action → List Change
  | openAs _ _ _ => [.emptied]
  | write _ pieces _ => [.overwritten pieces.flatten]
  | drop _ => []
  | generate _ g => [.emptied, .overwritten (Text.utf8 g.render)]

/-- What is open after an action. -/
def nextOpened (d : Disk) (opened : List (String × Location)) : Action → List (String × Location)
  | .openAs name dir stem =>
    match d.target? (Artifact.pathIn dir stem) with
    | some l => (name, l) :: opened.filter (·.1 != name)
    | none => opened
  | .write name _ _ => opened.filter (·.1 != name)
  | .drop name => opened.filter (·.1 != name)
  | .generate _ _ => opened

/-- The changes of the file at `l` in the course of some actions. -/
def history (d : Disk) (l : Location) : List (String × Location) → List Action → List Change
  | _, [] => []
  | opened, a :: actions =>
    (if a.place? d opened = some l then a.changes else []) ++
      history d l (nextOpened d opened a) actions

/-- Does one thing after the other. -/
def run (s : Session) (actions : List Action) : Session :=
  actions.foldl (fun s a => (s.perform a).2) s

/-- The open artifacts, each name with the place of its file. -/
def places (s : Session) : List (String × Location) := s.opened.map fun p => (p.1, p.2.location)

/-- The session works on the disk it was started on, and whatever is open can be written. -/
structure Fits (s : Session) (d : Disk) : Prop where
  frame : d.SameFrame s.disk
  writable : ∀ l ∈ s.places.map Prod.snd, d.get? l = some .full ∨ (s.disk.contents? l).isSome

theorem places_forget (s : Session) (name : String) :
    (s.forget name).places = s.places.filter (·.1 != name) := by
  rw [places, places, List.filter_map]
  rfl

theorem lookup_places (s : Session) (name : String) :
    s.places.lookup name = (s.opened.lookup name).map (·.location) := by
  unfold places
  induction s.opened with
  | nil => rfl
  | cons p opened ih =>
    obtain ⟨name', a⟩ := p
    rw [List.map_cons, List.lookup_cons, List.lookup_cons]
    cases name == name' with
    | true => rfl
    | false => exact ih

theorem fits_start (d : Disk) : (start d).Fits d :=
  ⟨.refl d, by simp [start, places]⟩

/-! ## One action -/

/-- What an action makes of a session. -/
structure Follows (d : Disk) (s : Session) (a : Action) (s' : Session) : Prop where
  frame : d.SameFrame s'.disk
  places : s'.places = nextOpened d s.places a
  contents : ∀ l, d.get? l ≠ some .full →
    s'.disk.contents? l =
      replay (s.disk.contents? l) (if a.place? d s.places = some l then a.changes else [])

section

variable {a : Action} {s' : Session}

theorem Follows.of_unchanged (h : s.Fits d) (hplaces : s'.places = nextOpened d s.places a)
    (hdisk : s'.disk = s.disk)
    (hfull : ∀ l, a.place? d s.places = some l → d.get? l = some .full) : Follows d s a s' := by
  refine ⟨hdisk ▸ h.frame, hplaces, fun l hl => ?_⟩
  have hother : a.place? d s.places ≠ some l := fun hplace => hl (hfull l hplace)
  rw [if_neg hother, hdisk]
  rfl

theorem Follows.of_set {contents : Bytes} (h : s.Fits d)
    (hplaces : s'.places = nextOpened d s.places a) (hl : a.place? d s.places = some l)
    (hfree : s.disk.Replaceable l) (hdisk : s'.disk = s.disk.set l (.file contents))
    (hcontents : replay (s.disk.contents? l) a.changes = some contents) : Follows d s a s' := by
  refine ⟨hdisk ▸ h.frame.set hfree contents, hplaces, fun l' _ => ?_⟩
  rw [hdisk, Disk.contents?_set (Disk.ne_nil_of_get? hfree.ne_directory), hl]
  by_cases heq : l' = l
  · subst heq
    rw [if_pos rfl, if_pos rfl, hcontents]
  · rw [if_neg heq, if_neg fun h => heq (Option.some.inj h).symm]
    rfl

theorem Follows.contents_place (hs : Follows d s a s') (hl : a.place? d s.places = some l)
    (hfull : d.get? l ≠ some .full) :
    s'.disk.contents? l = replay (s.disk.contents? l) a.changes := by
  rw [hs.contents l hfull, if_pos hl]

end

theorem openAs_cases (h : s.Fits d) (name dir stem : String) :
    (d.target? (Artifact.pathIn dir stem) = none ∧
      ∃ failure, s.perform (.openAs name dir stem) = (some (.error failure), s)) ∨
    (∃ l, d.target? (Artifact.pathIn dir stem) = some l ∧ d.get? l = some .full ∧
      s.perform (.openAs name dir stem) = (some (.ok (Artifact.pathIn dir stem)),
        ⟨s.disk, (name, ⟨Artifact.pathIn dir stem, l⟩) :: (s.forget name).opened⟩)) ∨
    ∃ l, d.target? (Artifact.pathIn dir stem) = some l ∧ s.disk.Replaceable l ∧
      s.perform (.openAs name dir stem) = (some (.ok (Artifact.pathIn dir stem)),
        ⟨s.disk.set l (.file []),
          (name, ⟨Artifact.pathIn dir stem, l⟩) :: (s.forget name).opened⟩) := by
  rw [← h.frame.target?_eq]
  unfold perform Artifact.open?
  rcases s.disk.target_cases (Artifact.pathIn dir stem) with
    ⟨cause, hc, ht⟩ | ⟨l, hr, hl, ht⟩ | ⟨l, hr, hl, ht⟩
  · exact Or.inl ⟨ht, .artifact (Artifact.pathIn dir stem) cause, by simp only [hc]⟩
  · exact Or.inr (Or.inl ⟨l, ht, (h.frame.full l).mp hl, by simp only [Disk.create_of_full hr hl]⟩)
  · exact Or.inr (Or.inr ⟨l, ht, hl, by simp only [Disk.create_of_replaceable hr hl]⟩)

theorem follows_openAs (h : s.Fits d) (name dir stem : String) :
    Follows d s (.openAs name dir stem) (s.perform (.openAs name dir stem)).2 := by
  have hplaces : ∀ l, d.target? (Artifact.pathIn dir stem) = some l →
      (name, l) :: (s.forget name).places = nextOpened d s.places (.openAs name dir stem) := by
    intro l ht
    rw [nextOpened, ht, places_forget]
  rcases openAs_cases h name dir stem with ⟨ht, _, hs⟩ | ⟨l, ht, hl, hs⟩ | ⟨l, ht, hl, hs⟩
  · rw [hs]
    refine .of_unchanged h ?_ rfl fun l hl => ?_
    · rw [nextOpened, ht]
    · cases ht.symm.trans hl
  · rw [hs]
    refine .of_unchanged h (hplaces l ht) rfl fun l' hl' => ?_
    obtain rfl := Option.some.inj (ht.symm.trans hl')
    exact hl
  · rw [hs]
    exact .of_set h (hplaces l ht) ht hl rfl rfl

theorem mem_places_of_lookup {name : String} (h : s.places.lookup name = some l) :
    l ∈ s.places.map Prod.snd := by
  obtain ⟨before, after, heq, -⟩ := List.lookup_eq_some_iff.mp h
  rw [heq]
  simp

theorem filter_of_lookup_eq_none {name : String} (h : opened.lookup name = none) :
    opened.filter (·.1 != name) = opened := by
  rw [List.filter_eq_self]
  intro p hp
  rw [bne_comm]
  exact List.lookup_eq_none_iff.mp h p hp

theorem write_cases (h : s.Fits d) (name : String) (pieces : List Bytes) (giveUp : Option String) :
    (s.places.lookup name = none ∧ (s.perform (.write name pieces giveUp)).2 = s) ∨
    (∃ l, s.places.lookup name = some l ∧ d.get? l = some .full ∧
      (s.perform (.write name pieces giveUp)).2 = s.forget name) ∨
    ∃ l old, s.places.lookup name = some l ∧ s.disk.get? l = some (.file old) ∧
      (s.perform (.write name pieces giveUp)).2 =
        ⟨s.disk.set l (.file (Disk.overlay old pieces.flatten)), (s.forget name).opened⟩ := by
  have hlookup := s.lookup_places name
  cases ha : s.opened.lookup name with
  | none =>
    rw [ha] at hlookup
    exact Or.inl ⟨hlookup, by simp only [perform, ha]⟩
  | some a =>
    rw [ha, Option.map_some] at hlookup
    rcases h.writable _ (mem_places_of_lookup hlookup) with hfull | hfile
    · have hwrite := Artifact.disk_write_of_full ((h.frame.full _).mpr hfull) pieces giveUp
      refine Or.inr (Or.inl ⟨_, hlookup, hfull, ?_⟩)
      simp only [perform, ha, hwrite]
      rfl
    · obtain ⟨old, hold⟩ := Option.isSome_iff_exists.mp hfile
      rw [Disk.contents?_eq_some_iff] at hold
      refine Or.inr (Or.inr ⟨_, old, hlookup, hold, ?_⟩)
      simp only [perform, ha, Artifact.write_of_file hold, Disk.overwrite, hold]

theorem follows_write (h : s.Fits d) (name : String) (pieces : List Bytes)
    (giveUp : Option String) :
    Follows d s (.write name pieces giveUp) (s.perform (.write name pieces giveUp)).2 := by
  rcases write_cases h name pieces giveUp with
    ⟨hl, hs⟩ | ⟨l, hl, hfull, hs⟩ | ⟨l, old, hl, hold, hs⟩
  · rw [hs]
    refine .of_unchanged h (filter_of_lookup_eq_none hl).symm rfl fun l hplace => ?_
    cases hl.symm.trans hplace
  · rw [hs]
    refine .of_unchanged h (places_forget s name) rfl fun l' hplace => ?_
    obtain rfl := Option.some.inj (hl.symm.trans hplace)
    exact hfull
  · rw [hs]
    refine .of_set h (places_forget s name) hl (Or.inr ⟨old, hold⟩) rfl ?_
    rw [Disk.contents?_eq_some_iff.mpr hold]
    rfl

theorem follows_drop (h : s.Fits d) (name : String) :
    Follows d s (.drop name) (s.perform (.drop name)).2 :=
  .of_unchanged h (places_forget s name) rfl fun _ hplace => nomatch hplace

theorem generate_cases (h : s.Fits d) (dir : String) (g : Grammar) :
    (d.target? (Artifact.pathIn dir g.stem) = none ∧
      ∃ failure, s.perform (.generate dir g) = (some (.error failure), s)) ∨
    (∃ l, d.target? (Artifact.pathIn dir g.stem) = some l ∧ d.get? l = some .full ∧
      ∃ failure, s.perform (.generate dir g) = (some (.error failure), s)) ∨
    ∃ l, d.target? (Artifact.pathIn dir g.stem) = some l ∧ s.disk.Replaceable l ∧
      s.perform (.generate dir g) = (some (.ok (Artifact.pathIn dir g.stem)),
        { s with disk := s.disk.set l (.file (Text.utf8 g.render)) }) := by
  rw [← h.frame.target?_eq]
  unfold perform
  rcases s.disk.target_cases (Artifact.pathIn dir g.stem) with
    ⟨cause, hc, ht⟩ | ⟨l, hr, hl, ht⟩ | ⟨l, hr, hl, ht⟩
  · exact Or.inl ⟨ht, .artifact (Artifact.pathIn dir g.stem) cause,
      by simp only [Grammar.generate_of_error hc]⟩
  · exact Or.inr (Or.inl ⟨l, ht, (h.frame.full l).mp hl,
      .artifact (Artifact.pathIn dir g.stem) .storageFull,
      by simp only [Grammar.generate_of_full hr hl]⟩)
  · exact Or.inr (Or.inr ⟨l, ht, hl, by simp only [Grammar.generate_of_replaceable hr hl]⟩)

theorem follows_generate (h : s.Fits d) (dir : String) (g : Grammar) :
    Follows d s (.generate dir g) (s.perform (.generate dir g)).2 := by
  rcases generate_cases h dir g with ⟨ht, _, hs⟩ | ⟨l, ht, hfull, _, hs⟩ | ⟨l, ht, hl, hs⟩
  · rw [hs]
    refine .of_unchanged h rfl rfl fun l hl => ?_
    cases ht.symm.trans hl
  · rw [hs]
    refine .of_unchanged h rfl rfl fun l' hl' => ?_
    obtain rfl := Option.some.inj (ht.symm.trans hl')
    exact hfull
  · rw [hs]
    refine .of_set h rfl ht hl rfl ?_
    simp [Action.changes, replay, Change.apply]

theorem follows_perform (h : s.Fits d) (a : Action) : Follows d s a (s.perform a).2 := by
  cases a with
  | openAs name dir stem => exact follows_openAs h name dir stem
  | write name pieces giveUp => exact follows_write h name pieces giveUp
  | drop name => exact follows_drop h name
  | generate dir g => exact follows_generate h dir g

/-! ## Many actions -/

theorem mem_nextOpened {a : Action} (h : l ∈ (nextOpened d opened a).map Prod.snd) :
    l ∈ opened.map Prod.snd ∨ a.place? d opened = some l ∧ a.changes = [.emptied] := by
  have hfilter : ∀ name, l ∈ (opened.filter (·.1 != name)).map Prod.snd →
      l ∈ opened.map Prod.snd :=
    fun name hl => (List.filter_sublist.map Prod.snd).subset hl
  cases a with
  | openAs name dir stem =>
    rw [nextOpened] at h
    cases ht : d.target? (Artifact.pathIn dir stem) with
    | none =>
      rw [ht] at h
      exact Or.inl h
    | some l' =>
      rw [ht, List.map_cons, List.mem_cons] at h
      rcases h with rfl | h
      · exact Or.inr ⟨ht, rfl⟩
      · exact Or.inl (hfilter name h)
  | write name pieces giveUp => exact Or.inl (hfilter name h)
  | drop name => exact Or.inl (hfilter name h)
  | generate dir g => exact Or.inl h

theorem Follows.fits {s' : Session} {a : Action} (h : s.Fits d) (hs : Follows d s a s') :
    s'.Fits d := by
  refine ⟨hs.frame, fun l hl => Decidable.or_iff_not_imp_left.mpr fun hfull => ?_⟩
  rw [hs.places] at hl
  rcases mem_nextOpened hl with hl | ⟨hplace, hchanges⟩
  · rw [hs.contents l hfull]
    exact isSome_replay ((h.writable l hl).resolve_left hfull) _
  · rw [hs.contents_place hplace hfull, hchanges]
    rfl

theorem run_fits (h : s.Fits d) (actions : List Action) : (s.run actions).Fits d := by
  induction actions generalizing s with
  | nil => exact h
  | cons a actions ih => exact ih ((follows_perform h a).fits h)

theorem places_run (h : s.Fits d) (actions : List Action) :
    (s.run actions).places = actions.foldl (nextOpened d) s.places := by
  induction actions generalizing s with
  | nil => rfl
  | cons a actions ih =>
    have hs := follows_perform h a
    rw [List.foldl_cons, ← hs.places]
    exact ih (hs.fits h)

theorem contents_run (h : s.Fits d) (hl : d.get? l ≠ some .full) (actions : List Action) :
    (s.run actions).disk.contents? l =
      replay (s.disk.contents? l) (history d l s.places actions) := by
  induction actions generalizing s with
  | nil => rfl
  | cons a actions ih =>
    have hs := follows_perform h a
    rw [history, replay_append, ← hs.contents l hl, ← hs.places]
    exact ih (hs.fits h)

/-! ## Success -/

/-- Something was opened or written, and the answer is its path. -/
def Succeeds (answer : Option (Except Failure String)) : Prop := ∃ path, answer = some (.ok path)

theorem openAs_succeeds_iff (h : s.Fits d) (name dir stem : String) :
    Succeeds (s.perform (.openAs name dir stem)).1 ↔
      ∃ l, d.target? (Artifact.pathIn dir stem) = some l := by
  rcases openAs_cases h name dir stem with ⟨ht, failure, hs⟩ | ⟨l, ht, -, hs⟩ | ⟨l, ht, -, hs⟩
  · simp [Succeeds, hs, ht]
  · simp [Succeeds, hs, ht]
  · simp [Succeeds, hs, ht]

theorem generate_succeeds_iff (h : s.Fits d) (dir : String) (g : Grammar) :
    Succeeds (s.perform (.generate dir g)).1 ↔
      ∃ l, d.target? (Artifact.pathIn dir g.stem) = some l ∧ d.get? l ≠ some .full := by
  rcases generate_cases h dir g with
    ⟨ht, failure, hs⟩ | ⟨l, ht, hfull, failure, hs⟩ | ⟨l, ht, hl, hs⟩
  · simp [Succeeds, hs, ht]
  · simp [Succeeds, hs, ht, hfull]
  · have hfull : d.get? l ≠ some .full := by
      rw [ne_eq, ← h.frame.full]
      exact (Disk.replaceable_iff.mp hl).2
    simp [Succeeds, hs, ht, hfull]

section

variable {dir : String}

theorem read_generate (h : s.Fits d) {g : Grammar}
    (ht : d.target? (Artifact.pathIn dir g.stem) = some l) (hl : d.get? l ≠ some .full) :
    (s.perform (.generate dir g)).2.disk.read (Artifact.pathIn dir g.stem) =
      .ok (Text.utf8 g.render) := by
  have hs := follows_perform h (.generate dir g)
  have hcontents := hs.contents_place ht hl
  refine Disk.read_of_target? ((hs.frame.target?_eq _).trans ht) (hcontents.trans ?_)
  simp [Action.changes, replay, Change.apply]

theorem read_openAs_write (h : s.Fits d) {stem : String}
    (ht : d.target? (Artifact.pathIn dir stem) = some l) (hl : d.get? l ≠ some .full)
    (name : String) (pieces : List Bytes) (giveUp : Option String) :
    ((s.perform (.openAs name dir stem)).2.perform (.write name pieces giveUp)).2.disk.read
      (Artifact.pathIn dir stem) = .ok pieces.flatten := by
  have hopen := follows_perform h (.openAs name dir stem)
  have hwrite := follows_perform (hopen.fits h) (.write name pieces giveUp)
  have hplaces : (s.perform (.openAs name dir stem)).2.places.lookup name = some l := by
    rw [hopen.places, nextOpened, ht]
    exact List.lookup_cons_self
  have hcontents := hwrite.contents_place hplaces hl
  rw [hopen.contents_place ht hl] at hcontents
  refine Disk.read_of_target? ((hwrite.frame.target?_eq _).trans ht) (hcontents.trans ?_)
  simp [Action.changes, replay, Change.apply]

end

/-! ## The files of a run -/

/-- At any moment of a run each file holds what its own changes make of its first contents, and
everything but files is as it was. The changes are those of the openings and generations that
succeed and of the writes, given up or not. -/
theorem run_replays (d : Disk) (actions : List Action) :
    let s := (start d).run actions
    (∀ l, d.get? l ≠ some .full →
      s.disk.contents? l = replay (d.contents? l) (history d l [] actions)) ∧
    d.SameFrame s.disk ∧ s.places = actions.foldl (nextOpened d) [] ∧
    (∀ name dir stem, Succeeds (s.perform (.openAs name dir stem)).1 ↔
      ∃ l, d.target? (Artifact.pathIn dir stem) = some l) ∧
    (∀ dir g, Succeeds (s.perform (.generate dir g)).1 ↔
      ∃ l, d.target? (Artifact.pathIn dir g.stem) = some l ∧ d.get? l ≠ some .full) ∧
    (∀ dir g, Succeeds (s.perform (.generate dir g)).1 →
      (s.perform (.generate dir g)).2.disk.read (Artifact.pathIn dir g.stem) =
        .ok (Text.utf8 g.render)) ∧
    ∀ name dir stem pieces giveUp l,
      d.target? (Artifact.pathIn dir stem) = some l → d.get? l ≠ some .full →
      ((s.perform (.openAs name dir stem)).2.perform (.write name pieces giveUp)).2.disk.read
        (Artifact.pathIn dir stem) = .ok pieces.flatten := by
  intro s
  have hs : s.Fits d := run_fits (fits_start d) actions
  refine ⟨fun l hl => contents_run (fits_start d) hl actions, hs.frame,
    places_run (fits_start d) actions, openAs_succeeds_iff hs, generate_succeeds_iff hs, ?_, ?_⟩
  · intro dir g hsucceeds
    obtain ⟨l, ht, hl⟩ := (generate_succeeds_iff hs dir g).mp hsucceeds
    exact read_generate hs ht hl
  · intro name dir stem pieces giveUp l ht hl
    exact read_openAs_write hs ht hl name pieces giveUp

/-- A working directory with one file. -/
def desk : Disk :=
  ⟨[(["work"], .directory), (["work", "expr.rs"], .file (Text.utf8 "old"))], ["work"]⟩

/-- The file is opened twice before anything is written, and the one who opened it first writes last
and gives up. -/
def overlapping : List Action :=
  [.openAs "first" "." "expr", .openAs "second" "/work" "expr",
    .write "second" [Text.utf8 "whole ", Text.utf8 "module"] none,
    .write "first" [Text.utf8 "half"] (some "gave up")]

/-- The end of one text is left behind the other, until the file is opened again. -/
theorem run_replays_overlapping :
    let s := (start desk).run overlapping
    s.disk.contents? ["work", "expr.rs"] = some (Text.utf8 "halfe module") ∧
      (s.perform (.generate "." Preset.expr.grammar)).2.disk.read
        (Artifact.pathIn "." Preset.expr.grammar.stem) =
          .ok (Text.utf8 Preset.expr.grammar.render) ∧
      ((s.perform (.openAs "third" "." "expr")).2.perform
        (.write "third" [Text.utf8 "new"] none)).2.disk.read (Artifact.pathIn "." "expr") =
          .ok [Text.utf8 "new"].flatten := by
  obtain ⟨hcontents, -, -, -, hsucceeds, hgenerate, hwrite⟩ := run_replays desk overlapping
  have hl : desk.get? ["work", "expr.rs"] ≠ some .full := by decide
  have ht : desk.target? (Artifact.pathIn "." "expr") = some ["work", "expr.rs"] := by decide
  refine ⟨?_, ?_, ?_⟩
  · rw [hcontents _ hl]
    decide
  · exact hgenerate _ _ ((hsucceeds _ _).mpr ⟨_, ht, hl⟩)
  · exact hwrite _ _ _ _ _ _ ht hl

end Session

end NodeFamilies
