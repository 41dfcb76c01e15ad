import NodeFamilies.Check
import NodeFamilies.Proofs.Generating

/-!
# Where a module is written

The path of a module is made of a directory and a stem. A stem without a slash names a file in that
directory. Any other stem is a path of its own: it can lead out of the directory, and an absolute one
has nothing to do with it.
-/

namespace NodeFamilies

/-! ## Steps -/

namespace Path

theorem splitSlashes_ne_nil (s : List Char) : splitSlashes s ≠ [] := by
  cases s with
  | nil => simp [splitSlashes]
  | cons c s =>
    unfold splitSlashes
    split
    · simp
    · split <;> simp

theorem splitSlashes_append_slash (s t : List Char) :
    splitSlashes (s ++ '/' :: t) = splitSlashes s ++ splitSlashes t := by
  induction s with
  | nil => simp [splitSlashes]
  | cons c s ih =>
    rw [List.cons_append, splitSlashes, splitSlashes, ih]
    by_cases hc : c = '/'
    · simp [hc]
    · obtain ⟨part, parts, hs⟩ := List.exists_cons_of_ne_nil (splitSlashes_ne_nil s)
      simp [hc, hs]

theorem splitSlashes_of_notMem {s : List Char} (h : '/' ∉ s) : splitSlashes s = [s] := by
  induction s with
  | nil => rfl
  | cons c s ih =>
    rw [List.mem_cons, not_or] at h
    rw [splitSlashes, if_neg (Ne.symm h.1), ih h.2]

theorem steps_ne_nil (path : String) : steps path ≠ [] := by
  simp [steps, splitSlashes_ne_nil]

theorem steps_append_slash (path rest : String) :
    steps (path ++ "/" ++ rest) = steps path ++ steps rest := by
  simp [steps, splitSlashes_append_slash]

theorem steps_of_notMem {path : String} (h : '/' ∉ path.toList) : steps path = [path] := by
  simp [steps, splitSlashes_of_notMem h]

theorem join_cases (dir : String) {rest : String} (h : isAbsolute rest = false) :
    (dir = "" ∧ join dir rest = rest) ∨
      (∃ dir', dir = dir' ++ "/" ∧ join dir rest = dir' ++ "/" ++ rest) ∨
      (dir ≠ "" ∧ join dir rest = dir ++ "/" ++ rest) := by
  have hrest : ¬ rest.toList.head? = some '/' := by simpa [isAbsolute] using h
  unfold join
  rw [if_neg hrest]
  by_cases hempty : dir = ""
  · simp [hempty]
  by_cases hlast : dir.toList.getLast? = some '/'
  · obtain ⟨cs, hcs⟩ := List.getLast?_eq_some_iff.mp hlast
    have hdir : dir = String.ofList cs ++ "/" := by
      simp [← String.toList_inj, hcs]
    exact Or.inr (Or.inl ⟨String.ofList cs, hdir, by simp [hdir]⟩)
  · simp [hempty, hlast]

theorem exists_join_eq_append (dir : String) {rest : String} (h : isAbsolute rest = false) :
    ∃ tail, join dir rest = dir ++ tail := by
  rcases join_cases dir h with ⟨rfl, hjoin⟩ | ⟨dir', rfl, hjoin⟩ | ⟨-, hjoin⟩
  · exact ⟨rest, by simp [hjoin]⟩
  · exact ⟨rest, hjoin⟩
  · exact ⟨"/" ++ rest, by rw [hjoin, String.append_assoc]⟩

theorem isAbsolute_append {path : String} (h : path ≠ "") (rest : String) :
    isAbsolute (path ++ rest) = isAbsolute path := by
  have hne : path.toList ≠ [] := by simpa using h
  obtain ⟨c, cs, hcs⟩ := List.exists_cons_of_ne_nil hne
  simp [isAbsolute, hcs]

theorem isAbsolute_join (dir : String) {rest : String} (h : isAbsolute rest = false) :
    isAbsolute (join dir rest) = isAbsolute dir := by
  rcases join_cases dir h with ⟨rfl, hjoin⟩ | ⟨dir', rfl, hjoin⟩ | ⟨hdir, hjoin⟩
  · rw [hjoin, h]
    rfl
  · rw [hjoin, isAbsolute_append]
    simp
  · rw [hjoin, String.append_assoc, isAbsolute_append hdir]

end Path

namespace Disk

variable {d : Disk} {l l' : Location}

theorem follow_append (d : Disk) (l : Location) (names rest : List String) :
    d.follow l (names ++ rest) = d.follow l names >>= fun l' => d.follow l' rest := by
  induction names generalizing l with
  | nil => rfl
  | cons name names ih =>
    rw [List.cons_append, follow, follow]
    cases d.step l name with
    | error cause => rfl
    | ok l₁ => exact ih l₁

theorem step_empty (h : d.get? l = some .directory) : d.step l "" = .ok l := by
  simp [step, h]

theorem follow_empty (d : Disk) (l : Location) {names : List String} (h : names ≠ []) :
    d.follow l ("" :: names) = d.follow l names := by
  obtain ⟨name, rest, rfl⟩ := List.exists_cons_of_ne_nil h
  rw [follow, follow]
  by_cases hdir : d.get? l = some .directory
  · rw [step_empty hdir]
    rfl
  · -- Where no directory is, every step fails in the same way.
    have hstep : d.step l "" = d.step l name := by
      unfold step
      split
      · contradiction
      · rfl
      · rfl
    rw [hstep]
    cases hname : d.step l name with
    | error cause => rfl
    | ok l₁ => exact absurd (directory_of_step hname) hdir

theorem follow_join (d : Disk) (dir : String) {rest : String} (h : Path.isAbsolute rest = false) :
    d.follow (d.start (Path.join dir rest)) (Path.steps (Path.join dir rest)) =
      d.follow (d.start dir) (Path.steps dir) >>= fun l => d.follow l (Path.steps rest) := by
  have hstart : d.start (Path.join dir rest) = d.start dir := by
    rw [start, start, Path.isAbsolute_join dir h]
  rw [hstart, ← follow_append]
  rcases Path.join_cases dir h with ⟨rfl, hjoin⟩ | ⟨dir', rfl, hjoin⟩ | ⟨-, hjoin⟩
  · rw [hjoin]
    exact (d.follow_empty _ (Path.steps_ne_nil rest)).symm
  · have hsteps : Path.steps (dir' ++ "/") = Path.steps dir' ++ [""] := by
      have h := Path.steps_append_slash dir' ""
      rwa [String.append_empty] at h
    rw [hjoin, hsteps, Path.steps_append_slash, List.append_assoc, follow_append, follow_append]
    congr 1
    funext l
    exact (d.follow_empty l (Path.steps_ne_nil rest)).symm
  · rw [hjoin, Path.steps_append_slash]

/-! ## Directories -/

/-- The directory at the end of a path. The empty path stands for the working directory. -/
def directory? (d : Disk) (path : String) : Option Location :=
  match d.resolve (if path = "" then "." else path) with
  | .ok l => if d.get? l = some .directory then some l else none
  | .error _ => none

theorem directory?_eq_some_iff {path : String} :
    d.directory? path = some l ↔
      d.resolve (if path = "" then "." else path) = .ok l ∧ d.get? l = some .directory := by
  unfold directory?
  cases d.resolve (if path = "" then "." else path) with
  | error cause => simp
  | ok l₁ =>
    by_cases h : d.get? l₁ = some .directory
    · simp only [h, if_true, Option.some.injEq, Except.ok.injEq]
      constructor
      · rintro rfl
        exact ⟨rfl, h⟩
      · exact And.left
    · simp only [h, if_false, reduceCtorEq, Except.ok.injEq, false_iff]
      rintro ⟨rfl, hl⟩
      exact h hl

theorem directory_of_follow {names : List String} (hn : names ≠ []) (h : d.follow l names = .ok l') :
    d.get? l = some .directory := by
  obtain ⟨name, rest, rfl⟩ := List.exists_cons_of_ne_nil hn
  rw [follow] at h
  cases hstep : d.step l name with
  | error cause =>
    rw [hstep] at h
    cases h
  | ok l₁ => exact directory_of_step hstep

theorem resolve_dot (d : Disk) : d.resolve "." = d.follow (d.start "") (Path.steps "") := by
  have hstep : d.step d.working "." = d.step d.working "" := by simp [step]
  change (do d.follow (← d.step d.working ".") []) = do d.follow (← d.step d.working "") []
  rw [hstep]

theorem exists_directory_of_resolve_join {dir rest : String} (hrest : Path.isAbsolute rest = false)
    (h : d.resolve (Path.join dir rest) = .ok l') :
    ∃ l, d.directory? dir = some l ∧ d.follow l (Path.steps rest) = .ok l' := by
  obtain ⟨hnul, -, hlong, hfollow⟩ := resolve_eq_ok_iff.mp h
  rw [follow_join d dir hrest] at hfollow
  obtain ⟨l, hdir, hname⟩ : ∃ l, d.follow (d.start dir) (Path.steps dir) = .ok l ∧
      d.follow l (Path.steps rest) = .ok l' := by
    cases hd : d.follow (d.start dir) (Path.steps dir) with
    | error cause =>
      rw [hd] at hfollow
      cases hfollow
    | ok l =>
      rw [hd] at hfollow
      exact ⟨l, rfl, hfollow⟩
  have hl := directory_of_follow (Path.steps_ne_nil rest) hname
  refine ⟨l, directory?_eq_some_iff.mpr ⟨?_, hl⟩, hname⟩
  by_cases hempty : dir = ""
  · subst hempty
    rw [if_pos rfl, resolve_dot]
    exact hdir
  · obtain ⟨tail, hjoin⟩ := Path.exists_join_eq_append dir hrest
    rw [hjoin, String.toList_append, List.mem_append, not_or] at hnul
    rw [hjoin, String.utf8ByteSize_append] at hlong
    rw [if_neg hempty, resolve_eq_ok_iff]
    exact ⟨hnul.1, hempty, by omega, hdir⟩

end Disk

/-! ## The file of a module -/

namespace Artifact

theorem isAbsolute_fileName (stem : String) :
    Path.isAbsolute (stem ++ ".rs") = Path.isAbsolute stem := by
  by_cases h : stem = ""
  · subst h
    rfl
  · exact Path.isAbsolute_append h _

theorem isAbsolute_of_notMem {stem : String} (h : '/' ∉ stem.toList) :
    Path.isAbsolute stem = false := by
  unfold Path.isAbsolute
  rw [decide_eq_false_iff_not]
  intro hhead
  exact h (List.mem_of_head? hhead)

theorem slash_notMem_fileName {stem : String} (h : '/' ∉ stem.toList) :
    '/' ∉ (stem ++ ".rs").toList := by
  simp [h]

theorem step_fileName {d : Disk} {l l' : Location} {stem : String}
    (h : d.step l (stem ++ ".rs") = .ok l') : l' = l ++ [stem ++ ".rs"] := by
  -- The extension tells the name of a module from the steps that lead to no new place.
  have hne : ∀ name : String, name.toList.getLast? ≠ some 's' → stem ++ ".rs" ≠ name := by
    rintro name hlast rfl
    simp at hlast
  unfold Disk.step at h
  split at h
  · rw [if_neg (by simp [hne "." (by decide)]), if_neg (hne ".." (by decide))] at h
    split at h
    · cases h
    · exact (Except.ok.inj h).symm
  · cases h
  · cases h

end Artifact

namespace Grammar

variable {g : Grammar} {d : Disk} {dir : String}

theorem generate_of_absolute (h : Path.isAbsolute g.stem = true) (d : Disk) (dir dir' : String) :
    g.generate d dir = g.generate d dir' := by
  rw [← Artifact.isAbsolute_fileName, Path.isAbsolute, decide_eq_true_eq] at h
  have hpath : ∀ dir, Artifact.pathIn dir g.stem = g.stem ++ ".rs" := by
    intro dir
    rw [Artifact.pathIn, Path.join, if_pos h]
  unfold generate Artifact.open?
  rw [hpath, hpath]

theorem generate_of_no_directory (hstem : Path.isAbsolute g.stem = false)
    (hdir : d.directory? dir = none) :
    ∃ cause, g.generate d dir = (.error (.artifact (Artifact.pathIn dir g.stem) cause), d) := by
  rw [← Artifact.isAbsolute_fileName] at hstem
  cases hr : d.resolve (Artifact.pathIn dir g.stem) with
  | error cause => exact ⟨cause, generate_of_error (by rw [Disk.create, hr]; rfl)⟩
  | ok l =>
    obtain ⟨l₀, hl₀, -⟩ := Disk.exists_directory_of_resolve_join hstem hr
    rw [hdir] at hl₀
    cases hl₀

theorem exists_directory_of_generate_eq_ok (hstem : Path.isAbsolute g.stem = false)
    {path : String} (h : (g.generate d dir).1 = .ok path) :
    ∃ l l', d.directory? dir = some l ∧ d.follow l (Path.steps (g.stem ++ ".rs")) = .ok l' ∧
      (g.generate d dir).2 = d.set l' (.file (Text.utf8 g.render)) := by
  obtain ⟨l', hr, -, hafter⟩ := exists_place_of_generate_eq_ok h
  rw [← Artifact.isAbsolute_fileName] at hstem
  obtain ⟨l, hl, hfollow⟩ := Disk.exists_directory_of_resolve_join hstem hr
  exact ⟨l, l', hl, hfollow, hafter⟩

theorem exists_entry_of_generate_eq_ok (hstem : '/' ∉ g.stem.toList) {path : String}
    (h : (g.generate d dir).1 = .ok path) :
    ∃ l, d.directory? dir = some l ∧ '/' ∉ (g.stem ++ ".rs").toList ∧
      (g.generate d dir).2 = d.set (l ++ [g.stem ++ ".rs"]) (.file (Text.utf8 g.render)) := by
  -- Without a slash the stem takes a single step.
  obtain ⟨l, l', hl, hfollow, hafter⟩ :=
    exists_directory_of_generate_eq_ok (Artifact.isAbsolute_of_notMem hstem) h
  have hname := Artifact.slash_notMem_fileName hstem
  rw [Path.steps_of_notMem hname, Disk.follow] at hfollow
  cases hstep : d.step l (g.stem ++ ".rs") with
  | error cause =>
    rw [hstep] at hfollow
    cases hfollow
  | ok l₁ =>
    rw [hstep] at hfollow
    obtain rfl : l₁ = l' := Except.ok.inj hfollow
    exact ⟨l, hl, hname, by rw [hafter, Artifact.step_fileName hstep]⟩

/-- An absolute stem does not care for the directory. Any other stem is a path from the directory
on, and nothing happens if that is missing. Without a slash in the stem the file is right in the
directory. -/
theorem generate_place (g : Grammar) (d : Disk) (dir : String) :
    (Path.isAbsolute g.stem = true → ∀ dir', g.generate d dir = g.generate d dir') ∧
    (Path.isAbsolute g.stem = false → d.directory? dir = none →
      ∃ cause, g.generate d dir = (.error (.artifact (Artifact.pathIn dir g.stem) cause), d)) ∧
    (Path.isAbsolute g.stem = false → ∀ path, (g.generate d dir).1 = .ok path →
      ∃ l l', d.directory? dir = some l ∧ d.follow l (Path.steps (g.stem ++ ".rs")) = .ok l' ∧
        (g.generate d dir).2 = d.set l' (.file (Text.utf8 g.render))) ∧
    ('/' ∉ g.stem.toList → ∀ path, (g.generate d dir).1 = .ok path →
      ∃ l, d.directory? dir = some l ∧ '/' ∉ (g.stem ++ ".rs").toList ∧
        (g.generate d dir).2 = d.set (l ++ [g.stem ++ ".rs"]) (.file (Text.utf8 g.render))) :=
  ⟨fun h => generate_of_absolute h d dir, generate_of_no_directory,
    fun h _ => exists_directory_of_generate_eq_ok h, fun h _ => exists_entry_of_generate_eq_ok h⟩

/-- A disk with one directory to write into. -/
def office : Disk := ⟨[(["work"], .directory), (["work", "out"], .directory)], ["work"]⟩

/-- The preset of expressions under another stem. -/
def stray (stem : String) : Grammar := { Preset.expr.grammar with stem := stem }

theorem stray_generate {stem dir : String} {l : Location}
    (hr : office.resolve (Artifact.pathIn dir stem) = .ok l) (hl : office.get? l = none) :
    (stray stem).generate office dir =
      (.ok (Artifact.pathIn dir stem),
        office.set l (.file (Text.utf8 (stray stem).render))) :=
  generate_of_replaceable (g := stray stem) hr (Or.inl hl)

theorem generate_place_office :
    (stray "/stray").generate office "nowhere" = (stray "/stray").generate office "out" ∧
    (∃ cause, (stray "sub/stray").generate office "nowhere" =
      (.error (.artifact "nowhere/sub/stray.rs" cause), office)) ∧
    (∃ l l', office.directory? "out" = some l ∧
      office.follow l (Path.steps "../stray.rs") = .ok l' ∧
      ((stray "../stray").generate office "out").2 =
        office.set l' (.file (Text.utf8 (stray "../stray").render))) ∧
    ∃ l, office.directory? "out" = some l ∧ '/' ∉ "stray.rs".toList ∧
      ((stray "stray").generate office "out").2 =
        office.set (l ++ ["stray.rs"]) (.file (Text.utf8 (stray "stray").render)) := by
  have hup : office.resolve (Artifact.pathIn "out" "../stray") = .ok ["work", "stray.rs"] := by
    rfl
  have hin : office.resolve (Artifact.pathIn "out" "stray") = .ok ["work", "out", "stray.rs"] := by
    rfl
  refine ⟨?_, ?_, ?_, ?_⟩
  · exact (generate_place (stray "/stray") office "nowhere").1 (by decide) "out"
  · exact (generate_place (stray "sub/stray") office "nowhere").2.1 (by decide) (by decide)
  · exact (generate_place (stray "../stray") office "out").2.2.1 (by decide) _
      (congrArg Prod.fst (stray_generate hup (by decide)))
  · exact (generate_place (stray "stray") office "out").2.2.2 (by decide) _
      (congrArg Prod.fst (stray_generate hin (by decide)))

/-- Neither stem is a problem of the grammar. One leads to a file beside the directory, the other to
a file at the top although there is no directory. -/
theorem generate_escapes :
    (stray "../stray").check = [] ∧ (stray "/stray").check = [] ∧
      office.directory? "out" = some ["work", "out"] ∧
      (stray "../stray").generate office "out" = (.ok "out/../stray.rs",
        office.set ["work", "stray.rs"] (.file (Text.utf8 (stray "../stray").render))) ∧
      office.directory? "nowhere" = none ∧
      (stray "/stray").generate office "nowhere" = (.ok "/stray.rs",
        office.set ["stray.rs"] (.file (Text.utf8 (stray "/stray").render))) := by
  have hup : office.resolve (Artifact.pathIn "out" "../stray") = .ok ["work", "stray.rs"] := by
    rfl
  have htop : office.resolve (Artifact.pathIn "nowhere" "/stray") = .ok ["stray.rs"] := by
    rfl
  exact ⟨by decide, by decide, by decide, stray_generate hup (by decide), by decide,
    stray_generate htop (by decide)⟩

end Grammar

end NodeFamilies
