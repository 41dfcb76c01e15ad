import NodeFamilies.Artifact
import NodeFamilies.Grammar.Preset
import NodeFamilies.Proofs.Buffers
import NodeFamilies.Proofs.Disks

/-!
# Generating replaces one file or does nothing
-/

namespace NodeFamilies

open Disk

/-- The path leads to a place without a file or with any file, where a file of these bytes is
afterwards. No other place has changed. -/
structure Disk.Replaced (d after : Disk) (path : String) (contents : Bytes) : Prop where
  read : after.read path = .ok contents
  place : ∃ l, d.resolve path = .ok l ∧ d.Replaceable l ∧ after.get? l = some (.file contents) ∧
    ∀ l', l' ≠ l → after.get? l' = d.get? l'
  working : after.working = d.working

/-- The results of generating, each with the disk it leaves. -/
inductive Grammar.Generated (g : Grammar) (d : Disk) (path : String) :
    Except Failure String → Disk → Prop where
  | replaced {after : Disk} : d.Replaced after path (Text.utf8 g.render) →
      Generated g d path (.ok path) after
  | unopened {cause : FileError} : d.create path = .error cause →
      Generated g d path (.error (.artifact path cause)) d
  | refused {l : Location} : d.resolve path = .ok l → d.get? l = some .full →
      Generated g d path (.error (.artifact path .storageFull)) d

/-! ## The bytes -/

theorem Grammar.flatten_pieces (g : Grammar) :
    (g.pieces.map Text.utf8).flatten = Text.utf8 g.render := by
  rw [Grammar.render, Text.utf8_join]

theorem Grammar.utf8_render_ne_nil (g : Grammar) : Text.utf8 g.render ≠ [] := by
  intro h
  rw [← g.flatten_pieces, List.flatten_eq_nil_iff] at h
  have hmem : "use " ∈ g.pieces := by simp [Grammar.pieces, preludePieces]
  exact absurd (h _ (List.mem_map_of_mem hmem)) (by decide)

/-! ## The disk -/

theorem Disk.set_replaced {d : Disk} {path : String} {l : Location} (hr : d.resolve path = .ok l)
    (h : d.Replaceable l) (contents : Bytes) :
    d.Replaced (d.set l (.file contents)) path contents := by
  have hnil : l ≠ [] := ne_nil_of_get? h.ne_directory
  have hget : (d.set l (.file contents)).get? l = some (.file contents) := get?_set_self hnil _
  refine ⟨?_, ⟨l, hr, h, hget, fun l' hne => get?_set_of_ne hnil _ hne⟩, rfl⟩
  rw [Disk.read, resolve_set h.ne_directory _ hr]
  simp [bind, Except.bind, hget]

/-! ## The open file -/

namespace Artifact

variable {a : Artifact} {d : Disk}

theorem result_write (a : Artifact) (d : Disk) (pieces : List Bytes) (giveUp : Option String) :
    (a.write d pieces giveUp).1 =
      match ((a.buffer d).writeThrough pieces giveUp).2 with
      | none => .ok a.path
      | some cause => .error (.artifact a.path cause) :=
  rfl

theorem disk_write_of_full (ha : d.get? a.location = some .full) (pieces : List Bytes)
    (giveUp : Option String) : (a.write d pieces giveUp).2 = d := by
  unfold write Disk.overwrite
  simp only [ha]

theorem write_of_full {pieces : List Bytes} (ha : d.get? a.location = some .full)
    (hp : pieces.flatten ≠ []) :
    a.write d pieces none = (.error (.artifact a.path .storageFull), d) := by
  have hrefusing : (a.buffer d).accepting = false := by simp [buffer, ha]
  have hfailed := Buffered.writeThrough_of_refusing hrefusing hp
  apply Prod.ext ?_ (disk_write_of_full ha pieces none)
  rw [result_write, hfailed]

theorem write_of_file {contents : Bytes} (ha : d.get? a.location = some (.file contents))
    (pieces : List Bytes) (giveUp : Option String) :
    a.write d pieces giveUp =
      (match giveUp with
        | none => .ok a.path
        | some reason => .error (.artifact a.path (.interrupted reason)),
        d.overwrite a.location pieces.flatten) := by
  have haccepting : (a.buffer d).accepting = true := by simp [buffer, ha]
  obtain ⟨b, hwrite, hsent⟩ := Buffered.writeThrough_of_accepting haccepting pieces giveUp
  unfold write
  rw [hwrite]
  dsimp only
  rw [hsent]
  cases giveUp <;> rfl

end Artifact

/-! ## Generating -/

namespace Grammar

section

variable {g : Grammar} {d : Disk} {dir : String} {l : Location}

theorem generate_of_error {cause : FileError}
    (h : d.create (Artifact.pathIn dir g.stem) = .error cause) :
    g.generate d dir = (.error (.artifact (Artifact.pathIn dir g.stem) cause), d) := by
  rw [generate, Artifact.open?, h]

theorem generate_of_full (hr : d.resolve (Artifact.pathIn dir g.stem) = .ok l)
    (hl : d.get? l = some .full) :
    g.generate d dir = (.error (.artifact (Artifact.pathIn dir g.stem) .storageFull), d) := by
  rw [generate, Artifact.open?, create_of_full hr hl]
  apply Artifact.write_of_full hl
  rw [g.flatten_pieces]
  exact g.utf8_render_ne_nil

theorem generate_of_replaceable (hr : d.resolve (Artifact.pathIn dir g.stem) = .ok l)
    (hl : d.Replaceable l) :
    g.generate d dir =
      (.ok (Artifact.pathIn dir g.stem), d.set l (.file (Text.utf8 g.render))) := by
  have hnil : l ≠ [] := ne_nil_of_get? hl.ne_directory
  have hempty : (d.set l (.file [])).get? l = some (.file []) := get?_set_self hnil _
  rw [generate, Artifact.open?, create_of_replaceable hr hl]
  dsimp only
  rw [Artifact.write_of_file hempty, g.flatten_pieces, overwrite_set_empty hnil]

theorem generated_generate (g : Grammar) (d : Disk) (dir : String) :
    g.Generated d (Artifact.pathIn dir g.stem) (g.generate d dir).1 (g.generate d dir).2 := by
  rcases d.create_cases (Artifact.pathIn dir g.stem) with ⟨cause, h⟩ | ⟨l, hr, hl⟩ | ⟨l, hr, hl⟩
  · rw [generate_of_error h]
    exact .unopened h
  · rw [generate_of_full hr hl]
    exact .refused hr hl
  · rw [generate_of_replaceable hr hl]
    exact .replaced (set_replaced hr hl _)

theorem exists_place_of_generate_eq_ok {path : String} (h : (g.generate d dir).1 = .ok path) :
    ∃ l, d.resolve (Artifact.pathIn dir g.stem) = .ok l ∧ d.Replaceable l ∧
      (g.generate d dir).2 = d.set l (.file (Text.utf8 g.render)) := by
  rcases d.create_cases (Artifact.pathIn dir g.stem) with ⟨cause, hc⟩ | ⟨l, hr, hl⟩ | ⟨l, hr, hl⟩
  · rw [generate_of_error hc] at h
    cases h
  · rw [generate_of_full hr hl] at h
    cases h
  · exact ⟨l, hr, hl, by rw [generate_of_replaceable hr hl]⟩

theorem read_of_generate_eq_ok {path : String} (h : (g.generate d dir).1 = .ok path) :
    (g.generate d dir).2.read (Artifact.pathIn dir g.stem) = .ok (Text.utf8 g.render) := by
  obtain ⟨l, hr, hl, hafter⟩ := exists_place_of_generate_eq_ok h
  rw [hafter]
  exact (Disk.set_replaced hr hl _).read

theorem generate_set (hr : d.resolve (Artifact.pathIn dir g.stem) = .ok l) (hl : d.Replaceable l)
    (contents : Bytes) : g.generate (d.set l (.file contents)) dir = g.generate d dir := by
  have hnil : l ≠ [] := ne_nil_of_get? hl.ne_directory
  have hr' := resolve_set hl.ne_directory (.file contents) hr
  rw [generate_of_replaceable hr' (replaceable_set hnil contents), generate_of_replaceable hr hl,
    set_set]

end

/-- Generating replaces one file or leaves the disk as it is, and what was generated before onto
the same path does not matter. -/
theorem generate_replaces (g : Grammar) (d : Disk) (dir : String) :
    g.Generated d (Artifact.pathIn dir g.stem) (g.generate d dir).1 (g.generate d dir).2 ∧
      g.generate (g.generate d dir).2 dir = g.generate d dir ∧
      ∀ (g' : Grammar) (dir' : String), Artifact.pathIn dir' g'.stem = Artifact.pathIn dir g.stem →
        g'.generate (g.generate d dir).2 dir' = g'.generate d dir' := by
  rcases d.create_cases (Artifact.pathIn dir g.stem) with ⟨cause, h⟩ | ⟨l, hr, hl⟩ | ⟨l, hr, hl⟩
  · rw [generate_of_error h]
    exact ⟨.unopened h, generate_of_error h, fun _ _ _ => rfl⟩
  · rw [generate_of_full hr hl]
    exact ⟨.refused hr hl, generate_of_full hr hl, fun _ _ _ => rfl⟩
  · refine ⟨?_, ?_, fun g' dir' hpath => ?_⟩
    · rw [generate_of_replaceable hr hl]
      exact .replaced (set_replaced hr hl _)
    · rw [generate_of_replaceable hr hl, generate_set hr hl, generate_of_replaceable hr hl]
    · rw [generate_of_replaceable hr hl]
      exact generate_set (hpath ▸ hr) hl _

/-- A slash at the end of the directory makes no other path, so the second module is all there
is. -/
theorem generate_replaces_slash :
    let d : Disk := ⟨[(["work"], .directory), (["work", "out"], .directory)], ["work"]⟩
    let g : Grammar := Preset.expr.grammar
    let g' : Grammar := ⟨"expr", ⟨"stmt", .sequence⟩, "crate::scanner", []⟩
    Artifact.pathIn "out/" g'.stem = Artifact.pathIn "out" g.stem ∧
      g'.generate (g.generate d "out").2 "out/" = g'.generate d "out/" := by
  intro d g g'
  have hpath : Artifact.pathIn "out/" g'.stem = Artifact.pathIn "out" g.stem := by decide
  exact ⟨hpath, (generate_replaces g d "out").2.2 g' "out/" hpath⟩

end Grammar

end NodeFamilies
