import NodeFamilies.Command.Run
import NodeFamilies.Proofs.Generating

/-!
# The modes of the command

A run can be strict or not, and can print the module or keep it as a file. The checks either stop
a strict run before it does anything, or they leave no trace. What is printed and what is kept are
made in two ways, and they are the same bytes.
-/

namespace NodeFamilies

/-! ## Loading -/

theorem Grammar.load_congr {d d' : Disk} {path : String} (h : d'.read path = d.read path) :
    Grammar.load d' path = Grammar.load d path := by
  rw [Grammar.load, Grammar.load, Disk.readText, Disk.readText, h]

namespace Command

theorem Source.load_congr {s : Source} {d d' : Disk}
    (h : ∀ path, s.grammar = some path → d'.read path = d.read path) : s.load d' = s.load d := by
  unfold Source.load
  cases hs : s.grammar with
  | none => rfl
  | some path => exact Grammar.load_congr (h path hs)

namespace Options

/-- The same options, strict or not, printing the module or keeping it as a file. -/
def inMode (o : Options) (strict stdout : Bool) : Options :=
  { o with strict := strict, stdout := stdout, noOp := false }

section

variable {o : Options} {d : Disk} {g : Grammar} {strict : Bool}

/-! ## The three ways of a run -/

theorem run_of_error {failure : Failure} (h : o.source.load d = .error failure)
    (colored strict stdout : Bool) :
    (o.inMode strict stdout).run colored d = (fail failure, d) := by
  have hload : (o.inMode strict stdout).source.load d = .error failure := h
  rw [run_eq, hload]
  rfl

theorem run_of_rejected (h : o.source.load d = .ok g) (hc : g.check ≠ [])
    (colored stdout : Bool) :
    (o.inMode true stdout).run colored d =
      (⟨"", String.join (g.check.map (warningLine colored)), .error ⟨none, .rejected g.check⟩⟩,
        d) := by
  have hload : (o.inMode true stdout).source.load d = .ok g := h
  have hplan : (o.inMode true stdout).plan colored (.ok g) =
      .report ⟨"", String.join (g.check.map (warningLine colored)),
        .error ⟨none, .rejected g.check⟩⟩ := by
    simp [plan, inMode, hc]
  rw [run_eq, hload, hplan]
  rfl

theorem run_of_passing (h : o.source.load d = .ok g) (hc : strict = true → g.check = [])
    (colored stdout : Bool) :
    (o.inMode strict stdout).run colored d =
      if stdout then (⟨g.render, "", .ok ()⟩, d)
      else (o.generated colored g (g.generate d o.outputDir).1, (g.generate d o.outputDir).2) := by
  have hload : (o.inMode strict stdout).source.load d = .ok g := h
  have hstrict : (strict && !g.check.isEmpty) = false := by
    cases strict with
    | false => rfl
    | true => simp [hc rfl]
  have hplan : (o.inMode strict stdout).plan colored (.ok g) =
      if stdout then .report ⟨g.render, "", .ok ()⟩ else .generate g := by
    rw [plan]
    change (if (strict && !g.check.isEmpty) = true then _ else _) = _
    rw [hstrict]
    rfl
  rw [run_eq, hload, hplan]
  cases stdout <;> rfl

/-! ## Strict runs -/

theorem run_strict_eq (h : ∀ g, o.source.load d = .ok g → g.check = [])
    (colored stdout : Bool) :
    (o.inMode true stdout).run colored d = (o.inMode false stdout).run colored d := by
  cases hload : o.source.load d with
  | error failure => rw [run_of_error hload, run_of_error hload]
  | ok g =>
    have hc : g.check = [] := h g hload
    rw [run_of_passing hload fun _ => hc, run_of_passing hload fun _ => hc]

/-! ## Printing and keeping -/

theorem passing_of_run_eq_ok {colored : Bool}
    (h : ((o.inMode strict false).run colored d).1.result = .ok ()) :
    ∃ g, o.source.load d = .ok g ∧ (strict = true → g.check = []) := by
  cases hload : o.source.load d with
  | error failure =>
    rw [run_of_error hload] at h
    cases h
  | ok g =>
    refine ⟨g, rfl, fun hstrict => ?_⟩
    subst hstrict
    by_cases hc : g.check = []
    · exact hc
    · rw [run_of_rejected hload hc] at h
      cases h

theorem generated_eq_ok {colored : Bool} {written : Except Failure String}
    (h : (o.generated colored g written).result = .ok ()) : ∃ path, written = .ok path := by
  cases written with
  | error failure => cases h
  | ok path => exact ⟨path, rfl⟩

/-- The file that a run leaves holds what the same run would print. -/
theorem read_run_eq_stdout {colored : Bool}
    (h : ((o.inMode strict false).run colored d).1.result = .ok ()) :
    ∃ g, o.source.load d = .ok g ∧
      ((o.inMode strict false).run colored d).2.read (Artifact.pathIn o.outputDir g.stem) =
        .ok (Text.utf8 ((o.inMode strict true).run colored d).1.stdout) := by
  obtain ⟨g, hload, hc⟩ := passing_of_run_eq_ok h
  refine ⟨g, hload, ?_⟩
  rw [run_of_passing hload hc] at h ⊢
  rw [run_of_passing hload hc]
  obtain ⟨path, hpath⟩ := generated_eq_ok h
  exact Grammar.read_of_generate_eq_ok hpath

end

theorem run_stdout_congr {o o' : Options} {d d' : Disk} (hs : o'.source = o.source)
    (hread : ∀ path, o.source.grammar = some path → d'.read path = d.read path)
    (colored strict : Bool) :
    ((o'.inMode strict true).run colored d').1 = ((o.inMode strict true).run colored d).1 := by
  have hload' : o'.source.load d' = o.source.load d := by
    rw [hs]
    exact Source.load_congr hread
  cases hload : o.source.load d with
  | error failure =>
    rw [hload] at hload'
    rw [run_of_error hload, run_of_error hload']
  | ok g =>
    rw [hload] at hload'
    by_cases hc : strict = true → g.check = []
    · rw [run_of_passing hload hc, run_of_passing hload' hc]
      rfl
    · obtain ⟨rfl, hrejected⟩ := Classical.not_imp.mp hc
      rw [run_of_rejected hload hrejected, run_of_rejected hload' hrejected]

/-! ## All modes -/

/-- Strictness counts only for a grammar with problems, and then nothing but the warnings is left
of the run. A module is the same bytes on the screen and in its file, and neither the output
directory nor anything on the disk but the grammar has a part in what is printed. -/
theorem run_modes_agree (o : Options) (colored : Bool) (d : Disk) :
    ((∀ g, o.source.load d = .ok g → g.check = []) → ∀ stdout,
      (o.inMode true stdout).run colored d = (o.inMode false stdout).run colored d) ∧
    (∀ g, o.source.load d = .ok g → g.check ≠ [] → ∃ problems,
      g.ensureWellFormed = .error problems ∧ problems = g.check ∧ ∀ stdout,
        (o.inMode true stdout).run colored d =
          (⟨"", String.join (problems.map fun p =>
              paint colored .warning "warning" ++ ": " ++ p.message ++ "\n"),
            .error ⟨none, .rejected problems⟩⟩, d)) ∧
    (∀ strict, ((o.inMode strict false).run colored d).1.result = .ok () →
      ∃ g, o.source.load d = .ok g ∧
        ((o.inMode strict false).run colored d).2.read (Artifact.pathIn o.outputDir g.stem) =
          .ok (Text.utf8 ((o.inMode strict true).run colored d).1.stdout)) ∧
    ∀ (strict : Bool) (o' : Options) (d' : Disk), o'.source = o.source →
      (∀ path, o.source.grammar = some path → d'.read path = d.read path) →
      ((o'.inMode strict true).run colored d').1 = ((o.inMode strict true).run colored d).1 := by
  refine ⟨fun h stdout => run_strict_eq h colored stdout, ?_, ?_, ?_⟩
  · intro g hload hc
    exact ⟨g.check, Grammar.ensureWellFormed_eq_error_iff.mpr ⟨hc, rfl⟩, rfl,
      run_of_rejected hload hc colored⟩
  · intro strict h
    exact read_run_eq_stdout h
  · intro strict o' d' hs hread
    exact run_stdout_congr hs hread colored strict

/-- A directory to write into, and a file with a grammar that declares nothing. -/
def workshop : Disk :=
  ⟨[(["work"], .directory), (["work", "out"], .directory),
    (["work", "empty.json"],
      .file (Text.utf8 "[\"ast\",[\"expr\",\"single\"],\"scanner\",[]]"))], ["work"]⟩

theorem run_modes_agree_workshop :
    let preset : Options := ⟨"out", ⟨none, .expr⟩, false, false, false⟩
    let file : Options := ⟨"out", ⟨some "empty.json", .program⟩, false, false, false⟩
    let problems : List Problem := [.noFamilies, .unknownRoot "expr"]
    (preset.inMode true false).run false workshop = (preset.inMode false false).run false workshop ∧
      (file.inMode true true).run false workshop =
        (⟨"", "warning: grammar declares no node families\n" ++
            "warning: root family `expr` is not declared\n",
          .error ⟨none, .rejected problems⟩⟩, workshop) ∧
      ((preset.inMode true false).run false workshop).2.read (Artifact.pathIn "out" "expr") =
        .ok (Text.utf8 ((preset.inMode true true).run false workshop).1.stdout) ∧
      (({ preset with outputDir := "/" }.inMode true true).run false Disk.empty).1 =
        ((preset.inMode true true).run false workshop).1 := by
  intro preset file problems
  have hpreset : preset.source.load workshop = .ok Preset.expr.grammar := rfl
  have hclean : Preset.expr.grammar.check = [] := by decide
  have hplace : workshop.resolve (Artifact.pathIn "out" Preset.expr.grammar.stem) =
      .ok ["work", "out", "expr.rs"] := by
    rfl
  have hfree : workshop.Replaceable ["work", "out", "expr.rs"] := Or.inl (by decide)
  have hresult : ((preset.inMode true false).run false workshop).1.result = .ok () := by
    rw [run_of_passing hpreset fun _ => hclean]
    have hwritten : Preset.expr.grammar.generate workshop "out" = _ :=
      Grammar.generate_of_replaceable hplace hfree
    simp only [preset, hwritten]
    rfl
  have hfile : file.source.load workshop = .ok ⟨"ast", ⟨"expr", .single⟩, "scanner", []⟩ := by
    rfl
  obtain ⟨hstrict, -, hkept, hprinted⟩ := run_modes_agree preset false workshop
  obtain ⟨-, hrejected, -, -⟩ := run_modes_agree file false workshop
  refine ⟨?_, ?_, ?_, ?_⟩
  · apply hstrict
    intro g hg
    obtain rfl : Preset.expr.grammar = g := Except.ok.inj (hpreset.symm.trans hg)
    exact hclean
  · obtain ⟨_, -, rfl, hrun⟩ := hrejected _ hfile (by decide)
    exact hrun true
  · obtain ⟨g, hg, hread⟩ := hkept true hresult
    obtain rfl : Preset.expr.grammar = g := Except.ok.inj (hpreset.symm.trans hg)
    exact hread
  · exact hprinted true { preset with outputDir := "/" } Disk.empty rfl (by simp [preset])

end Options

end Command

end NodeFamilies
