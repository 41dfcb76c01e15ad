import Mathlib.Algebra.GroupWithZero.Nat
import NodeFamilies.Proofs.Modes

/-!
# What a run leaves behind

A run ends in one of five ways, and only one of them comes near the disk. A run that is refused has
therefore done nothing, not even to a module that was there before.
-/

namespace NodeFamilies

theorem Grammar.variantCount_eq_sum (g : Grammar) :
    g.variantCount = (g.families.map (·.variants.length)).sum := by
  rw [variantCount, List.length_flatMap]

namespace Command.Options

variable {o : Options} {colored : Bool} {d after : Disk} {g : Grammar} {r : Report}

/-! ## The ways a run ends -/

/-- The ends of a run, each with its report and the disk it leaves. -/
inductive Ran (o : Options) (colored : Bool) (d : Disk) : Report → Disk → Prop where
  | shown : o.noOp = true → Ran o colored d ⟨"", o.show, .ok ()⟩ d
  | unloaded {failure : Failure} :
      o.noOp = false → o.source.load d = .error failure → Ran o colored d (fail failure) d
  | rejected {g : Grammar} :
      o.noOp = false → o.source.load d = .ok g → o.strict = true → g.check ≠ [] →
      Ran o colored d ⟨"", String.join (g.check.map (warningLine colored)),
        .error ⟨none, .rejected g.check⟩⟩ d
  | printed {g : Grammar} :
      o.noOp = false → o.source.load d = .ok g → o.stdout = true →
      Ran o colored d ⟨g.render, "", .ok ()⟩ d
  | generated {g : Grammar} {written : Except Failure String} {after : Disk} :
      o.noOp = false → o.source.load d = .ok g → (o.strict = true → g.check = []) →
      o.stdout = false → g.Generated d (Artifact.pathIn o.outputDir g.stem) written after →
      Ran o colored d (o.generated colored g written) after

theorem inMode_self (h : o.noOp = false) : o.inMode o.strict o.stdout = o := by
  cases o
  simp only [inMode]
  exact congrArg _ h.symm

theorem ran (o : Options) (colored : Bool) (d : Disk) :
    Ran o colored d (o.run colored d).1 (o.run colored d).2 := by
  cases hnoOp : o.noOp with
  | true =>
    rw [run_eq, if_pos hnoOp]
    exact .shown hnoOp
  | false =>
    rw [← inMode_self hnoOp]
    cases hload : o.source.load d with
    | error failure =>
      rw [run_of_error hload]
      exact .unloaded rfl hload
    | ok g =>
      by_cases hc : o.strict = true → g.check = []
      · rw [run_of_passing hload hc]
        cases hstdout : o.stdout with
        | true => exact .printed rfl hload rfl
        | false => exact .generated rfl hload hc rfl (g.generated_generate d o.outputDir)
      · obtain ⟨hstrict, hproblems⟩ := Classical.not_imp.mp hc
        rw [hstrict, run_of_rejected hload hproblems]
        exact .rejected rfl hload rfl hproblems

/-! ## The disk -/

/-- The run is not meant to write, or it is refused before it could. -/
inductive Harmless (o : Options) (d : Disk) : Prop where
  | noOp : o.noOp = true → Harmless o d
  | stdout : o.stdout = true → Harmless o d
  | unloaded {failure : Failure} : o.source.load d = .error failure → Harmless o d
  | rejected {g : Grammar} :
      o.strict = true → o.source.load d = .ok g → g.check ≠ [] → Harmless o d
  | unopened {g : Grammar} {cause : FileError} :
      o.source.load d = .ok g →
      d.create (Artifact.pathIn o.outputDir g.stem) = .error cause → Harmless o d

theorem Ran.eq_of_harmless (h : Ran o colored d r after) (hharmless : Harmless o d) : after = d := by
  cases h with
  | shown => rfl
  | unloaded => rfl
  | rejected => rfl
  | printed => rfl
  | generated hnoOp hload hc hstdout hgenerated =>
    cases hgenerated with
    | unopened => rfl
    | refused => rfl
    | replaced hreplaced =>
      -- Nothing stood in the way of this run.
      obtain ⟨l, hr, hl, -⟩ := hreplaced.place
      cases hharmless with
      | noOp h => simp [hnoOp] at h
      | stdout h => simp [hstdout] at h
      | unloaded h => simp [hload] at h
      | rejected hstrict h hproblems =>
        obtain rfl := Except.ok.inj (hload.symm.trans h)
        exact absurd (hc hstrict) hproblems
      | unopened h hcreate =>
        obtain rfl := Except.ok.inj (hload.symm.trans h)
        rw [Disk.create_of_replaceable hr hl] at hcreate
        cases hcreate

theorem Ran.frame (h : Ran o colored d r after) (hharmless : ¬ Harmless o d) :
    ∃ g l, o.source.load d = .ok g ∧ d.resolve (Artifact.pathIn o.outputDir g.stem) = .ok l ∧
      after.working = d.working ∧ ∀ l', l' ≠ l → after.get? l' = d.get? l' := by
  cases h with
  | shown h => exact absurd (.noOp h) hharmless
  | unloaded _ h => exact absurd (.unloaded h) hharmless
  | rejected _ hload hstrict hproblems => exact absurd (.rejected hstrict hload hproblems) hharmless
  | printed _ _ h => exact absurd (.stdout h) hharmless
  | @generated g _ _ _ hload _ _ hgenerated =>
    cases hgenerated with
    | unopened hcreate => exact absurd (.unopened hload hcreate) hharmless
    | @refused l hr _ => exact ⟨g, l, hload, hr, rfl, fun _ _ => rfl⟩
    | replaced hreplaced =>
      obtain ⟨l, hr, -, -, hother⟩ := hreplaced.place
      exact ⟨g, l, hload, hr, hreplaced.working, hother⟩

/-! ## The report -/

theorem stdout_generated (o : Options) (colored : Bool) (g : Grammar)
    (written : Except Failure String) : (o.generated colored g written).stdout = "" := by
  cases written <;> rfl

theorem Ran.printed_of_stdout (h : Ran o colored d r after) (hr : r.stdout ≠ "") :
    o.noOp = false ∧ o.stdout = true ∧ r.result = .ok () := by
  cases h with
  | shown => exact absurd rfl hr
  | unloaded => exact absurd rfl hr
  | rejected => exact absurd rfl hr
  | printed hnoOp _ hstdout => exact ⟨hnoOp, hstdout, rfl⟩
  | generated => exact absurd (stdout_generated ..) hr

theorem Ran.stdout_eq (h : Ran o colored d r after) (hnoOp : o.noOp = false)
    (hstdout : o.stdout = true) (hr : r.result = .ok ()) :
    ∃ g, o.source.load d = .ok g ∧ r.stdout = g.render := by
  cases h with
  | shown h => simp [hnoOp] at h
  | unloaded => cases hr
  | rejected => cases hr
  | @printed g _ hload _ => exact ⟨g, hload, rfl⟩
  | generated _ _ _ h _ => simp [hstdout] at h

theorem Ran.stderr_eq (h : Ran o colored d r after) (hnoOp : o.noOp = false)
    (hstdout : o.stdout = false) (hr : r.result = .ok ()) :
    ∃ g, o.source.load d = .ok g ∧
      after.read (Artifact.pathIn o.outputDir g.stem) = .ok (Text.utf8 g.render) ∧
      r.stderr = generatedLine colored (Artifact.pathIn o.outputDir g.stem) g := by
  cases h with
  | shown h => simp [hnoOp] at h
  | unloaded => cases hr
  | rejected => cases hr
  | printed _ _ h => simp [hstdout] at h
  | @generated g _ _ _ hload _ _ hgenerated =>
    cases hgenerated with
    | unopened => cases hr
    | refused => cases hr
    | replaced hreplaced => exact ⟨g, hload, hreplaced.read, rfl⟩

/-! ## All effects -/

/-- A run that only shows or prints something, or is refused, leaves the disk as it is. Any other
run has changed at most the place of the module. A module is printed or it is kept, and then the
run says where, and how much it holds. -/
theorem run_effects (o : Options) (colored : Bool) (d : Disk) :
    let r := (o.run colored d).1
    let after := (o.run colored d).2
    (Harmless o d → after = d) ∧
    (¬ Harmless o d → ∃ g l, o.source.load d = .ok g ∧
      d.resolve (Artifact.pathIn o.outputDir g.stem) = .ok l ∧ after.working = d.working ∧
      ∀ l', l' ≠ l → after.get? l' = d.get? l') ∧
    (r.stdout ≠ "" → o.noOp = false ∧ o.stdout = true ∧ r.result = .ok ()) ∧
    (o.noOp = false → o.stdout = true → r.result = .ok () →
      ∃ g, o.source.load d = .ok g ∧ r.stdout = g.render) ∧
    (o.noOp = false → o.stdout = false → r.result = .ok () →
      ∃ g, o.source.load d = .ok g ∧
        after.read (Artifact.pathIn o.outputDir g.stem) = .ok (Text.utf8 g.render) ∧
        r.stderr = paint colored .success "generated" ++ " " ++
          Artifact.pathIn o.outputDir g.stem ++ " (" ++ toString g.families.length ++
          " families, " ++ toString (g.families.map (·.variants.length)).sum ++ " variants)\n") := by
  intro r after
  have hran : Ran o colored d r after := ran o colored d
  refine ⟨hran.eq_of_harmless, hran.frame, hran.printed_of_stdout, hran.stdout_eq, ?_⟩
  intro hnoOp hstdout hr
  obtain ⟨g, hload, hread, hstderr⟩ := hran.stderr_eq hnoOp hstdout hr
  refine ⟨g, hload, hread, ?_⟩
  rw [hstderr, generatedLine, g.variantCount_eq_sum]

/-- A directory with a module from before. -/
def secondVisit : Disk := workshop.set ["work", "out", "ast.rs"] (.file (Text.utf8 "old"))

theorem run_effects_secondVisit :
    let file : Options := ⟨"out", ⟨some "empty.json", .program⟩, true, false, false⟩
    let preset : Options := ⟨"out", ⟨none, .expr⟩, true, false, false⟩
    (file.run false secondVisit).2 = secondVisit ∧
      (preset.run false secondVisit).2.get? ["work", "out", "ast.rs"] =
        some (.file (Text.utf8 "old")) ∧
      ((preset.inMode true true).run false secondVisit).1.stdout = Preset.expr.grammar.render ∧
      (preset.run false secondVisit).1.stderr =
        "generated out/expr.rs (1 families, 4 variants)\n" := by
  intro file preset
  have hfile : file.source.load secondVisit = .ok ⟨"ast", ⟨"expr", .single⟩, "scanner", []⟩ := by
    rfl
  have hpreset : preset.source.load secondVisit = .ok Preset.expr.grammar := rfl
  have hclean : Preset.expr.grammar.check = [] := by decide
  have hplace : secondVisit.resolve (Artifact.pathIn "out" Preset.expr.grammar.stem) =
      .ok ["work", "out", "expr.rs"] := by
    rfl
  have hfree : secondVisit.Replaceable ["work", "out", "expr.rs"] := Or.inl (by decide)
  have hwritten : Preset.expr.grammar.generate secondVisit "out" = _ :=
    Grammar.generate_of_replaceable hplace hfree
  have hbusy : ¬ Harmless preset secondVisit := by
    intro h
    cases h with
    | noOp h => cases h
    | stdout h => cases h
    | unloaded h => cases hpreset.symm.trans h
    | rejected _ h hproblems =>
      obtain rfl := Except.ok.inj (hpreset.symm.trans h)
      exact hproblems hclean
    | unopened h hcreate =>
      obtain rfl := Except.ok.inj (hpreset.symm.trans h)
      cases hcreate.symm.trans (Disk.create_of_replaceable hplace hfree)
  have hresult : (preset.run false secondVisit).1.result = .ok () := by
    rw [← inMode_self (o := preset) rfl, run_of_passing hpreset fun _ => hclean]
    simp only [preset, hwritten]
    rfl
  have hshown : ((preset.inMode true true).run false secondVisit).1.result = .ok () := by
    rw [run_of_passing hpreset fun _ => hclean]
    rfl
  obtain ⟨hrefused, -, -, -, -⟩ := run_effects file false secondVisit
  obtain ⟨-, hframe, -, -, hkept⟩ := run_effects preset false secondVisit
  obtain ⟨-, -, -, hprinted, -⟩ := run_effects (preset.inMode true true) false secondVisit
  refine ⟨?_, ?_, ?_, ?_⟩
  · exact hrefused (.rejected rfl hfile (by decide))
  · obtain ⟨g, l, hg, hr, -, hother⟩ := hframe hbusy
    obtain rfl := Except.ok.inj (hpreset.symm.trans hg)
    obtain rfl := Except.ok.inj (hplace.symm.trans hr)
    rw [hother _ (by decide)]
    decide
  · obtain ⟨g, hg, hstdout⟩ := hprinted rfl rfl hshown
    obtain rfl := Except.ok.inj (hpreset.symm.trans hg)
    exact hstdout
  · obtain ⟨g, hg, -, hstderr⟩ := hkept rfl rfl hresult
    obtain rfl := Except.ok.inj (hpreset.symm.trans hg)
    exact hstderr.trans (by decide)

end Command.Options

end NodeFamilies
