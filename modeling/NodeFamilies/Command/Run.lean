import NodeFamilies.Artifact
import NodeFamilies.Check
import NodeFamilies.Command.Parse
import NodeFamilies.Grammar.Load

/-!
# Running the command

What the command does on a disk, and what it prints. A run that is refused, or that only prints,
leaves the disk alone.
-/

namespace NodeFamilies.Command

/-- Why a run failed: the failure, and what was attempted if that is to be said. -/
structure RunError where
  context : Option String
  failure : Failure
  deriving DecidableEq, Repr

/-- All messages, outermost first. -/
def RunError.chain (e : RunError) : List String := e.context.toList ++ e.failure.chain

/-- What is printed by a run and how it ended. -/
structure Report where
  stdout : String
  stderr : String
  result : Except RunError Unit

/-! ## Words in colour -/

inductive Tone where
  | error
  | warning
  | success

def Tone.code : Tone → String
  | error => "1;31"
  | warning => "1;33"
  | success => "1;32"

/-- A word, in bold colour if colours are wanted. -/
def paint (colored : Bool) (tone : Tone) (word : String) : String :=
  if colored then "\x1b[" ++ tone.code ++ "m" ++ word ++ "\x1b[0m" else word

def warningLine (colored : Bool) (p : Problem) : String :=
  paint colored .warning "warning" ++ ": " ++ p.message ++ "\n"

def generatedLine (colored : Bool) (path : String) (g : Grammar) : String :=
  paint colored .success "generated" ++ " " ++ path ++ " (" ++ toString g.families.length ++
    " families, " ++ toString g.variantCount ++ " variants)\n"

/-! ## The steps of a run -/

/-- What is left to do once the grammar is known. -/
inductive Plan where
  /-- Say this and stop. -/
  | report (r : Report)
  /-- Write the module. -/
  | generate (g : Grammar)

def fail (failure : Failure) : Report := ⟨"", "", .error ⟨none, failure⟩⟩

/-- What to do about a loaded grammar, or about the lack of one. -/
def Options.plan (o : Options) (colored : Bool) (loaded : Except Failure Grammar) : Plan :=
  match loaded with
  | .error failure => .report (fail failure)
  | .ok g =>
    if o.strict && !g.check.isEmpty then
      .report ⟨"", String.join (g.check.map (warningLine colored)),
        .error ⟨none, .rejected g.check⟩⟩
    else if o.stdout then .report ⟨g.render, "", .ok ()⟩
    else .generate g

/-- The report on an attempt to write the module. -/
def Options.generated (o : Options) (colored : Bool) (g : Grammar)
    (written : Except Failure String) : Report :=
  match written with
  | .ok path => ⟨"", generatedLine colored path g, .ok ()⟩
  | .error failure =>
    ⟨"", "", .error ⟨some ("failed to generate into `" ++ o.outputDir ++ "`"), failure⟩⟩

def Source.load (s : Source) (d : Disk) : Except Failure Grammar :=
  match s.grammar with
  | some path => Grammar.load d path
  | none => .ok s.preset.grammar

/-- Where a run takes its grammar from, and how it writes a module into a directory. -/
structure World (m : Type → Type) where
  load : Source → m (Except Failure Grammar)
  generate : String → Grammar → m (Except Failure String)

/-- Runs the command in a world. -/
def Options.runIn {m : Type → Type} [Monad m] (o : Options) (world : World m) (colored : Bool) :
    m Report := do
  if o.noOp then return ⟨"", o.show, .ok ()⟩
  match o.plan colored (← world.load o.source) with
  | .report r => return r
  | .generate g => return o.generated colored g (← world.generate o.outputDir g)

/-- A disk as the world. -/
def World.disk : World (StateM Disk) where
  load s := fun d => (s.load d, d)
  generate dir g := fun d => g.generate d dir

/-- Runs the command on a disk. -/
def Options.run (o : Options) (colored : Bool) (d : Disk) : Report × Disk :=
  (o.runIn .disk colored).run d

theorem Options.run_eq (o : Options) (colored : Bool) (d : Disk) :
    o.run colored d =
      if o.noOp then (⟨"", o.show, .ok ()⟩, d)
      else match o.plan colored (o.source.load d) with
        | .report r => (r, d)
        | .generate g =>
          (o.generated colored g (g.generate d o.outputDir).1, (g.generate d o.outputDir).2) := by
  unfold run runIn
  split
  · rfl
  · change (match o.plan colored (o.source.load d) with
      | .report r => pure r
      | .generate g => _ : StateM Disk Report) d = _
    cases o.plan colored (o.source.load d) with
    | report r => rfl
    | generate g => rfl

/-! ## The whole program -/

structure Exit where
  code : Nat
  stdout : String
  stderr : String
  deriving DecidableEq, Repr

/-- A failed run is reported on one line. -/
def Report.exit (r : Report) (colored : Bool) : Exit :=
  match r.result with
  | .ok () => ⟨0, r.stdout, r.stderr⟩
  | .error e =>
    ⟨1, r.stdout, r.stderr ++ paint colored .error "error" ++ ": " ++ ": ".intercalate e.chain ++
      "\n"⟩

def Usage.exit (u : Usage) : Exit :=
  if u.exitCode = 0 then ⟨0, u.text, ""⟩ else ⟨u.exitCode, "", u.text ++ "\n"⟩

/-- Runs a command line in a world. -/
def executeIn {m : Type → Type} [Monad m] (world : World m) (colored : Bool)
    (arguments : List String) : m Exit := do
  match parse arguments with
  | .error u => return u.exit
  | .ok o => return (← o.runIn world colored).exit colored

/-- Runs a command line on a disk. -/
def execute (colored : Bool) (arguments : List String) (d : Disk) : Exit × Disk :=
  (executeIn .disk colored arguments).run d

end NodeFamilies.Command
