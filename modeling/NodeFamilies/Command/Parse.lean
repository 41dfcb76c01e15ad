import NodeFamilies.Command.Options
import NodeFamilies.Command.Usage

/-!
# Understanding a command line

Arguments are taken from left to right. One that is given a value stays pending until the next
one is understood: only then is its value looked at. An argument that is not known at all is
reported at once, whatever is pending.
-/

namespace NodeFamilies.Command

/-- An argument whose value is not looked at yet, and the value if it is there. -/
structure Pending where
  argument : Valued
  value : Option String
  deriving DecidableEq, Repr

/-- What is known after some arguments. -/
structure State where
  outputDir : Option String
  grammar : Option String
  preset : Option Preset
  /-- Which of the two sources was settled first. -/
  grammarFirst : Bool
  /-- The flags given so far. -/
  flags : List Flag
  pending : Option Pending
  /-- Whether a positional argument has been taken. -/
  positional : Bool
  deriving DecidableEq, Repr

namespace State

def initial : State := ⟨none, none, none, false, [], none, false⟩

/-- Whether the argument has got a value that was looked at. -/
def has (s : State) : Valued → Bool
  | .outputDir => s.outputDir.isSome
  | .grammar => s.grammar.isSome
  | .preset => s.preset.isSome

/-- Looks at the value of an argument. Giving it twice is noticed before the value is. -/
def assign (s : State) (argument : Valued) (value : String) : Except Usage State :=
  if s.has argument then .error (.repeated argument.display)
  else if value = "" then .error (.missingValue argument)
  else match argument with
    | .outputDir => .ok { s with outputDir := some value }
    | .grammar => .ok { s with grammar := some value, grammarFirst := s.preset.isNone }
    | .preset =>
      match Preset.ofName? value with
      | some preset => .ok { s with preset := some preset }
      | none => .error (.invalidValue value .preset)

/-- Looks at what is pending. -/
def settle (s : State) : Except Usage State :=
  match s.pending with
  | none => .ok s
  | some ⟨argument, none⟩ => .error (.missingValue argument)
  | some ⟨argument, some value⟩ => assign { s with pending := none } argument value

def giveFlag (s : State) (flag : Flag) (long : Bool) : Except Usage State := do
  let s ← s.settle
  match flag with
  | .help => .error (.help long)
  | .version => .error .version
  | flag =>
    if s.flags.contains flag then .error (.repeated flag.display)
    else .ok { s with flags := s.flags ++ [flag] }

/-- An argument whose value comes next, or is attached to it. -/
def giveValued (s : State) (argument : Valued) (attached : Option String) :
    Except Usage State := do
  let s ← s.settle
  match attached with
  | some value => s.assign argument value
  | none => .ok { s with pending := some ⟨argument, none⟩ }

/-- A free value: it is the output directory, and there is only one. -/
def givePositional (s : State) (value : String) : Except Usage State :=
  if s.positional then .error (.unknownArgument value)
  else do
    let s ← s.settle
    .ok { s with pending := some ⟨.outputDir, some value⟩, positional := true }

/-- The pending argument that still lacks its value. -/
def awaiting? (s : State) : Option Valued :=
  match s.pending with
  | some ⟨argument, none⟩ => some argument
  | _ => none

end State

/-! ## One argument -/

inductive Known where
  | valued (argument : Valued)
  | flag (flag : Flag)
  deriving DecidableEq, Repr

def longName? : String → Option Known
  | "grammar" => some (.valued .grammar)
  | "preset" => some (.valued .preset)
  | "strict" => some (.flag .strict)
  | "stdout" => some (.flag .stdout)
  | "no-op" => some (.flag .noOp)
  | "help" => some (.flag .help)
  | "version" => some (.flag .version)
  | _ => none

def shortName? : Char → Option Known
  | 'g' => some (.valued .grammar)
  | 'h' => some (.flag .help)
  | 'V' => some (.flag .version)
  | _ => none

/-- Cuts at the first equals sign. -/
def splitEquals (s : List Char) : List Char × Option (List Char) :=
  match s.dropWhile (· != '=') with
  | [] => (s, none)
  | _ :: value => (s.takeWhile (· != '='), some value)

/-- An argument behind two dashes. -/
def parseLong (s : State) (body : List Char) : Except Usage State :=
  let (name, value) := splitEquals body
  match longName? (String.ofList name), value with
  | none, _ => .error (.unknownArgument ("--" ++ String.ofList name))
  | some (.valued argument), value => s.giveValued argument (value.map String.ofList)
  | some (.flag flag), none => s.giveFlag flag true
  | some (.flag flag), some value => .error (.unwantedValue (String.ofList value) flag)

/-- Arguments behind one dash, a letter each. The rest behind one that takes a value is that
value, with or without an equals sign. -/
def parseShorts (s : State) : List Char → Except Usage State
  | [] => .ok s
  | c :: rest =>
    match shortName? c with
    | none => .error (.unknownArgument (String.ofList ['-', c]))
    | some (.flag flag) => do parseShorts (← s.giveFlag flag false) rest
    | some (.valued argument) =>
      match rest with
      | [] => s.giveValued argument none
      | '=' :: value => s.giveValued argument (some (String.ofList value))
      | value => s.giveValued argument (some (String.ofList value))

/-- An argument that is no flag: the value that is awaited, or a free one. -/
def parseValue (s : State) (value : String) : Except Usage State :=
  match s.awaiting? with
  | some argument => .ok { s with pending := some ⟨argument, some value⟩ }
  | none => s.givePositional value

/-- Takes the arguments; behind two dashes alone there are only free values. -/
def parseArguments (s : State) (free : Bool) : List String → Except Usage State
  | [] => .ok s
  | argument :: arguments =>
    if free then do parseArguments (← s.givePositional argument) true arguments
    else match argument.toList with
      | ['-', '-'] => parseArguments s true arguments
      | '-' :: '-' :: body => do parseArguments (← parseLong s body) false arguments
      | '-' :: c :: body => do parseArguments (← parseShorts s (c :: body)) false arguments
      | _ => do parseArguments (← parseValue s argument) false arguments

/-! ## The whole line -/

/-- A file and a preset exclude each other, and the output directory must be there. -/
def State.finish (s : State) : Except Usage Options :=
  match s.grammar, s.preset with
  | some _, some _ =>
    .error (if s.grammarFirst then .conflict .grammar .preset else .conflict .preset .grammar)
  | grammar, preset =>
    match s.outputDir with
    | none => .error .missingOutputDir
    | some dir => .ok
      { outputDir := dir
        source := ⟨grammar, preset.getD .program⟩
        strict := s.flags.contains .strict
        stdout := s.flags.contains .stdout
        noOp := s.flags.contains .noOp }

def parse (arguments : List String) : Except Usage Options := do
  let s ← parseArguments .initial false arguments
  (← s.settle).finish

end NodeFamilies.Command
