import NodeFamilies.Grammar.Preset
import NodeFamilies.Text.Quoted

/-!
# The options of the command

What a command line asks for once it has been understood.
-/

namespace NodeFamilies.Command

/-- Where the grammar comes from: a file, or a preset if there is none. -/
structure Source where
  grammar : Option String
  preset : Preset
  deriving DecidableEq, Repr

structure Options where
  outputDir : String
  source : Source
  /-- Refuse a grammar that has problems. -/
  strict : Bool
  /-- Print the module and write no file. -/
  stdout : Bool
  /-- Show the options and do nothing. -/
  noOp : Bool
  deriving DecidableEq, Repr

/-! ## How options are shown -/

def boolText (b : Bool) : String := if b then "true" else "false"

def presetText : Preset → String
  | .expr => "Expr"
  | .program => "Program"

def grammarLines : Option String → List String
  | none => ["        grammar: None,"]
  | some path =>
    ["        grammar: Some(", "            " ++ Text.quoted path ++ ",", "        ),"]

def Options.lines (o : Options) : List String :=
  ["CommandLineInterface \x7b",
   "    output_dir: " ++ Text.quoted o.outputDir ++ ",",
   "    source: GrammarSource \x7b"] ++
  grammarLines o.source.grammar ++
  ["        preset: " ++ presetText o.source.preset ++ ",",
   "    \x7d,",
   "    strict: " ++ boolText o.strict ++ ",",
   "    stdout: " ++ boolText o.stdout ++ ",",
   "    no_op: " ++ boolText o.noOp ++ ",",
   "\x7d"]

/-- All options, one on a line. -/
def Options.show (o : Options) : String := String.join (o.lines.map (· ++ "\n"))

end NodeFamilies.Command
