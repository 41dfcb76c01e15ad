import NodeFamilies.Text.Control

/-!
# How the command is used

What is said instead of doing anything: the help, the version, or what is wrong with the
arguments.
-/

namespace NodeFamilies.Command

/-- An argument that can be given a value. -/
inductive Valued where
  | outputDir
  | grammar
  | preset
  deriving DecidableEq, Repr

/-- An argument that is given or not. -/
inductive Flag where
  | strict
  | stdout
  | noOp
  | help
  | version
  deriving DecidableEq, Repr

def Valued.display : Valued → String
  | outputDir => "<OUTPUT_DIR>"
  | grammar => "--grammar <GRAMMAR>"
  | preset => "--preset <PRESET>"

def Flag.display : Flag → String
  | strict => "--strict"
  | stdout => "--stdout"
  | noOp => "--no-op"
  | help => "--help"
  | version => "--version"

inductive Usage where
  | help (long : Bool)
  | version
  | unknownArgument (argument : String)
  /-- No value, or an empty one. -/
  | missingValue (argument : Valued)
  | invalidValue (value : String) (argument : Valued)
  /-- A value for an argument that takes none. -/
  | unwantedValue (value : String) (argument : Flag)
  /-- An argument given twice, by the name it is shown under. -/
  | repeated (display : String)
  | conflict (given other : Valued)
  | missingOutputDir
  deriving DecidableEq, Repr

/-- Every line ends in a line feed. -/
def ofLines (lines : List String) : String := String.join (lines.map (· ++ "\n"))

def shortHelp : String := ofLines
  ["Generates the AST node enums and visitor traits for the interpreter",
   "",
   "Usage: astgen [OPTIONS] <OUTPUT_DIR>",
   "",
   "Arguments:",
   "  <OUTPUT_DIR>  existing, writable directory the module is written into",
   "",
   "Options:",
   "  -g, --grammar <GRAMMAR>  JSON grammar file (families, root and base name)",
   "      --preset <PRESET>    built-in grammar used when no file is given " ++
      "[default: program] [possible values: expr, program]",
   "      --strict             reject malformed grammars (duplicate names, unboxed " ++
      "recursion, ...) instead of emitting them",
   "      --stdout             print the module to stdout instead of writing it",
   "      --no-op              debugging",
   "  -h, --help               Print help (see more with '--help')",
   "  -V, --version            Print version"]

def longHelp : String := ofLines
  ["Generates the AST node enums and visitor traits for the interpreter",
   "",
   "Usage: astgen [OPTIONS] <OUTPUT_DIR>",
   "",
   "Arguments:",
   "  <OUTPUT_DIR>",
   "          existing, writable directory the module is written into",
   "",
   "Options:",
   "  -g, --grammar <GRAMMAR>",
   "          JSON grammar file (families, root and base name)",
   "",
   "      --preset <PRESET>",
   "          built-in grammar used when no file is given",
   "",
   "          Possible values:",
   "          - expr:    expressions only; single `Expr` root, writes `expr.rs`",
   "          - program: expressions and statements; `Vec<Box<Stmt>>` root, writes `ast.rs`",
   "          ",
   "          [default: program]",
   "",
   "      --strict",
   "          reject malformed grammars (duplicate names, unboxed recursion, ...) " ++
      "instead of emitting them",
   "",
   "      --stdout",
   "          print the module to stdout instead of writing it",
   "",
   "      --no-op",
   "          debugging",
   "",
   "  -h, --help",
   "          Print help (see a summary with '-h')",
   "",
   "  -V, --version",
   "          Print version"]

def versionText : String := "astgen 0.1.0\n"

namespace Usage

/-- The text to print if nothing is wrong, and the first line of the complaint otherwise. What comes
from the command line is shown without control sequences. -/
def text : Usage → String
  | help long => if long then longHelp else shortHelp
  | version => versionText
  | unknownArgument argument =>
    "error: unexpected argument '" ++ Text.plain argument ++ "' found"
  | missingValue argument =>
    "error: a value is required for '" ++ argument.display ++ "' but none was supplied"
  | invalidValue value argument =>
    "error: invalid value '" ++ Text.plain value ++ "' for '" ++ argument.display ++ "'"
  | unwantedValue value argument =>
    "error: unexpected value '" ++ Text.plain value ++ "' for '" ++ argument.display ++
      "' found; no more were expected"
  | repeated display => "error: the argument '" ++ display ++ "' cannot be used multiple times"
  | conflict given other =>
    "error: the argument '" ++ given.display ++ "' cannot be used with '" ++ other.display ++ "'"
  | missingOutputDir => "error: the following required arguments were not provided:"

/-- Help and version are no errors. -/
def exitCode : Usage → Nat
  | help _ => 0
  | version => 0
  | _ => 2

end Usage

end NodeFamilies.Command
