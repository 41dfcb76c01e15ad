import NodeFamilies.Command.Run

/-!
# The program

Carries out what the command decides, on the real file system.
-/

namespace NodeFamilies.Program

open Command

/-- The number that the system gives a failed operation; some calls report it negated. Zero if there
is none. -/
def systemNumber (e : IO.Error) : Nat :=
  let number : UInt32 := match e with
    | .noFileOrDirectory _ n _ => n
    | .inappropriateType _ n _ => n
    | .resourceExhausted _ n _ => n
    | .invalidArgument _ n _ => n
    | .otherError n _ => n
    | _ => 0
  number.toBitVec.toInt.natAbs

/-- The reason of a failed operation, in our terms. -/
def fileErrorOf (e : IO.Error) : FileError :=
  match systemNumber e with
  | 2 => .notFound
  | 20 => .notADirectory
  | 21 => .isADirectory
  | 28 => .storageFull
  | 36 => .nameTooLong
  | _ => .interrupted (toString e)

def readFileText (path : String) : IO (Except FileError String) := do
  try
    match String.fromUTF8? (← IO.FS.readBinFile path) with
    | some text => return .ok text
    | none => return .error .notUtf8
  catch e => return .error (fileErrorOf e)

def loadSource (s : Source) : IO (Except Failure Grammar) := do
  match s.grammar with
  | some path => return Grammar.ofFile path (← readFileText path)
  | none => return .ok s.preset.grammar

def writeModule (path text : String) : IO (Except Failure String) := do
  try
    let file ← IO.FS.Handle.mk path .write
    file.putStr text
    file.flush
    return .ok path
  catch e => return .error (.artifact path (fileErrorOf e))

/-- The real file system as the world. -/
def world : World IO where
  load := loadSource
  generate dir g := writeModule (Artifact.pathIn dir g.stem) g.render

/-- Colours are for a terminal, unless the environment says otherwise. -/
def wantsColor : IO Bool := do
  let forced := (← IO.getEnv "CLICOLOR_FORCE").any (· != "0")
  let refused := (← IO.getEnv "NO_COLOR").isSome || (← IO.getEnv "CLICOLOR") == some "0"
  return forced || (!refused && (← (← IO.getStdout).isTty))

end NodeFamilies.Program

def main (arguments : List String) : IO UInt32 := do
  let colored ← NodeFamilies.Program.wantsColor
  let exit ← NodeFamilies.Command.executeIn NodeFamilies.Program.world colored arguments
  IO.print exit.stdout
  IO.eprint exit.stderr
  return exit.code.toUInt32
