import NodeFamilies.Disk.Buffered
import NodeFamilies.Rendering

/-!
# The written module

A module is kept as a file in a directory. The file is opened first, which empties it, and then
written once; only one who has opened it can write it.
-/

namespace NodeFamilies

/-- An open file that has not been written yet. -/
structure Artifact where
  path : String
  location : Location
  deriving DecidableEq, Repr

namespace Artifact

/-- Where the module of that stem lies in `dir`. -/
def pathIn (dir stem : String) : String := Path.join dir (stem ++ ".rs")

/-- Opens the file; nothing is left behind if that fails. -/
def open? (d : Disk) (dir stem : String) : Except Failure (Artifact × Disk) :=
  match d.create (pathIn dir stem) with
  | .ok (location, d) => .ok (⟨pathIn dir stem, location⟩, d)
  | .error cause => .error (.artifact (pathIn dir stem) cause)

/-- The buffer in front of the open file. -/
def buffer (a : Artifact) (d : Disk) : Buffered := ⟨d.get? a.location != some .full, [], []⟩

/-- Writes the pieces into the file, from its start on. Returns the path if nothing failed. -/
def write (a : Artifact) (d : Disk) (pieces : List Bytes) (giveUp : Option String) :
    Except Failure String × Disk :=
  let (b, failed) := (a.buffer d).writeThrough pieces giveUp
  (match failed with
    | none => .ok a.path
    | some cause => .error (.artifact a.path cause),
    d.overwrite a.location b.sent)

end Artifact

/-- Writes the module of a grammar into `dir`. -/
def Grammar.generate (g : Grammar) (d : Disk) (dir : String) : Except Failure String × Disk :=
  match Artifact.open? d dir g.stem with
  | .ok (a, d) => a.write d (g.pieces.map Text.utf8) none
  | .error failure => (.error failure, d)

end NodeFamilies
