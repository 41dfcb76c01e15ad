import NodeFamilies.Disk.Path
import NodeFamilies.Grammar.Format

/-!
# Loading a grammar

A grammar from a text or from a file. What goes wrong is reported with the path of the file.
-/

namespace NodeFamilies.Grammar

/-- `origin` is only used to report a fault. -/
def ofText (text origin : String) : Except Failure Grammar :=
  match Grammar.schema.ofText text with
  | .ok g => .ok g
  | .error fault =>
    .error (.malformed origin (Json.pathText fault.path) (fault.detail text.toList))

/-- The grammar in a file whose reading had that result. -/
def ofFile (path : String) (contents : Except FileError String) : Except Failure Grammar :=
  match contents with
  | .ok text => ofText text path
  | .error cause => .error (.unreadable path cause)

def load (d : Disk) (path : String) : Except Failure Grammar := ofFile path (d.readText path)

end NodeFamilies.Grammar
