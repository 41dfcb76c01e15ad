import NodeFamilies.Disk.Basic

/-!
# Paths

A path is a text with a slash between its steps. It is followed step by step: every step needs a
directory to start from, and two dots lead back up.
-/

namespace NodeFamilies

namespace Path

/-- The path `rest` taken from `dir`; an absolute one does not depend on `dir`. -/
def join (dir rest : String) : String :=
  if rest.toList.head? = some '/' then rest
  else if dir = "" || dir.toList.getLast? = some '/' then dir ++ rest
  else dir ++ "/" ++ rest

/-- Cuts at every slash; there is one part more than there are slashes. -/
def splitSlashes : List Char → List (List Char)
  | [] => [[]]
  | c :: rest =>
    if c = '/' then [] :: splitSlashes rest
    else match splitSlashes rest with
      | part :: parts => (c :: part) :: parts
      | [] => [[c]]

/-- The steps of a path. A doubled slash, and one at the end, leave an empty step. -/
def steps (path : String) : List String := (splitSlashes path.toList).map String.ofList

def isAbsolute (path : String) : Bool := path.toList.head? = some '/'

/-- The longest path and the longest name, in bytes. -/
def longest : Nat := 4095

def longestName : Nat := 255

end Path

namespace Disk

def start (d : Disk) (path : String) : Location :=
  if Path.isAbsolute path then [] else d.working

/-- Takes one step from a place that is there. -/
def step (d : Disk) (l : Location) (name : String) : Except FileError Location :=
  match d.get? l with
  | some .directory =>
    if name = "" || name = "." then .ok l
    else if name = ".." then .ok l.dropLast
    else if Path.longestName < name.utf8ByteSize then .error .nameTooLong
    else .ok (l ++ [name])
  | some _ => .error .notADirectory
  | none => .error .notFound

/-- Takes all the steps; the last one may lead to a place where nothing is yet. -/
def follow (d : Disk) (l : Location) : List String → Except FileError Location
  | [] => .ok l
  | name :: names => do d.follow (← d.step l name) names

/-- The place that a path leads to. -/
def resolve (d : Disk) (path : String) : Except FileError Location :=
  if path.toList.contains '\x00' then .error .nulInName
  else if path = "" then .error .notFound
  else if Path.longest < path.utf8ByteSize then .error .nameTooLong
  else d.follow (d.start path) (Path.steps path)

/-! ## Files -/

/-- The bytes of the file at the end of a path. A full device has no bytes here; a real one would
give zeros without end. -/
def read (d : Disk) (path : String) : Except FileError Bytes := do
  match d.get? (← d.resolve path) with
  | none => .error .notFound
  | some .directory => .error .isADirectory
  | some .full => .ok []
  | some (.file contents) => .ok contents

/-- The text of the file at the end of a path. -/
def readText (d : Disk) (path : String) : Except FileError String := do
  match Text.ofUtf8? (← d.read path) with
  | some text => .ok text
  | none => .error .notUtf8

/-- Opens a file for writing: it is there and empty afterwards. -/
def create (d : Disk) (path : String) : Except FileError (Location × Disk) := do
  let l ← d.resolve path
  match d.get? l with
  | some .directory => .error .isADirectory
  | some .full => .ok (l, d)
  | some (.file _) => .ok (l, d.set l (.file []))
  | none => .ok (l, d.set l (.file []))

/-- `data` laid over the start of what was there. -/
def overlay (contents data : Bytes) : Bytes := data ++ contents.drop data.length

/-- Writes over the start of an open file. -/
def overwrite (d : Disk) (l : Location) (data : Bytes) : Disk :=
  match d.get? l with
  | some (.file contents) => d.set l (.file (overlay contents data))
  | _ => d

/-- Takes one step, into a directory that is made where nothing is yet. -/
def enter (d : Disk) (l : Location) (name : String) : Disk × Location :=
  if name = "" || name = "." then (d, l)
  else if name = ".." then (d, l.dropLast)
  else if (d.get? (l ++ [name])).isSome then (d, l ++ [name])
  else (d.set (l ++ [name]) .directory, l ++ [name])

def enterAll (d : Disk) (l : Location) : List String → Disk
  | [] => d
  | name :: names => (d.enter l name).1.enterAll (d.enter l name).2 names

/-- Makes a directory and those on the way to it; what is there stays. -/
def makeDirectory (d : Disk) (path : String) : Disk := d.enterAll (d.start path) (Path.steps path)

/-- Puts an entry at the end of a path, if the path leads anywhere. -/
def place (d : Disk) (path : String) (e : Entry) : Disk :=
  match d.resolve path with
  | .ok l => d.set l e
  | .error _ => d

/-- What is in the working directory and below, by its path from there. -/
def listing (d : Disk) : List (String × Entry) :=
  d.entries.filterMap fun (l, e) =>
    if d.working.isPrefixOf l && d.working.length < l.length then
      some ("/".intercalate (l.drop d.working.length), e)
    else none

end Disk

end NodeFamilies
