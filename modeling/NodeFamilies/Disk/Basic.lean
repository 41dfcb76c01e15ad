import NodeFamilies.Failure
import NodeFamilies.Table
import NodeFamilies.Text.Utf8

/-!
# Disks

A disk is a tree of directories, files and full devices, with a working directory in it. A place
is given by the names on the way from the top.
-/

namespace NodeFamilies

abbrev Location := List String

inductive Entry where
  | directory
  | file (contents : Bytes)
  /-- Can be opened, but takes no byte. -/
  | full
  deriving DecidableEq, Repr

structure Disk where
  entries : List (Location × Entry)
  working : Location
  deriving DecidableEq, Repr

namespace Disk

/-- The top is always a directory. -/
def get? (d : Disk) (l : Location) : Option Entry :=
  if l = [] then some .directory else d.entries.lookup l

/-- Replaces the entry at `l`, or adds it behind the others. -/
def set (d : Disk) (l : Location) (e : Entry) : Disk :=
  { d with entries := Table.put l e d.entries }

/-- An empty working directory, one level below the top. -/
def empty : Disk := ⟨[(["work"], .directory)], ["work"]⟩

theorem get?_set (d : Disk) {l : Location} (hl : l ≠ []) (e : Entry) (l' : Location) :
    (d.set l e).get? l' = if l' = l then some e else d.get? l' := by
  by_cases h' : l' = []
  · subst h'
    simp [get?, Ne.symm hl]
  · simp [get?, set, h', Table.lookup_put]

end Disk

end NodeFamilies
