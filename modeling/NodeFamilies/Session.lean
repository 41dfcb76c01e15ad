import NodeFamilies.Artifact

/-!
# Several artifacts at once

A session works on one disk and keeps open artifacts under names. An artifact is gone once it is
written or dropped, and one that is opened under a name in use takes the place of the other.
-/

namespace NodeFamilies

structure Session where
  disk : Disk
  opened : List (String × Artifact)
  deriving DecidableEq, Repr

namespace Session

inductive Action where
  | openAs (name dir stem : String)
  | write (name : String) (pieces : List Bytes) (giveUp : Option String)
  | drop (name : String)
  | generate (dir : String) (g : Grammar)
  deriving DecidableEq, Repr

/-- Nothing is open yet. -/
def start (d : Disk) : Session := ⟨d, []⟩

def forget (s : Session) (name : String) : Session :=
  { s with opened := s.opened.filter (·.1 != name) }

/-- Does one thing. There is no answer to a drop, nor to a name under which nothing is open. -/
def perform (s : Session) : Action → Option (Except Failure String) × Session
  | .openAs name dir stem =>
    match Artifact.open? s.disk dir stem with
    | .ok (a, d) => (some (.ok a.path), ⟨d, (name, a) :: (s.forget name).opened⟩)
    | .error failure => (some (.error failure), s)
  | .write name pieces giveUp =>
    match s.opened.lookup name with
    | none => (none, s)
    | some a =>
      let (result, d) := a.write s.disk pieces giveUp
      (some result, ⟨d, (s.forget name).opened⟩)
  | .drop name => (none, s.forget name)
  | .generate dir g =>
    let (result, d) := g.generate s.disk dir
    (some result, { s with disk := d })

end Session

end NodeFamilies
