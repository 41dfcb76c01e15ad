/-!
# Grammars

A grammar is an ordered table of node families. A family has variants, and a variant carries
payloads, which are texts of types that nobody looks into but the checks. Order always counts,
and names may repeat.
-/

namespace NodeFamilies

structure Variant where
  name : String
  payloads : List String
  deriving DecidableEq, Repr

/-- One syntactic category, such as expressions. -/
structure Family where
  name : String
  variants : List Variant
  deriving DecidableEq, Repr

/-- How many nodes the root holds. -/
inductive Shape where
  | single
  | sequence
  deriving DecidableEq, Repr

structure Root where
  family : String
  shape : Shape
  deriving DecidableEq, Repr

structure Grammar where
  /-- The name of the written file, without its extension. -/
  stem : String
  root : Root
  /-- Where the module takes its tokens from. -/
  scanner : String
  families : List Family
  deriving DecidableEq, Repr

namespace Grammar

def defaultScanner : String := "crate::scanner"

def variantCount (g : Grammar) : Nat := (g.families.flatMap (·.variants)).length

/-- The first family of exactly that name. -/
def find? (g : Grammar) (name : String) : Option Family := g.families.find? (·.name == name)

/-- Puts a family behind all others. -/
def push (g : Grammar) (f : Family) : Grammar := { g with families := g.families ++ [f] }

/-- Lets two families change places, if both are there. -/
def swap (g : Grammar) (i j : Nat) : Grammar :=
  match g.families[i]?, g.families[j]? with
  | some f, some f' => { g with families := (g.families.set i f').set j f }
  | _, _ => g

/-- Takes off the last family. -/
def pop (g : Grammar) : Grammar := { g with families := g.families.dropLast }

end Grammar

namespace Family

/-- Puts a variant behind all others. -/
def push (f : Family) (v : Variant) : Family := { f with variants := f.variants ++ [v] }

end Family

/-- The grammar with a variant put into the family at `index`, if there is one. -/
def Grammar.pushVariant (g : Grammar) (index : Nat) (v : Variant) : Grammar :=
  { g with families := g.families.modify index (·.push v) }

end NodeFamilies
