import NodeFamilies.Grammar.Basic
import NodeFamilies.Naming

/-!
# The text of a module

A module is the import line, the root container, and for each family its union followed by its
visitor. It is written piece by piece, and its text is the pieces in a row. Every item but the
first starts with an empty line.
-/

namespace NodeFamilies

/-- The line that imports the tokens. -/
def preludePieces (scanner : String) : List String :=
  ["use ", scanner, "::\x7bLiteral, Token\x7d;\n"]

def Root.type (r : Root) : String :=
  match r.shape with
  | .single => "Box<" ++ Naming.union r.family ++ ">"
  | .sequence => "Vec<Box<" ++ Naming.union r.family ++ ">>"

/-- The container of the root. -/
def Root.pieces (r : Root) : List String :=
  ["\n", "pub struct AST \x7b\n", "    pub root: ", r.type, ",\n", "\x7d\n"]

/-- One line of a union; a variant without payloads has no brackets. -/
def Variant.pieces (v : Variant) : List String :=
  match v.payloads with
  | [] => ["    ", v.name, ",\n"]
  | payloads => ["    ", v.name, "(", ", ".intercalate payloads, "),\n"]

def Family.unionPieces (f : Family) : List String :=
  ["\n", "pub enum ", Naming.union f.name, " \x7b\n"] ++ f.variants.flatMap Variant.pieces ++
    ["\x7d\n"]

def Family.visitorPieces (f : Family) : List String :=
  ["\n", "pub trait ", Naming.visitor f.name, "<E> \x7b\n",
   "    fn ", Naming.method f.name, "(&mut self, ", Naming.parameter f.name, ": &Box<",
   Naming.union f.name, ">) -> E;\n", "\x7d\n"]

def Family.pieces (f : Family) : List String := f.unionPieces ++ f.visitorPieces

def Grammar.pieces (g : Grammar) : List String :=
  preludePieces g.scanner ++ g.root.pieces ++ g.families.flatMap Family.pieces

/-- The text of the whole module. -/
def Grammar.render (g : Grammar) : String := String.join g.pieces

/-- What can be written by itself. -/
inductive Item where
  | prelude (scanner : String)
  | root (r : Root)
  | family (f : Family)
  | all (g : Grammar)
  deriving DecidableEq, Repr

def Item.pieces : Item → List String
  | prelude scanner => preludePieces scanner
  | root r => r.pieces
  | family f => f.pieces
  | all g => g.pieces

def Item.text (i : Item) : String := String.join i.pieces

end NodeFamilies
