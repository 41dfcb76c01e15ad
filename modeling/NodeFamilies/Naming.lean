import NodeFamilies.Text.Case

/-!
# Names

The names that a family gives rise to in the module, and the words that cannot be names there.
-/

namespace NodeFamilies.Naming

/-- The name of the union of a family. -/
def union (family : String) : String := Text.capitalize family

def visitor (family : String) : String := union family ++ "Visitor"

def method (family : String) : String := "visit_" ++ Text.lowercase family

/-! ## Words -/

/-- The words that are kept for the language, save those that stand for a place in it. -/
def keywords : List String :=
  ["abstract", "as", "async", "await", "become", "box", "break", "const", "continue", "do",
   "dyn", "else", "enum", "extern", "false", "final", "fn", "for", "gen", "if", "impl", "in",
   "let", "loop", "macro", "match", "mod", "move", "mut", "override", "priv", "pub", "ref",
   "return", "static", "struct", "trait", "true", "try", "type", "typeof", "unsafe", "unsized",
   "use", "virtual", "where", "while", "yield"]

/-- The words that cannot be used as names even when they are marked as such. -/
def pathWords : List String := ["self", "Self", "super", "crate", "_"]

def isReserved (name : String) : Bool := keywords.contains name || pathWords.contains name

/-- The name of the parameter of the visit method; a keyword is marked as a name. -/
def parameter (family : String) : String :=
  let lower := Text.lowercase family
  if keywords.contains lower then "r#" ++ lower else lower

/-! ## Identifiers -/

def isIdentifierStart (c : Char) : Bool := c.isAlpha || c == '_'

def isIdentifierPart (c : Char) : Bool := c.isAlphanum || c == '_'

/-- An ASCII letter or underscore, then ASCII letters, digits and underscores. -/
def isIdentifier (name : String) : Bool :=
  match name.toList with
  | [] => false
  | c :: cs => isIdentifierStart c && cs.all isIdentifierPart

/-- Whether the union or the parameter of a family is a word that cannot be a name. -/
def isReservedFamily (family : String) : Bool :=
  isReserved (union family) || pathWords.contains (Text.lowercase family)

end NodeFamilies.Naming
