import NodeFamilies.Decimal.Shortest
import NodeFamilies.Text.Quoted
import NodeFamilies.Text.Utf8

/-!
# What can be wrong with a document

A fault has a cause, a place in the text and a path into the document. The place is the number
of bytes left unread when the fault is noticed.
-/

namespace NodeFamilies.Json

/-- A number as it stands in a document. -/
inductive Number where
  | natural (n : Nat)
  /-- The negative of `n`, which is not zero. -/
  | negative (n : Nat)
  | float (negative : Bool) (size : Decimal.Binary64)
  deriving DecidableEq, Repr

/-- What stands where something else is wanted. -/
inductive Found where
  | null
  | boolean (b : Bool)
  | number (n : Number)
  | text (s : String)
  | sequence
  | map
  deriving DecidableEq, Repr

inductive Cause where
  | endOfList
  | endOfObject
  | endOfString
  | endOfValue
  | expectedColon
  | expectedListCommaOrEnd
  | expectedObjectCommaOrEnd
  | expectedWord
  | expectedValue
  | invalidEscape
  | invalidNumber
  | numberOutOfRange
  | controlCharacter
  | keyNotString
  | loneSurrogate
  | unfinishedSurrogate
  | trailingComma
  | trailingCharacters
  /-- A value of the wrong kind, with what is wanted. -/
  | wrongType (found : Found) (wanted : String)
  /-- A number of the right kind that does not fit. -/
  | wrongNumber (found : Number) (wanted : String)
  | wrongLength (length : Nat) (wanted : String)
  | unknownField (key : String) (known : List String)
  | unknownVariant (name : String) (known : List String)
  | duplicateField (key : String)
  | missingField (key : String)
  deriving DecidableEq, Repr

/-- One step into a document. -/
inductive Step where
  | key (name : String)
  | index (i : Nat)
  /-- A member whose key is not known yet. -/
  | unknown
  deriving DecidableEq, Repr

structure Fault where
  cause : Cause
  left : Nat
  path : List Step
  deriving DecidableEq, Repr

namespace Fault

/-- The fault noticed with `rest` left to read. -/
def before (cause : Cause) (rest : List Char) : Fault := ⟨cause, Text.byteCount rest, []⟩

/-- The fault of the byte that comes next, if there is one. -/
def ahead (cause : Cause) (rest : List Char) : Fault := ⟨cause, Text.byteCount rest - 1, []⟩

/-- The same fault, seen from one level further out. -/
def under (step : Step) (f : Fault) : Fault := { f with path := step :: f.path }

end Fault

/-! ## Texts -/

def Number.text : Number → String
  | natural n => "integer `" ++ toString n ++ "`"
  | negative n => "integer `-" ++ toString n ++ "`"
  | float s x => "floating point `" ++ Decimal.floatText s x ++ "`"

def Found.describe : Found → String
  | null => "null"
  | boolean b => "boolean `" ++ (if b then "true" else "false") ++ "`"
  | number n => n.text
  | text s => "string " ++ Text.quoted s
  | sequence => "sequence"
  | map => "map"

/-- A choice of names, as it follows the word "expected". -/
def oneOf (names : List String) : String :=
  match names.map (fun n => "`" ++ n ++ "`") with
  | [a, b] => a ++ " or " ++ b
  | [a] => a
  | all => "one of " ++ ", ".intercalate all

def Cause.message : Cause → String
  | endOfList => "EOF while parsing a list"
  | endOfObject => "EOF while parsing an object"
  | endOfString => "EOF while parsing a string"
  | endOfValue => "EOF while parsing a value"
  | expectedColon => "expected `:`"
  | expectedListCommaOrEnd => "expected `,` or `]`"
  | expectedObjectCommaOrEnd => "expected `,` or `\x7d`"
  | expectedWord => "expected ident"
  | expectedValue => "expected value"
  | invalidEscape => "invalid escape"
  | invalidNumber => "invalid number"
  | numberOutOfRange => "number out of range"
  | controlCharacter =>
    "control character (\\u0000-\\u001F) found while parsing a string"
  | keyNotString => "key must be a string"
  | loneSurrogate => "lone leading surrogate in hex escape"
  | unfinishedSurrogate => "unexpected end of hex escape"
  | trailingComma => "trailing comma"
  | trailingCharacters => "trailing characters"
  | wrongType found wanted => "invalid type: " ++ found.describe ++ ", expected " ++ wanted
  | wrongNumber found wanted => "invalid value: " ++ found.text ++ ", expected " ++ wanted
  | wrongLength n wanted => "invalid length " ++ toString n ++ ", expected " ++ wanted
  | unknownField key known => "unknown field `" ++ key ++ "`, expected " ++ oneOf known
  | unknownVariant name known => "unknown variant `" ++ name ++ "`, expected " ++ oneOf known
  | duplicateField key => "duplicate field `" ++ key ++ "`"
  | missingField key => "missing field `" ++ key ++ "`"

/-- What separates a step from the one before it, and the step itself. -/
def Step.text (first : Bool) : Step → String
  | index i => "[" ++ toString i ++ "]"
  | key name => (if first then "" else ".") ++ name
  | unknown => (if first then "" else ".") ++ "?"

/-- A path in dotted form; the whole document is a single dot. -/
def pathText : List Step → String
  | [] => "."
  | s :: rest => s.text true ++ String.join (rest.map (Step.text false))

/-! ## Places -/

structure Place where
  line : Nat
  column : Nat
  deriving DecidableEq, Repr

/-- Moves over `bytes` bytes of the text. -/
def Place.advance (p : Place) (bytes : Nat) : List Char → Place
  | [] => p
  | c :: cs =>
    if bytes < c.utf8Size then ⟨p.line, p.column + bytes⟩
    else if c = '\n' then Place.advance ⟨p.line + 1, 0⟩ (bytes - 1) cs
    else Place.advance ⟨p.line, p.column + c.utf8Size⟩ (bytes - c.utf8Size) cs

/-- Where a text has been read up to when `left` bytes are left. -/
def Place.of (text : List Char) (left : Nat) : Place :=
  Place.advance ⟨1, 0⟩ (Text.byteCount text - left) text

/-- The message of a fault in `text`, with its place. -/
def Fault.detail (text : List Char) (f : Fault) : String :=
  let p := Place.of text f.left
  f.cause.message ++ " at line " ++ toString p.line ++ " column " ++ toString p.column

end NodeFamilies.Json
