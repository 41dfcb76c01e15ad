import NodeFamilies.Json.Fault

/-!
# Between the tokens

The blanks of a document, and its fixed words.
-/

namespace NodeFamilies.Json

def isBlank (c : Char) : Bool := c == ' ' || c == '\n' || c == '\t' || c == '\r'

def skipBlanks (text : List Char) : List Char := text.dropWhile isBlank

/-- Reads the rest of a fixed word. -/
def readWord : List Char → List Char → Except Fault (List Char)
  | [], text => .ok text
  | _ :: _, [] => .error (.before .endOfValue [])
  | w :: word, c :: rest =>
    if c = w then readWord word rest else .error (.ahead .expectedWord (c :: rest))

end NodeFamilies.Json
