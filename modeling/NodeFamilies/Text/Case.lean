import NodeFamilies.Text.UpperTable
import NodeFamilies.Text.LowerTable

/-!
# Upper and lower case

The full case maps of Unicode, without regard to language. A capital sigma at the end of a
word has a lower case of its own, so `lowercase` looks at both sides of it.
-/

namespace NodeFamilies.Text

def isAscii (c : Char) : Bool := c.toNat < 128

def upper (c : Char) : List Char :=
  if isAscii c then [c.toUpper]
  else match upperExpansions.lookup c.toNat with
    | some cs => cs.map Char.ofNat
    | none => [Char.ofNat (shiftBy upperRuns c.toNat)]

/-- The lower case of a character that stands alone. -/
def lower (c : Char) : List Char :=
  if isAscii c then [c.toLower]
  else if c = 'İ' then ['i', Char.ofNat 0x307]
  else [Char.ofNat (shiftBy lowerRuns c.toNat)]

/-! ## The end of a word -/

def isCased (c : Char) : Bool :=
  if isAscii c then c.isAlpha else inRanges casedRanges c.toNat

def isCaseIgnorable (c : Char) : Bool :=
  if isAscii c then ['\x27', '.', ':', '^', '\x60'].contains c
  else inRanges caseIgnorableRanges c.toNat

/-- Whether the first character that counts is a letter with case. -/
def startsCased (s : List Char) : Bool :=
  match s.dropWhile isCaseIgnorable with
  | c :: _ => isCased c
  | [] => false

/-- The lower case of `s`, where `before` is what stands before it, nearest first. -/
def lowercaseAfter (before : List Char) : List Char → List Char
  | [] => []
  | c :: after =>
    (if c = 'Σ' then [if startsCased before && !startsCased after then 'ς' else 'σ']
      else lower c) ++ lowercaseAfter (c :: before) after

def lowercase (s : String) : String := String.ofList (lowercaseAfter [] s.toList)

/-- Only the first character changes. -/
def capitalize (s : String) : String :=
  match s.toList with
  | [] => ""
  | c :: cs => String.ofList (upper c ++ cs)

end NodeFamilies.Text
