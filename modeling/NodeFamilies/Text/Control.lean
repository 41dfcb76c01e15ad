/-!
# Control sequences

An escape character makes an order to the terminal out of the characters behind it. A text that was
given to us is shown without such orders, and without control characters other than white space.
Nothing else is taken away: a text of showable characters stays as it is.
-/

namespace NodeFamilies.Text.Control

/-! ## Characters -/

def isControl (c : Char) : Bool := c.toNat < 0x20 || c.toNat = 0x7F

/-- The control characters that are white space; the vertical tab is none. -/
def isSpace (c : Char) : Bool := c = '\t' || c = '\n' || c = '\x0c' || c = '\r'

/-- What is shown where no order is being given. -/
def isShown (c : Char) : Bool := isSpace c || !isControl c

/-- Whether the code point of `c` lies from `first` to `last`. -/
def isBetween (first last : Nat) (c : Char) : Bool := first ≤ c.toNat && c.toNat ≤ last

/-- The signs that may stand before the last character of an order. -/
def isSign (c : Char) : Bool := isBetween 0x20 0x2F c

/-! ## Orders -/

/-- Which part of an order is being read. -/
inductive Part where
  /-- Behind the escape character. -/
  | opening
  /-- Behind a sign: the next character that is none ends the order. -/
  | signs
  /-- Behind a bracket: the numbers and signs of a command, up to its letter. -/
  | command
  /-- The head of a device text. -/
  | deviceHead
  /-- The numbers in the head of a device text. -/
  | deviceNumbers
  /-- The signs in the head of a device text. -/
  | deviceSigns
  /-- A text for a device, up to a string terminator. -/
  | deviceText
  /-- A text for the system, such as a window title, up to a bell. -/
  | systemText
  deriving DecidableEq, Repr

namespace Part

/-- White space is shown in these parts; a text for somebody else keeps its own. -/
def showsSpace : Part → Bool
  | opening => true
  | signs => true
  | command => true
  | _ => false

/-- The byte that terminates a device text, wherever it stands in a character. -/
def terminator : UInt8 := 0x9C

/-- The part of the order behind `c`, or none if the order is over. Escape begins a new order in
every part, and two control characters call the order off. -/
def next (p : Part) (c : Char) : Option Part :=
  if c = '\x1b' then some opening
  else if c = '\x18' || c = '\x1a' then none
  else match p with
    | opening =>
      if isSign c then some signs
      else if c = '[' then some command
      else if c = ']' then some systemText
      else if c = 'P' then some deviceHead
      else if c = 'X' || c = '^' || c = '_' then some deviceText
      else if isBetween 0x30 0x7E c then none
      else some opening
    | signs => if isBetween 0x30 0x7E c then none else some signs
    | command => if isBetween 0x40 0x7E c then none else some command
    | deviceHead =>
      if isSign c then some deviceSigns
      else if isBetween 0x30 0x3F c then some deviceNumbers
      else if isBetween 0x40 0x7E c then some deviceText
      else some deviceHead
    | deviceNumbers =>
      if isSign c then some deviceSigns
      else if isBetween 0x3C 0x7E c then some deviceText
      else some deviceNumbers
    | deviceSigns => if isBetween 0x30 0x7E c then some deviceText else some deviceSigns
    | deviceText => if (String.utf8EncodeChar c).contains terminator then none else some deviceText
    | systemText => if c = '\x07' then none else some systemText

end Part

/-! ## Texts -/

inductive State where
  /-- No order is being given. -/
  | free
  | inside (p : Part)
  /-- White space has broken an order off: what follows is shown, and the next control character
  goes on with the order. -/
  | broken (p : Part)
  deriving DecidableEq, Repr

namespace State

def ofPart? : Option Part → State
  | some p => inside p
  | none => free

/-- Whether `c` is shown. -/
def shows (s : State) (c : Char) : Bool :=
  match s with
  | free => isShown c
  | inside p => isSpace c && p.showsSpace
  | broken _ => isShown c

/-- The state behind `c`. A character above ASCII makes a broken order forgotten. -/
def next (s : State) (c : Char) : State :=
  match s with
  | free => if c = '\x1b' then inside .opening else free
  | inside p => if s.shows c then broken p else ofPart? (p.next c)
  | broken p =>
    if isShown c then (if c.toNat < 0x80 then broken p else free) else ofPart? (p.next c)

end State

/-- The characters of `text` that are shown, read on from a state. -/
def shownFrom : State → List Char → List Char
  | _, [] => []
  | s, c :: text =>
    if s.shows c then c :: shownFrom (s.next c) text else shownFrom (s.next c) text

end NodeFamilies.Text.Control

namespace NodeFamilies.Text

/-- A text without its control characters and sequences. -/
def plain (s : String) : String := String.ofList (Control.shownFrom .free s.toList)

end NodeFamilies.Text
