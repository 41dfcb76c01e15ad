import NodeFamilies.Json.Blank

/-!
# Texts in a document

What stands between two double quotes. A character outside the basic plane may be written as
two escapes, one for each of its surrogates.
-/

namespace NodeFamilies.Json

def hexDigit? (c : Char) : Option Nat :=
  if '0' ≤ c && c ≤ '9' then some (c.toNat - '0'.toNat)
  else if 'a' ≤ c && c ≤ 'f' then some (c.toNat - 'a'.toNat + 10)
  else if 'A' ≤ c && c ≤ 'F' then some (c.toNat - 'A'.toNat + 10)
  else none

def hexValue? (a b c d : Char) : Option Nat := do
  let a ← hexDigit? a
  let b ← hexDigit? b
  let c ← hexDigit? c
  let d ← hexDigit? d
  return ((a * 16 + b) * 16 + c) * 16 + d

/-- An escape takes four bytes, whatever they are. -/
def hexFault (text : List Char) : Fault :=
  if Text.byteCount text < 4 then .before .endOfString []
  else ⟨.invalidEscape, Text.byteCount text - 4, []⟩

def readHex (text : List Char) : Except Fault (Nat × List Char) :=
  match text with
  | a :: b :: c :: d :: rest =>
    match hexValue? a b c d with
    | some n => .ok (n, rest)
    | none => .error (hexFault text)
  | _ => .error (hexFault text)

def isLeadSurrogate (n : Nat) : Bool := 0xD800 ≤ n && n ≤ 0xDBFF

def isTrailSurrogate (n : Nat) : Bool := 0xDC00 ≤ n && n ≤ 0xDFFF

def joinSurrogates (lead trail : Nat) : Char :=
  Char.ofNat ((lead - 0xD800) * 0x400 + (trail - 0xDC00) + 0x10000)

/-- Reads the second of two surrogates, from its backslash on. -/
def readTrail (lead : Nat) : List Char → Except Fault (Char × List Char)
  | [] => .error (.before .endOfString [])
  | '\\' :: rest =>
    match rest with
    | [] => .error (.before .endOfString [])
    | 'u' :: digits => do
      let (n, rest) ← readHex digits
      if isTrailSurrogate n then .ok (joinSurrogates lead n, rest)
      else .error (.before .loneSurrogate rest)
    | c :: rest => .error (.ahead .unfinishedSurrogate (c :: rest))
  | c :: rest => .error (.ahead .unfinishedSurrogate (c :: rest))

/-- Reads the four digits of an escape, and a second escape if the first is half a character. -/
def readCodeUnits (text : List Char) : Except Fault (Char × List Char) := do
  let (n, rest) ← readHex text
  if isTrailSurrogate n then .error (.before .loneSurrogate rest)
  else if isLeadSurrogate n then readTrail n rest
  else .ok (Char.ofNat n, rest)

/-- What the letter after a backslash stands for. -/
def shortEscape? (c : Char) : Option Char :=
  match c with
  | '"' => some '"'
  | '\\' => some '\\'
  | '/' => some '/'
  | 'b' => some '\x08'
  | 'f' => some '\x0c'
  | 'n' => some '\n'
  | 'r' => some '\r'
  | 't' => some '\t'
  | _ => none

/-- Reads what follows a backslash. -/
def readEscape : List Char → Except Fault (Char × List Char)
  | [] => .error (.before .endOfString [])
  | c :: rest =>
    if c = 'u' then readCodeUnits rest
    else match shortEscape? c with
      | some d => .ok (d, rest)
      | none => .error (.ahead .invalidEscape (c :: rest))

/-- Reads the characters up to the closing quote. Each takes at least one of `text`, so a bound
that is as long as `text` is not used up before the text is. -/
def readCharacters : Nat → List Char → Except Fault (List Char × List Char)
  | 0, _ => .error (.before .endOfString [])
  | _ + 1, [] => .error (.before .endOfString [])
  | bound + 1, c :: rest =>
    if c = '"' then .ok ([], rest)
    else if c = '\\' then do
      let (d, rest) ← readEscape rest
      let (ds, rest) ← readCharacters bound rest
      return (d :: ds, rest)
    else if c.toNat < 0x20 then .error (.before .controlCharacter rest)
    else do
      let (ds, rest) ← readCharacters bound rest
      return (c :: ds, rest)

/-- Reads a text from behind its opening quote on. -/
def readText (text : List Char) : Except Fault (String × List Char) := do
  let (cs, rest) ← readCharacters text.length text
  return (String.ofList cs, rest)

end NodeFamilies.Json
