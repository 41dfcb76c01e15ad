import NodeFamilies.Json.Blank

/-!
# Numbers in a document

Whole numbers of up to 64 bits are kept as they are. All others become binary floating point,
made of as many leading digits as fit into 64 bits and a power of ten.
-/

namespace NodeFamilies.Json

open Decimal (Binary64 powerOfTwo)

def isDigit (c : Char) : Bool := '0' ≤ c && c ≤ '9'

def digitValue (c : Char) : Nat := c.toNat - '0'.toNat

def startsWithDigit : List Char → Bool
  | c :: _ => isDigit c
  | [] => false

def skipDigits (text : List Char) : List Char := text.dropWhile isDigit

def countDigits (text : List Char) : Nat := (text.takeWhile isDigit).length

/-- The largest number of 64 bits. -/
def largestWord : Nat := powerOfTwo 64 - 1

/-- The largest exponent that is added up; a longer one counts as endless. -/
def largestExponent : Nat := powerOfTwo 31 - 1

/-- Appends digits to `n` while they fit: the new number, how many there were, and the rest. -/
def absorbDigits (n : Nat) (count : Nat) : List Char → Nat × Nat × List Char
  | [] => (n, count, [])
  | c :: rest =>
    if isDigit c && n * 10 + digitValue c ≤ largestWord then
      absorbDigits (n * 10 + digitValue c) (count + 1) rest
    else (n, count, c :: rest)

/-- `digits * 10 ^ exponent` as a number, with `rest` left to read. -/
def finishFloat (negative : Bool) (digits : Nat) (exponent : Int) (rest : List Char) :
    Except Fault (Number × List Char) :=
  match Binary64.ofDecimal? digits exponent with
  | some x => .ok (.float negative x, rest)
  | none => .error (.before .numberOutOfRange rest)

/-- Reads the digits of an exponent; `none` if they are too many. -/
def exponentDigits (e : Nat) : List Char → Option Nat × List Char
  | [] => (some e, [])
  | c :: rest =>
    if isDigit c then
      if e * 10 + digitValue c ≤ largestExponent then exponentDigits (e * 10 + digitValue c) rest
      else (none, rest)
    else (some e, c :: rest)

/-- The sign of an exponent, and what follows it. -/
def exponentSign : List Char → Bool × List Char
  | '+' :: rest => (false, rest)
  | '-' :: rest => (true, rest)
  | text => (false, text)

/-- Reads an exponent from behind its letter on. -/
def readExponent (negative : Bool) (digits : Nat) (start : Int) (text : List Char) :
    Except Fault (Number × List Char) :=
  let (down, text) := exponentSign text
  match text with
  | [] => .error (.before .endOfValue [])
  | c :: rest =>
    if !isDigit c then .error (.ahead .invalidNumber (c :: rest))
    else match exponentDigits (digitValue c) rest with
      | (some e, rest) => finishFloat negative digits (if down then start - e else start + e) rest
      | (none, rest) =>
        if digits ≠ 0 && !down then .error (.before .numberOutOfRange rest)
        else .ok (.float negative Binary64.zero, skipDigits rest)

/-- Ends a number that is not whole, or reads its exponent. -/
def exponentOrEnd (negative : Bool) (digits : Nat) (exponent : Int) (text : List Char) :
    Except Fault (Number × List Char) :=
  match text with
  | 'e' :: rest => readExponent negative digits exponent rest
  | 'E' :: rest => readExponent negative digits exponent rest
  | rest => finishFloat negative digits exponent rest

/-- Reads what follows a decimal point; digits that do not fit any more are passed over. -/
def readFraction (negative : Bool) (digits : Nat) (exponent : Int) (text : List Char) :
    Except Fault (Number × List Char) :=
  let (digits, count, rest) := absorbDigits digits 0 text
  if startsWithDigit rest then exponentOrEnd negative digits (exponent - count) (skipDigits rest)
  else if count = 0 then
    match rest with
    | [] => .error (.before .endOfValue [])
    | _ => .error (.ahead .invalidNumber rest)
  else exponentOrEnd negative digits (exponent - count) rest

/-- A whole number; the negative of zero, and what is too far below it, is no word. -/
def wholeNumber (negative : Bool) (n : Nat) : Option Number :=
  if !negative then some (.natural n)
  else if n ≠ 0 && n ≤ powerOfTwo 63 then some (.negative n)
  else (Binary64.ofNat? n).map (.float true)

/-- Ends a number after the digits `n` of its whole part. -/
def readAfterWhole (negative : Bool) (n : Nat) (text : List Char) :
    Except Fault (Number × List Char) :=
  match text with
  | '.' :: rest => readFraction negative n 0 rest
  | 'e' :: rest => readExponent negative n 0 rest
  | 'E' :: rest => readExponent negative n 0 rest
  | rest =>
    match wholeNumber negative n with
    | some number => .ok (number, rest)
    | none => .error (.before .numberOutOfRange rest)

/-- Ends a number whose whole part does not fit into a word: its further digits are counted. -/
def readAfterLong (negative : Bool) (n : Nat) (text : List Char) :
    Except Fault (Number × List Char) :=
  match skipDigits text with
  | '.' :: rest => readFraction negative n (countDigits text) rest
  | rest => exponentOrEnd negative n (countDigits text) rest

/-- Reads a number from behind its sign on. -/
def readNumber (negative : Bool) (text : List Char) : Except Fault (Number × List Char) :=
  match text with
  | [] => .error (.before .endOfValue [])
  | c :: rest =>
    if c = '0' then
      if startsWithDigit rest then .error (.ahead .invalidNumber rest)
      else readAfterWhole negative 0 rest
    else if isDigit c then
      let (n, _, rest) := absorbDigits (digitValue c) 0 rest
      if startsWithDigit rest then readAfterLong negative n rest
      else readAfterWhole negative n rest
    else .error (.ahead .invalidNumber (c :: rest))

end NodeFamilies.Json
