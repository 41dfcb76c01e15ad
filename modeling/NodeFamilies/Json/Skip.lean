import NodeFamilies.Json.Number
import NodeFamilies.Json.Text

/-!
# Values that are passed over

A value nobody asked for is only looked through for its end. Its brackets may nest to any depth,
its numbers may be of any size and its surrogates need no partner.
-/

namespace NodeFamilies.Json

/-! ## Texts and numbers -/

/-- Passes over what follows a backslash. -/
def skipEscape : List Char → Except Fault (List Char)
  | [] => .error (.before .endOfString [])
  | c :: rest =>
    if c = 'u' then
      match rest with
      | a :: b :: c :: d :: more =>
        if (hexValue? a b c d).isSome then .ok more else .error (hexFault rest)
      | _ => .error (hexFault rest)
    else if (shortEscape? c).isSome then .ok rest
    else .error (.ahead .invalidEscape (c :: rest))

/-- Passes over a text from behind its opening quote on. -/
def skipText : Nat → List Char → Except Fault (List Char)
  | 0, _ => .error (.before .endOfString [])
  | _ + 1, [] => .error (.before .endOfString [])
  | bound + 1, c :: rest =>
    if c = '"' then .ok rest
    else if c = '\\' then do skipText bound (← skipEscape rest)
    else if c.toNat < 0x20 then .error (.before .controlCharacter (c :: rest))
    else skipText bound rest

/-- Passes over an exponent from behind its letter on. -/
def skipExponent (text : List Char) : Except Fault (List Char) :=
  match (exponentSign text).2 with
  | [] => .error (.before .invalidNumber [])
  | c :: rest =>
    if isDigit c then .ok (skipDigits rest) else .error (.ahead .invalidNumber (c :: rest))

def skipExponentIfAny (text : List Char) : Except Fault (List Char) :=
  match text with
  | 'e' :: rest => skipExponent rest
  | 'E' :: rest => skipExponent rest
  | rest => .ok rest

/-- Passes over what follows the whole part of a number. -/
def skipAfterWhole (text : List Char) : Except Fault (List Char) :=
  match text with
  | '.' :: rest =>
    if startsWithDigit rest then skipExponentIfAny (skipDigits rest)
    else .error (.ahead .invalidNumber rest)
  | rest => skipExponentIfAny rest

/-- Passes over a number from behind its sign on. -/
def skipNumber (text : List Char) : Except Fault (List Char) :=
  match text with
  | [] => .error (.before .invalidNumber [])
  | c :: rest =>
    if c = '0' then
      if startsWithDigit rest then .error (.ahead .invalidNumber rest) else skipAfterWhole rest
    else if isDigit c then skipAfterWhole (skipDigits rest)
    else .error (.ahead .invalidNumber (c :: rest))

/-! ## Nested values -/

/-- A bracket that is still open. -/
inductive Bracket where
  | list
  | object
  deriving DecidableEq, Repr

/-- What comes next while a value is passed over. -/
inductive Awaited where
  | value
  | key
  /-- A comma or the bracket that closes. -/
  | separator
  deriving DecidableEq, Repr

/-- Passes over a value that has no parts. -/
def skipScalar (c : Char) (rest : List Char) : Except Fault (List Char) :=
  match c with
  | 'n' => readWord ['u', 'l', 'l'] rest
  | 't' => readWord ['r', 'u', 'e'] rest
  | 'f' => readWord ['a', 'l', 's', 'e'] rest
  | '"' => skipText rest.length rest
  | '-' => skipNumber rest
  | c =>
    if isDigit c then skipNumber (c :: rest) else .error (.ahead .expectedValue (c :: rest))

/-- Passes over a key and the colon behind it, from behind the opening quote on. -/
def skipKey (text : List Char) : Except Fault (List Char) := do
  let rest ← skipText text.length text
  match skipBlanks rest with
  | ':' :: rest => .ok rest
  | [] => .error (.before .endOfObject [])
  | rest => .error (.ahead .expectedColon rest)

/-- Passes over the rest of a value inside the open brackets. Each round takes at least one
character, so a bound as long as the text is enough. -/
def skipRest : Nat → Awaited → List Bracket → List Char → Except Fault (List Char)
  | 0, _, _, _ => .error (.before .endOfValue [])
  | bound + 1, .value, stack, text =>
    match skipBlanks text with
    | [] => .error (.before .endOfValue [])
    | '[' :: rest =>
      match skipBlanks rest with
      | [] => .error (.before .endOfList [])
      | ']' :: rest => skipRest bound .separator stack rest
      | rest => skipRest bound .value (.list :: stack) rest
    | '\x7b' :: rest =>
      match skipBlanks rest with
      | [] => .error (.before .endOfObject [])
      | '\x7d' :: rest => skipRest bound .separator stack rest
      | rest => skipRest bound .key (.object :: stack) rest
    | c :: rest => do skipRest bound .separator stack (← skipScalar c rest)
  | bound + 1, .key, stack, text =>
    match skipBlanks text with
    | [] => .error (.before .endOfObject [])
    | '"' :: rest => do skipRest bound .value stack (← skipKey rest)
    | rest => .error (.ahead .keyNotString rest)
  | _ + 1, .separator, [], text => .ok text
  | bound + 1, .separator, .list :: stack, text =>
    match skipBlanks text with
    | [] => .error (.before .endOfList [])
    | ',' :: rest => skipRest bound .value (.list :: stack) rest
    | ']' :: rest => skipRest bound .separator stack rest
    | rest => .error (.ahead .expectedListCommaOrEnd rest)
  | bound + 1, .separator, .object :: stack, text =>
    match skipBlanks text with
    | [] => .error (.before .endOfObject [])
    | ',' :: rest => skipRest bound .key (.object :: stack) rest
    | '\x7d' :: rest => skipRest bound .separator stack rest
    | rest => .error (.ahead .expectedObjectCommaOrEnd rest)

/-- Passes over one value and the blanks before it. -/
def skipValue (text : List Char) : Except Fault (List Char) :=
  skipRest (text.length + 1) .value [] text

end NodeFamilies.Json
