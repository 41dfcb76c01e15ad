import NodeFamilies.Json.Schema
import NodeFamilies.Json.Skip

/-!
# Reading a document

One value is read as its schema says, and nothing is read behind it. The first fault ends the
reading; its path is built on the way out.
-/

namespace NodeFamilies.Json

/-- Says of a fault that it lies one step further in. -/
def within {α : Type} (step : Step) (result : Except Fault α) : Except Fault α :=
  result.mapError (Fault.under step)

/-! ## A value of the wrong kind -/

/-- What the first value in `text` is, as far as it has to be read to tell. -/
def findValue (text : List Char) : Except Fault (Found × List Char) :=
  match text with
  | 'n' :: rest => do return (.null, ← readWord ['u', 'l', 'l'] rest)
  | 't' :: rest => do return (.boolean true, ← readWord ['r', 'u', 'e'] rest)
  | 'f' :: rest => do return (.boolean false, ← readWord ['a', 'l', 's', 'e'] rest)
  | '"' :: rest => do
    let (s, rest) ← readText rest
    return (.text s, rest)
  | '[' :: _ => .ok (.sequence, text)
  | '\x7b' :: _ => .ok (.map, text)
  | '-' :: rest => do
    let (n, rest) ← readNumber true rest
    return (.number n, rest)
  | _ =>
    if startsWithDigit text then do
      let (n, rest) ← readNumber false text
      return (.number n, rest)
    else .error (.ahead .expectedValue text)

def wrongType (wanted : String) (text : List Char) : Fault :=
  match findValue text with
  | .ok (found, rest) => .before (.wrongType found wanted) rest
  | .error fault => fault

/-! ## Lists and objects -/

/-- Where a list or an object goes on: with an item, or behind its closing bracket. -/
inductive Next where
  | item (text : List Char)
  | closed (rest : List Char)
  deriving DecidableEq, Repr

/-- The next element of a list; the first one has no comma before it. -/
def nextElement (first : Bool) (text : List Char) : Except Fault Next :=
  match skipBlanks text with
  | [] => .error (.before .endOfList [])
  | ']' :: rest => .ok (.closed rest)
  | c :: rest =>
    if first then .ok (.item (c :: rest))
    else if c = ',' then
      match skipBlanks rest with
      | [] => .error (.before .endOfValue [])
      | ']' :: rest => .error (.ahead .trailingComma (']' :: rest))
      | rest => .ok (.item rest)
    else .error (.ahead .expectedListCommaOrEnd (c :: rest))

/-- The next key of an object, from behind its opening quote on. -/
def nextKey (first : Bool) (text : List Char) : Except Fault Next :=
  match skipBlanks text with
  | [] => .error (.before .endOfObject [])
  | '\x7d' :: rest => .ok (.closed rest)
  | c :: rest =>
    if first then
      if c = '"' then .ok (.item rest) else .error (.ahead .keyNotString (c :: rest))
    else if c = ',' then
      match skipBlanks rest with
      | [] => .error (.before .endOfValue [])
      | '"' :: rest => .ok (.item rest)
      | '\x7d' :: rest => .error (.ahead .trailingComma ('\x7d' :: rest))
      | rest => .error (.ahead .keyNotString rest)
    else .error (.ahead .expectedObjectCommaOrEnd (c :: rest))

def readColon (text : List Char) : Except Fault (List Char) :=
  match skipBlanks text with
  | [] => .error (.before .endOfObject [])
  | ':' :: rest => .ok rest
  | rest => .error (.ahead .expectedColon rest)

/-- Reads the elements of a list from the one at `index` on. Each takes at least one character,
so a bound as long as the text is enough. -/
def readElements {α : Type} (item : List Char → Except Fault (α × List Char)) :
    Nat → Nat → List Char → Except Fault (List α × List Char)
  | 0, _, _ => .error (.before .endOfList [])
  | bound + 1, index, text => do
    match ← nextElement (index == 0) text with
    | .closed rest => return ([], rest)
    | .item text =>
      let (a, rest) ← within (.index index) (item text)
      let (as, rest) ← readElements item bound (index + 1) rest
      return (a :: as, rest)

/-- Reads the members of an object. `member` goes on behind a key and returns what is known then. -/
def readMembers {σ : Type} (member : String → σ → List Char → Except Fault (σ × List Char)) :
    Nat → Bool → σ → List Char → Except Fault (σ × List Char)
  | 0, _, _, _ => .error ((Fault.before .endOfObject []).under .unknown)
  | bound + 1, first, known, text => do
    match ← within .unknown (nextKey first text) with
    | .closed rest => return (known, rest)
    | .item text =>
      let (key, rest) ← within .unknown (readText text)
      let (known, rest) ← member key known rest
      readMembers member bound false known rest

/-- The end of a list after its last element. -/
def closeList (text : List Char) : Except Fault (List Char) :=
  match skipBlanks text with
  | [] => .error (.before .endOfList [])
  | ']' :: rest => .ok rest
  | ',' :: rest =>
    match skipBlanks rest with
    | ']' :: rest => .error (.ahead .trailingComma (']' :: rest))
    | rest => .error (.ahead .trailingCharacters rest)
  | rest => .error (.ahead .trailingCharacters rest)

/-- A refused key is noticed only behind the blanks after it, and behind the object if it ends
there. -/
def afterRefusedKey (text : List Char) : List Char :=
  match skipBlanks text with
  | '\x7d' :: rest => rest
  | rest => rest

/-! ## Names -/

/-- Reads a name from behind its opening quote on. -/
def readName {α : Type} (options : List (String × α)) (text : List Char) :
    Except Fault ((String × α) × List Char) := do
  let (name, rest) ← readText text
  match options.lookup name with
  | some a => return ((name, a), rest)
  | none => .error (.before (.unknownVariant name (options.map (·.1))) rest)

def readNull (text : List Char) : Except Fault (List Char) :=
  match skipBlanks text with
  | [] => .error (.before .endOfValue [])
  | 'n' :: rest => readWord ['u', 'l', 'l'] rest
  | rest => .error (wrongType "unit" rest)

/-- Reads an object whose only key is a name and whose only value is null. -/
def readNameObject {α : Type} (options : List (String × α)) (text : List Char) :
    Except Fault (α × List Char) :=
  match skipBlanks text with
  | [] => .error (.before .endOfObject [])
  | '"' :: rest => do
    let ((name, a), rest) ← readName options rest
    let rest ← readColon rest
    let rest ← within (.key name) (readNull rest)
    match skipBlanks rest with
    | [] => .error (.before .endOfObject [])
    | '\x7d' :: rest => return (a, rest)
    | rest => .error (.before .expectedValue rest)
  | '\x7d' :: rest => .error (.ahead .expectedValue ('\x7d' :: rest))
  | rest => .error (.ahead .keyNotString rest)

def readChoice {α : Type} (options : List (String × α)) (text : List Char) :
    Except Fault (α × List Char) :=
  match skipBlanks text with
  | [] => .error (.before .endOfValue [])
  | '"' :: rest => do
    let ((_, a), rest) ← readName options rest
    return (a, rest)
  | '\x7b' :: rest => readNameObject options rest
  | rest => .error (.ahead .expectedValue rest)

/-! ## Leaves -/

def readString (text : List Char) : Except Fault (String × List Char) :=
  match skipBlanks text with
  | [] => .error (.before .endOfValue [])
  | '"' :: rest => readText rest
  | rest => .error (wrongType "a string" rest)

/-- The byte that a number is. -/
def byteOf (n : Number) (rest : List Char) : Except Fault (Nat × List Char) :=
  match n with
  | .natural k => if k < 256 then .ok (k, rest) else .error (.before (.wrongNumber n "u8") rest)
  | .negative _ => .error (.before (.wrongNumber n "u8") rest)
  | .float _ _ => .error (.before (.wrongType (.number n) "u8") rest)

def readByte (text : List Char) : Except Fault (Nat × List Char) :=
  match skipBlanks text with
  | [] => .error (.before .endOfValue [])
  | '-' :: rest => do
    let (n, rest) ← readNumber true rest
    byteOf n rest
  | rest =>
    if startsWithDigit rest then do
      let (n, rest) ← readNumber false rest
      byteOf n rest
    else .error (wrongType "u8" rest)

/-! ## Everything -/

/-- The message for a list that is too short for a record. -/
def Fields.wantedRow {β σ : Type} (title : String) (fields : Fields β σ) : String :=
  let n := fields.keys.length
  title ++ " with " ++ toString n ++ (if n = 1 then " element" else " elements")

mutual

def Schema.read {α : Type} : Schema α → List Char → Except Fault (α × List Char)
  | .text, text => readString text
  | .byte, text => readByte text
  | .choice options, text => readChoice options text
  | .list item, text =>
    match skipBlanks text with
    | [] => .error (.before .endOfValue [])
    | '[' :: rest => readElements item.read rest.length 0 rest
    | rest => .error (wrongType "a sequence" rest)
  | .table item, text =>
    match skipBlanks text with
    | [] => .error (.before .endOfValue [])
    | '\x7b' :: rest =>
      readMembers (fun key entries rest => do
        let rest ← readColon rest
        let (a, rest) ← within (.key key) (item.read rest)
        return (entries ++ [(key, a)], rest)) rest.length true [] rest
    | rest => .error (wrongType "a map" rest)
  | .record title closed fields build, text =>
    match skipBlanks text with
    | [] => .error (.before .endOfValue [])
    | '[' :: rest => do
      let (b, rest) ← fields.readRow (fields.wantedRow title) 0 rest
      return (build b, rest)
    | '\x7b' :: rest => do
      let (slots, rest) ← readMembers (fun key slots rest =>
        if fields.isRead key slots then
          .error (.before (.duplicateField key) (afterRefusedKey rest))
        else if fields.keys.contains key then do
          let rest ← readColon rest
          within (.key key) (fields.readField key slots rest)
        else if closed then
          .error ((Fault.before (.unknownField key fields.keys) (afterRefusedKey rest)).under
            (.key key))
        else do
          let rest ← readColon rest
          return (slots, ← within (.key key) (skipValue rest))) rest.length true fields.unread rest
      match fields.complete slots with
      | .ok b => return (build b, rest)
      | .error key => .error (.before (.missingField key) rest)
    | rest => .error (wrongType title rest)

/-- Reads the value of the field of that key. -/
def Fields.readField {β σ : Type} :
    Fields β σ → String → σ → List Char → Except Fault (σ × List Char)
  | .none, _, slots, text => .ok (slots, text)
  | .field k _ item rest, key, (slot, slots), text =>
    if k = key then do
      let (a, text) ← item.read text
      return ((some a, slots), text)
    else do
      let (slots, text) ← rest.readField key slots text
      return ((slot, slots), text)

/-- Reads the fields from the one at `index` on out of a list. -/
def Fields.readRow {β σ : Type} (fields : Fields β σ) (wanted : String) (index : Nat)
    (text : List Char) : Except Fault (β × List Char) :=
  match fields with
  | .none => do return ((), ← closeList text)
  | .field _ fallback item rest => do
    match ← nextElement (index == 0) text with
    | .item text =>
      let (a, text) ← within (.index index) (item.read text)
      let (b, text) ← rest.readRow wanted (index + 1) text
      return ((a, b), text)
    | .closed text =>
      match fallback, rest.fallbacks (index + 1) with
      | some a, .ok b => return ((a, b), text)
      | Option.none, _ => .error (.before (.wrongLength index wanted) text)
      | _, .error n => .error (.before (.wrongLength n wanted) text)

end

/-- Reads the first value of a text; what stands behind it does not matter. -/
def Schema.ofText {α : Type} (schema : Schema α) (text : String) : Except Fault α :=
  (schema.read text.toList).map (·.1)

end NodeFamilies.Json
