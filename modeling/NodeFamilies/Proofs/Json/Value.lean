import Mathlib.Tactic.Common

/-!
# Values and the texts that spell them

The grammar of JSON, without a reader. A text spells a value with no blanks around it; a list is
spelled by its items, each with what leads up to it, and the closing bracket.
-/

namespace NodeFamilies.Json

inductive Value where
  | null
  | boolean (b : Bool)
  /-- A number as it is written. -/
  | number (literal : List Char)
  | text (s : String)
  | list (items : List Value)
  /-- The members in order, with keys that may repeat. -/
  | object (members : List (String × Value))

def Blanks (w : List Char) : Prop := ∀ c ∈ w, c = ' ' ∨ c = '\n' ∨ c = '\t' ∨ c = '\r'

/-! ## Texts -/

inductive HexDigit : Char → Nat → Prop where
  | digit {c : Char} : '0' ≤ c → c ≤ '9' → HexDigit c (c.toNat - 48)
  | lower {c : Char} : 'a' ≤ c → c ≤ 'f' → HexDigit c (c.toNat - 97 + 10)
  | upper {c : Char} : 'A' ≤ c → c ≤ 'F' → HexDigit c (c.toNat - 65 + 10)

/-- Sixteen bits as four digits. -/
inductive CodeUnit : Nat → List Char → Prop where
  | mk {a b c d : Char} {i j k l : Nat} : HexDigit a i → HexDigit b j → HexDigit c k →
      HexDigit d l → CodeUnit (((i * 16 + j) * 16 + k) * 16 + l) [a, b, c, d]

/-- The letters that may follow a backslash, and what they stand for. -/
def escapes : List (Char × Char) :=
  [('"', '"'), ('\\', '\\'), ('/', '/'), ('b', '\x08'), ('f', '\x0c'), ('n', '\n'), ('r', '\r'),
   ('t', '\t')]

/-- The spellings of a character in a text. -/
inductive SpellsChar (c : Char) : List Char → Prop where
  | plain : 0x20 ≤ c.toNat → c ≠ '"' → c ≠ '\\' → SpellsChar c [c]
  | short {letter : Char} : (letter, c) ∈ escapes → SpellsChar c ['\\', letter]
  | unit {t : List Char} : CodeUnit c.toNat t → SpellsChar c ('\\' :: 'u' :: t)
  /-- A character outside the basic plane, by its two surrogates. -/
  | pair {high low : Nat} {t u : List Char} : CodeUnit high t → CodeUnit low u →
      0xD800 ≤ high → high ≤ 0xDBFF → 0xDC00 ≤ low → low ≤ 0xDFFF →
      c.toNat = (high - 0xD800) * 0x400 + (low - 0xDC00) + 0x10000 →
      SpellsChar c ('\\' :: 'u' :: t ++ '\\' :: 'u' :: u)

inductive SpellsChars : List Char → List Char → Prop where
  | nil : SpellsChars [] []
  | cons {c : Char} {cs t u : List Char} : SpellsChar c t → SpellsChars cs u →
      SpellsChars (c :: cs) (t ++ u)

def Quoted (s : String) (q : List Char) : Prop :=
  ∃ body, SpellsChars s.toList body ∧ q = '"' :: body ++ ['"']

/-! ## Numbers -/

def Digits (t : List Char) : Prop := ∀ c ∈ t, '0' ≤ c ∧ c ≤ '9'

inductive Whole : List Char → Prop where
  | zero : Whole ['0']
  | digits {c : Char} {ds : List Char} : '1' ≤ c → c ≤ '9' → Digits ds → Whole (c :: ds)

inductive Fraction : List Char → Prop where
  | none : Fraction []
  | some {ds : List Char} : ds ≠ [] → Digits ds → Fraction ('.' :: ds)

inductive Exponent : List Char → Prop where
  | none : Exponent []
  | some {e : Char} {sign ds : List Char} : e ∈ ['e', 'E'] → sign ∈ [[], ['+'], ['-']] →
      ds ≠ [] → Digits ds → Exponent (e :: sign ++ ds)

inductive Literal : List Char → Prop where
  | positive {w f e : List Char} : Whole w → Fraction f → Exponent e → Literal (w ++ f ++ e)
  | negative {w f e : List Char} : Whole w → Fraction f → Exponent e →
      Literal ('-' :: w ++ f ++ e)

/-! ## Values -/

/-- What stands before an item: blanks, and a comma among them unless the item is the first. -/
inductive Lead : Bool → List Char → Prop where
  | first {w : List Char} : Blanks w → Lead true w
  | next {w w' : List Char} : Blanks w → Blanks w' → Lead false (w ++ ',' :: w')

mutual

inductive Spells : Value → List Char → Prop where
  | null : Spells .null ['n', 'u', 'l', 'l']
  | true : Spells (.boolean true) ['t', 'r', 'u', 'e']
  | false : Spells (.boolean false) ['f', 'a', 'l', 's', 'e']
  | number {t : List Char} : Literal t → Spells (.number t) t
  | text {s : String} {q : List Char} : Quoted s q → Spells (.text s) q
  | list {vs : List Value} {t : List Char} : Items true vs t → Spells (.list vs) ('[' :: t)
  | object {ms : List (String × Value)} {t : List Char} : Members true ms t →
      Spells (.object ms) ('\x7b' :: t)

/-- Items from the first or from a later one on, and the end of the list. -/
inductive Items : Bool → List Value → List Char → Prop where
  | close {first : Bool} {w : List Char} : Blanks w → Items first [] (w ++ [']'])
  | item {first : Bool} {v : Value} {vs : List Value} {l t u : List Char} : Lead first l →
      Spells v t → Items false vs u → Items first (v :: vs) (l ++ (t ++ u))

/-- Members from the first or from a later one on, and the end of the object. -/
inductive Members : Bool → List (String × Value) → List Char → Prop where
  | close {first : Bool} {w : List Char} : Blanks w → Members first [] (w ++ ['\x7d'])
  | member {first : Bool} {key : String} {v : Value} {ms : List (String × Value)}
      {l q w w' t u : List Char} : Lead first l → Quoted key q → Blanks w → Blanks w' →
      Spells v t → Members false ms u →
      Members first ((key, v) :: ms) (l ++ (q ++ (w ++ ':' :: (w' ++ (t ++ u)))))

end

end NodeFamilies.Json
