import NodeFamilies.Text.CodePoints
import NodeFamilies.Text.PrintableTable

/-!
# Quoted texts

How a text is shown inside a message: between double quotes, on one line, every character
either visible or escaped.
-/

namespace NodeFamilies.Text

/-- Whether a character is shown as it is. -/
def isVisible (c : Char) : Bool :=
  let n := c.toNat
  if n < 128 then 0x20 ≤ n && n < 0x7F
  else !inRanges extendingMarkRanges n && !inRanges fillerRanges n && !inRanges unprintableRanges n

def hexDigits (n : Nat) : List Char := Nat.toDigits 16 n

def escapeChar (c : Char) : List Char :=
  if c = '\x00' then ['\\', '0']
  else if c = '\t' then ['\\', 't']
  else if c = '\r' then ['\\', 'r']
  else if c = '\n' then ['\\', 'n']
  else if c = '\\' then ['\\', '\\']
  else if c = '"' then ['\\', '"']
  else if isVisible c then [c]
  else ['\\', 'u', '\x7b'] ++ hexDigits c.toNat ++ ['\x7d']

def quoted (s : String) : String :=
  String.ofList ('"' :: s.toList.flatMap escapeChar ++ ['"'])

end NodeFamilies.Text
