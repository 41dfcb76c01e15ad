import NodeFamilies.Naming
import NodeFamilies.Text.Blank

/-!
# Payloads

What a payload text says about its type: whether it is there at all, and which type it holds by
value once the layers of `Option` around it are taken off.
-/

namespace NodeFamilies.Payload

open Text

/-- The text behind `word`, if it starts so. -/
def afterWord? : List Char → List Char → Option (List Char)
  | [], s => some s
  | w :: word, c :: s => if c = w then afterWord? word s else none
  | _ :: _, [] => none

def optionWord : List Char := ['O', 'p', 't', 'i', 'o', 'n']

/-- What stands between a `<` at the start and a `>` at the end. -/
def betweenAngles? : List Char → Option (List Char)
  | '<' :: body => if body.getLast? = some '>' then some body.dropLast else none
  | _ => none

/-- What stands between the angle brackets of `Option<...>`, blanks around it left out. A line
feed inside it is not accepted. -/
def peelOption? (s : List Char) : Option (List Char) :=
  match (afterWord? optionWord s).bind fun rest => betweenAngles? (trimStart rest) with
  | some body => if (trim body).contains '\n' then none else some (trim body)
  | none => none

/-- Takes off one layer after the other, at most as many as the bound says. -/
def peelLayers : Nat → List Char → List Char
  | 0, s => s
  | bound + 1, s =>
    match peelOption? s with
    | some inner => peelLayers bound inner
    | none => s

/-- Takes off all layers; each is at least one character long. -/
def peelAll (s : List Char) : List Char := peelLayers s.length s

/-- The type inside all layers of `Option`. -/
def stripOptions (payload : String) : String := String.ofList (peelAll (trim payload.toList))

def isBlank (payload : String) : Bool := allBlank payload.toList

/-- Whether the payload holds a value of the family's own union. -/
def embeds (payload family : String) : Bool := stripOptions payload == Naming.union family

end NodeFamilies.Payload
