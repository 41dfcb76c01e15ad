/-!
# Problems of a grammar

What the checks can find, with the names and positions that it concerns. Positions count from
zero.
-/

namespace NodeFamilies

inductive Problem where
  | noFamilies
  | badFamilyName (family : String)
  | reservedFamilyName (family union : String)
  /-- The family at `again` has the union of the one at `first`. -/
  | duplicateFamily (union : String) (first again : Nat)
  | badVariantName (family variant : String)
  | reservedVariantName (family variant : String)
  | duplicateVariant (family variant : String)
  | emptyPayload (family variant : String) (position : Nat)
  | recursiveByValue (family variant : String) (position : Nat) (payload : String)
  | unknownRoot (family : String)
  deriving DecidableEq, Repr

def Problem.message : Problem → String
  | noFamilies => "grammar declares no node families"
  | badFamilyName family => "family `" ++ family ++ "` is not a valid identifier"
  | reservedFamilyName family union =>
    "family `" ++ family ++ "` renders as `enum " ++ union ++
      "` or a visit parameter that is a reserved word"
  | duplicateFamily union first again =>
    "families #" ++ toString first ++ " and #" ++ toString again ++ " both produce `enum " ++
      union ++ "`"
  | badVariantName family variant =>
    family ++ ": variant `" ++ variant ++ "` is not a valid identifier"
  | reservedVariantName family variant =>
    family ++ ": variant `" ++ variant ++ "` is a reserved word"
  | duplicateVariant family variant =>
    family ++ ": variant `" ++ variant ++ "` is declared more than once"
  | emptyPayload family variant position =>
    family ++ "::" ++ variant ++ ": field " ++ toString position ++ " has an empty type"
  | recursiveByValue family variant position payload =>
    family ++ "::" ++ variant ++ ": field " ++ toString position ++ " (`" ++ payload ++
      "`) embeds its own union by value; wrap it in Box<..>"
  | unknownRoot family => "root family `" ++ family ++ "` is not declared"

end NodeFamilies
