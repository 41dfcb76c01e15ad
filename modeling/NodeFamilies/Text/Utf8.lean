/-!
# Texts as bytes
-/

namespace NodeFamilies

abbrev Bytes := List UInt8

namespace Text

/-- The UTF-8 bytes of a text. -/
def utf8 (s : String) : Bytes := s.toUTF8.data.toList

/-- The text that the bytes spell, if they are well-formed UTF-8. -/
def ofUtf8? (b : Bytes) : Option String := String.fromUTF8? ⟨b.toArray⟩

/-- How many bytes the characters take. -/
def byteCount : List Char → Nat
  | [] => 0
  | c :: s => c.utf8Size + byteCount s

theorem utf8_append (s t : String) : utf8 (s ++ t) = utf8 s ++ utf8 t := by
  simp [utf8, ByteArray.data_append]

theorem utf8_join (pieces : List String) :
    utf8 (String.join pieces) = (pieces.map utf8).flatten := by
  induction pieces with
  | nil => rfl
  | cons piece pieces ih =>
    rw [String.join_cons, utf8_append, ih, List.map_cons, List.flatten_cons]

end Text

end NodeFamilies
