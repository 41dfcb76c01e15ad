/-!
# Blank characters

White space as Unicode has it, and texts with the blanks at their ends taken off.
-/

namespace NodeFamilies.Text

/-- The characters of the Unicode property White_Space. -/
def isBlank (c : Char) : Bool :=
  let n := c.toNat
  (9 ≤ n && n ≤ 13) || n == 0x20 || n == 0x85 || n == 0xA0 || n == 0x1680 ||
    (0x2000 ≤ n && n ≤ 0x200A) || n == 0x2028 || n == 0x2029 || n == 0x202F || n == 0x205F ||
    n == 0x3000

def trimStart (s : List Char) : List Char := s.dropWhile isBlank

def trimEnd (s : List Char) : List Char := (s.reverse.dropWhile isBlank).reverse

def trim (s : List Char) : List Char := trimEnd (trimStart s)

/-- No character of `s` is anything but blank. -/
def allBlank (s : List Char) : Bool := s.all isBlank

theorem trimStart_append_takeWhile (s : List Char) : s.takeWhile isBlank ++ trimStart s = s :=
  List.takeWhile_append_dropWhile

theorem exists_trimEnd_append (s : List Char) : ∃ b, allBlank b ∧ trimEnd s ++ b = s := by
  refine ⟨(s.reverse.takeWhile isBlank).reverse, ?_, ?_⟩
  · simp [allBlank]
  · rw [trimEnd, ← List.reverse_append, List.takeWhile_append_dropWhile, List.reverse_reverse]

theorem length_trim_le (s : List Char) : (trim s).length ≤ s.length := by
  have hs := (List.dropWhile_sublist isBlank (l := s)).length_le
  have he := (List.dropWhile_sublist isBlank (l := (trimStart s).reverse)).length_le
  simp only [trim, trimEnd, List.length_reverse, trimStart] at *
  omega

end NodeFamilies.Text
