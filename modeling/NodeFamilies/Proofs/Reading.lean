import NodeFamilies.Proofs.SameModule
import NodeFamilies.Proofs.Scans

/-!
# Reading a module

A module read as text alone, without the grammar: its lines, those that start a union, and what
stands between such a line and the next brace. Nothing that a grammar without line feeds prints can
be taken for the start or the end of a union.
-/

namespace NodeFamilies

open Naming (Identifier)
open Text (unlines OneLine)

/-! ## Lines -/

namespace Text

/-- What stands before each line feed. -/
def lines (s : String) : List String := ((s.toList.splitOn '\n').dropLast).map String.ofList

theorem unlines_eq_intercalate (ls : List String) :
    unlines ls = ['\n'].intercalate (ls.map String.toList ++ [[]]) := by
  induction ls with
  | nil => rfl
  | cons l ls ih =>
    have hcons : unlines (l :: ls) = l.toList ++ ['\n'] ++ unlines ls := rfl
    rw [hcons, ih, List.map_cons, List.cons_append]
    cases ls <;> simp [List.intercalate_cons_cons]

theorem lines_of_toList_eq {s : String} {ls : List String} (h : s.toList = unlines ls)
    (hl : ∀ l ∈ ls, OneLine l) : lines s = ls := by
  have hfree : ∀ l ∈ ls.map String.toList ++ [[]], '\n' ∉ l := by
    rintro l hmem
    rcases List.mem_append.mp hmem with hmem | hmem
    · obtain ⟨line, hline, rfl⟩ := List.mem_map.mp hmem
      exact hl line hline
    · obtain rfl := List.mem_singleton.mp hmem
      exact List.not_mem_nil
  rw [lines, h, unlines_eq_intercalate, List.splitOn_intercalate '\n' hfree (by simp)]
  simp [Function.comp_def]

end Text

theorem Grammar.lines_render {g : Grammar} (h : g.Unbroken) : Text.lines g.render = g.lines :=
  Text.lines_of_toList_eq g.toList_render h.lines

/-! ## Unions -/

def opensUnion (line : String) : Bool := "pub enum ".toList.isPrefixOf line.toList

/-- The line that starts the union of that name. -/
def headerLine (union : String) : String := "pub enum " ++ union ++ " \x7b"

def unionLines (text : String) : List String := (Text.lines text).filter opensUnion

/-- For every line that starts a union, the lines up to the next brace. -/
def bodies : List String → List (List String)
  | [] => []
  | line :: rest =>
    if opensUnion line then rest.takeWhile (· ≠ "\x7d") :: bodies rest else bodies rest

def unionBodies (text : String) : List (List String) := bodies (Text.lines text)

/-- What a line of a union starts with, up to its payloads. -/
def variantText (line : String) : List Char := line.toList.takeWhile fun c => c ≠ '(' ∧ c ≠ ','

/-- Two lines of the union at that position start with the same text. -/
def RepeatsVariant (text : String) (i : Nat) : Prop :=
  ∃ body, (unionBodies text)[i]? = some body ∧ ¬ (body.map variantText).Nodup

/-! ## What the lines of a grammar open -/

theorem opensUnion_preludeLine (scanner : String) : opensUnion (preludeLine scanner) = false := by
  simp [opensUnion, preludeLine, List.isPrefixOf]

theorem Root.opensUnion_lines (r : Root) : ∀ l ∈ r.lines, opensUnion l = false := by
  simp [opensUnion, Root.lines, Root.line, List.isPrefixOf]

theorem Variant.opensUnion_line (v : Variant) : opensUnion v.line = false := by
  simp [opensUnion, Variant.toList_line, List.isPrefixOf]

theorem opensUnion_headerLine (union : String) : opensUnion (headerLine union) = true := by
  simp [opensUnion, headerLine, List.isPrefixOf]

theorem Family.opensUnion_unionLine (f : Family) : opensUnion f.unionLine = true :=
  opensUnion_headerLine (Naming.union f.name)

theorem Family.opensUnion_visitor (f : Family) :
    ∀ l ∈ ["\x7d", "", f.traitLine, f.methodLine, "\x7d"], opensUnion l = false := by
  simp [opensUnion, Family.traitLine, Family.methodLine, List.isPrefixOf]

theorem opensUnion_map_line (vs : List Variant) :
    ∀ l ∈ vs.map Variant.line, opensUnion l = false := by
  intro l hl
  obtain ⟨v, -, rfl⟩ := List.mem_map.mp hl
  exact v.opensUnion_line

/-! ## Unions of a grammar -/

theorem filter_opensUnion_of_forall {ls : List String} (h : ∀ l ∈ ls, opensUnion l = false) :
    ls.filter opensUnion = [] := by
  rw [List.filter_eq_nil_iff]
  simpa using h

theorem Family.filter_lines (f : Family) : f.lines.filter opensUnion = [f.unionLine] := by
  have hempty : opensUnion "" = false := by decide
  rw [Family.lines, List.cons_append, List.cons_append, List.filter_cons_of_neg (by simp [hempty]),
    List.filter_cons_of_pos f.opensUnion_unionLine, List.filter_append,
    filter_opensUnion_of_forall (opensUnion_map_line f.variants),
    filter_opensUnion_of_forall f.opensUnion_visitor]
  rfl

theorem Grammar.filter_lines (g : Grammar) :
    g.lines.filter opensUnion = g.families.map Family.unionLine := by
  rw [Grammar.lines, List.cons_append,
    List.filter_cons_of_neg (by simp [opensUnion_preludeLine]), List.filter_append,
    filter_opensUnion_of_forall g.root.opensUnion_lines, List.nil_append, List.filter_flatMap]
  simp only [Family.filter_lines]
  exact List.map_eq_flatMap.symm

theorem bodies_append {ls : List String} (h : ∀ l ∈ ls, opensUnion l = false)
    (rest : List String) : bodies (ls ++ rest) = bodies rest := by
  induction ls with
  | nil => rfl
  | cons l ls ih =>
    rw [List.forall_mem_cons] at h
    rw [List.cons_append, bodies, if_neg (by simp [h.1]), ih h.2]

theorem takeWhile_map_line (vs : List Variant) (rest : List String) :
    (vs.map Variant.line ++ "\x7d" :: rest).takeWhile (· ≠ "\x7d") = vs.map Variant.line := by
  -- A variant is never taken for the brace behind the variants.
  have hline : ∀ l ∈ vs.map Variant.line, decide (l ≠ "\x7d") = true := by
    intro l hl
    simpa using ne_of_mem_of_not_mem hl (brace_notMem_map_line vs)
  rw [List.takeWhile_append_of_pos hline]
  simp

theorem Family.bodies_lines_append (f : Family) (rest : List String) :
    bodies (f.lines ++ rest) = f.variants.map Variant.line :: bodies rest := by
  have hempty : ∀ l ∈ [""], opensUnion l = false := by decide
  have hlines : f.lines ++ rest = [""] ++ f.unionLine :: (f.variants.map Variant.line ++
      (["\x7d", "", f.traitLine, f.methodLine, "\x7d"] ++ rest)) := by
    simp [Family.lines]
  rw [hlines, bodies_append hempty, bodies, if_pos f.opensUnion_unionLine,
    bodies_append (opensUnion_map_line f.variants), bodies_append f.opensUnion_visitor]
  congr 1
  exact takeWhile_map_line f.variants _

theorem Grammar.bodies_lines (g : Grammar) :
    bodies g.lines = g.families.map fun f => f.variants.map Variant.line := by
  have hfamilies : ∀ fs : List Family, bodies (fs.flatMap Family.lines) =
      fs.map fun f => f.variants.map Variant.line := by
    intro fs
    induction fs with
    | nil => rfl
    | cons f fs ih => rw [List.flatMap_cons, Family.bodies_lines_append, ih, List.map_cons]
  rw [Grammar.lines, List.cons_append, bodies, if_neg (by simp [opensUnion_preludeLine]),
    bodies_append g.root.opensUnion_lines, hfamilies]

/-! ## Names -/

theorem Variant.variantText_line {v : Variant} (h : Identifier v.name) :
    variantText v.line = "    ".toList ++ v.name.toList := by
  -- A name has neither a bracket nor a comma in it, but one of them comes next.
  have hblank : ∀ c ∈ "    ".toList, decide (c ≠ '(' ∧ c ≠ ',') = true := by simp
  have hname : ∀ c ∈ "    ".toList ++ v.name.toList, decide (c ≠ '(' ∧ c ≠ ',') = true := by
    intro c hc
    rcases List.mem_append.mp hc with hc | hc
    · exact hblank c hc
    · have hpart := h.parts c hc
      rw [decide_eq_true_eq]
      constructor
      · rintro rfl
        exact absurd hpart (by decide)
      · rintro rfl
        exact absurd hpart (by decide)
  have hafter : v.afterName.takeWhile (fun c => decide (c ≠ '(' ∧ c ≠ ',')) = [] := by
    unfold Variant.afterName
    split <;> simp
  rw [variantText, Variant.toList_line, List.takeWhile_append_of_pos hname, hafter,
    List.append_nil]

theorem Family.nodup_variantText_iff {f : Family} (h : ∀ v ∈ f.variants, Identifier v.name) :
    ((f.variants.map Variant.line).map variantText).Nodup ↔ f.variantNames.Nodup := by
  have htexts : (f.variants.map Variant.line).map variantText =
      f.variantNames.map fun name => "    ".toList ++ name.toList := by
    rw [Family.variantNames, List.map_map, List.map_map]
    exact List.map_congr_left fun v hv => Variant.variantText_line (h v hv)
  rw [htexts]
  apply List.nodup_map_iff
  intro name name' heq
  exact String.toList_inj.mp (List.append_cancel_left heq)

end NodeFamilies
