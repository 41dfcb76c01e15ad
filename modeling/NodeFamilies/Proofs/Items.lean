import NodeFamilies.Proofs.Reading

/-!
# The items of a module

A module read as text alone is an import and a container, and then a union and a visitor for each
family. Names, payloads and paths may be any text of one line: none of them can pass for an item or
close a union before its last variant.
-/

namespace NodeFamilies

/-! ## Definitions -/

/-- Whether a line starts an item. -/
def opensItem (line : String) : Bool :=
  "use ".toList.isPrefixOf line.toList || "pub ".toList.isPrefixOf line.toList

def itemLines (text : String) : List String := (Text.lines text).filter opensItem

/-- The line that starts the visitor of the union of that name. -/
def visitorLine (union : String) : String := "pub trait " ++ union ++ "Visitor<E> \x7b"

/-! ## What starts an item -/

theorem opensItem_preludeLine (scanner : String) : opensItem (preludeLine scanner) = true := by
  simp [opensItem, preludeLine, List.isPrefixOf]

theorem opensItem_headerLine (union : String) : opensItem (headerLine union) = true := by
  simp [opensItem, headerLine, List.isPrefixOf]

theorem opensItem_visitorLine (union : String) : opensItem (visitorLine union) = true := by
  simp [opensItem, visitorLine, List.isPrefixOf]

theorem Root.opensItem_line (r : Root) : opensItem r.line = false := by
  simp [opensItem, Root.line, List.isPrefixOf]

theorem Variant.opensItem_line (v : Variant) : opensItem v.line = false := by
  simp [opensItem, Variant.toList_line, List.isPrefixOf]

theorem Family.opensItem_methodLine (f : Family) : opensItem f.methodLine = false := by
  simp [opensItem, Family.methodLine, List.isPrefixOf]

theorem Family.traitLine_eq_visitorLine (f : Family) :
    f.traitLine = visitorLine (Naming.union f.name) := by
  simp [Family.traitLine, Naming.visitor, visitorLine, ← String.toList_inj]

/-! ## Items in order -/

theorem Root.filter_opensItem_lines (r : Root) :
    r.lines.filter opensItem = ["pub struct AST \x7b"] := by
  have hempty : opensItem "" = false := by decide
  have hopens : opensItem "pub struct AST \x7b" = true := by decide
  have hbrace : opensItem "\x7d" = false := by decide
  simp [Root.lines, r.opensItem_line, hempty, hopens, hbrace]

theorem filter_opensItem_map_line (vs : List Variant) :
    (vs.map Variant.line).filter opensItem = [] := by
  simp [List.filter_eq_nil_iff, Variant.opensItem_line]

theorem Family.filter_opensItem_lines (f : Family) :
    f.lines.filter opensItem =
      [headerLine (Naming.union f.name), visitorLine (Naming.union f.name)] := by
  have hempty : opensItem "" = false := by decide
  have hbrace : opensItem "\x7d" = false := by decide
  have hheader : headerLine (Naming.union f.name) = f.unionLine := rfl
  have hopens := opensItem_headerLine (Naming.union f.name)
  have htrait := opensItem_visitorLine (Naming.union f.name)
  rw [hheader] at hopens ⊢
  rw [← f.traitLine_eq_visitorLine] at htrait ⊢
  simp [Family.lines, filter_opensItem_map_line, f.opensItem_methodLine, hempty, hbrace, hopens,
    htrait]

namespace Grammar

variable {g : Grammar}

theorem itemLines_render (h : g.Unbroken) :
    itemLines g.render = preludeLine g.scanner :: "pub struct AST \x7b" ::
      g.unions.flatMap fun union => [headerLine union, visitorLine union] := by
  rw [itemLines, lines_render h, Grammar.lines, List.cons_append,
    List.filter_cons_of_pos (opensItem_preludeLine g.scanner), List.filter_append,
    g.root.filter_opensItem_lines, List.filter_flatMap, unions, List.flatMap_map]
  simp only [Family.filter_opensItem_lines]
  rfl

end Grammar

/-! ## How many lines -/

theorem Family.length_lines (f : Family) : f.lines.length = 7 + f.variants.length := by
  simp only [Family.lines, List.length_append, List.length_cons, List.length_map, List.length_nil]
  omega

theorem Grammar.length_lines (g : Grammar) :
    g.lines.length =
      5 + 7 * g.families.length + (g.families.map (·.variants.length)).sum := by
  have hfamilies : ∀ fs : List Family, (fs.flatMap Family.lines).length =
      7 * fs.length + (fs.map (·.variants.length)).sum := by
    intro fs
    induction fs with
    | nil => rfl
    | cons f fs ih =>
      rw [List.flatMap_cons, List.length_append, f.length_lines, ih, List.length_cons,
        List.map_cons, List.sum_cons]
      omega
  simp only [Grammar.lines, Root.lines, List.length_cons, List.length_append, List.length_nil,
    hfamilies]
  omega

theorem Text.getLast?_unlines {ls : List String} (h : ls ≠ []) :
    (unlines ls).getLast? = some '\n' := by
  rw [← List.dropLast_append_getLast h, unlines_append]
  simp [unlines]

/-! ## Each union by itself -/

namespace Grammar

variable {g : Grammar}

theorem exists_lines_eq {i : Nat} {f : Family} (hi : g.families[i]? = some f) :
    ∃ before after, g.lines = before ++ headerLine (Naming.union f.name) ::
        (f.variants.map Variant.line ++ "\x7d" :: after) ∧
      (before.filter opensUnion).length = i := by
  obtain ⟨hlength, hf⟩ := List.getElem?_eq_some_iff.mp hi
  obtain ⟨fs, fs', hfamilies, hfs⟩ :
      ∃ fs fs', g.families = fs ++ f :: fs' ∧ fs.length = i := by
    refine ⟨g.families.take i, g.families.drop (i + 1), ?_, List.length_take_of_le hlength.le⟩
    rw [← hf, ← List.drop_eq_getElem_cons hlength, List.take_append_drop]
  refine ⟨({ g with families := fs } : Grammar).lines ++ [""],
    ["", f.traitLine, f.methodLine, "\x7d"] ++ fs'.flatMap Family.lines, ?_, ?_⟩
  · have hheader : headerLine (Naming.union f.name) = f.unionLine := rfl
    simp [Grammar.lines, Family.lines, hfamilies, hheader]
  · have hempty : opensUnion "" = false := by decide
    simp [List.filter_append, Grammar.filter_lines, hempty, hfs]

/-! ## The whole module -/

/-- A module has all items and variants of its grammar in the order of their declaration, and nothing
besides. -/
theorem render_in_order (g : Grammar) (h : g.Unbroken) :
    g.render.toList.getLast? = some '\n' ∧
      (Text.lines g.render).length =
        5 + 7 * g.families.length + (g.families.map (·.variants.length)).sum ∧
      itemLines g.render = preludeLine g.scanner :: "pub struct AST \x7b" ::
        g.unions.flatMap (fun union => [headerLine union, visitorLine union]) ∧
      (∀ i f, g.families[i]? = some f →
        "\x7d" ∉ f.variants.map Variant.line ∧
          ∃ before after, Text.lines g.render = before ++ headerLine (Naming.union f.name) ::
              (f.variants.map Variant.line ++ "\x7d" :: after) ∧
            (before.filter opensUnion).length = i) ∧
      unionBodies g.render = g.families.map (fun f => f.variants.map Variant.line) ∧
      (unionBodies g.render).flatten.length = g.variantCount := by
  have hne : g.lines ≠ [] := List.cons_ne_nil _ _
  have hbodies : unionBodies g.render = g.families.map fun f => f.variants.map Variant.line := by
    rw [unionBodies, lines_render h, bodies_lines]
  refine ⟨?_, ?_, itemLines_render h, ?_, hbodies, ?_⟩
  · rw [toList_render, Text.getLast?_unlines hne]
  · rw [lines_render h, length_lines]
  · intro i f hi
    rw [lines_render h]
    exact ⟨brace_notMem_map_line f.variants, exists_lines_eq hi⟩
  · rw [hbodies, ← List.flatMap_def, variantCount, List.length_flatMap, List.length_flatMap]
    simp only [List.length_map]

/-- Its names and payloads look like lines of a module. -/
def disguised : Grammar :=
  ⟨"ast", ⟨"use", .single⟩, "pub enum Expr \x7b",
    [⟨"pub enum Stmt \x7b", [⟨"\x7d", []⟩, ⟨"pub trait Nil", ["\x7d", "use Token"]⟩]⟩, ⟨"", []⟩,
      ⟨"expr", [⟨"", ["Token"]⟩]⟩]⟩

theorem render_in_order_disguised :
    disguised.Unbroken ∧ (Text.lines disguised.render).length = 29 ∧
      itemLines disguised.render =
        ["use pub enum Expr \x7b::\x7bLiteral, Token\x7d;", "pub struct AST \x7b",
          "pub enum Pub enum Stmt \x7b \x7b", "pub trait Pub enum Stmt \x7bVisitor<E> \x7b",
          "pub enum  \x7b", "pub trait Visitor<E> \x7b",
          "pub enum Expr \x7b", "pub trait ExprVisitor<E> \x7b"] ∧
      unionBodies disguised.render =
        [["    \x7d,", "    pub trait Nil(\x7d, use Token),"], [], ["    (Token),"]] ∧
      (unionBodies disguised.render).flatten.length = 3 := by
  have h : disguised.Unbroken := by
    constructor <;> simp [disguised, Text.OneLine]
  obtain ⟨-, hlength, hitems, -, hbodies, hcount⟩ := render_in_order disguised h
  exact ⟨h, hlength, hitems.trans (by decide), hbodies.trans (by decide), hcount⟩

end Grammar

end NodeFamilies
