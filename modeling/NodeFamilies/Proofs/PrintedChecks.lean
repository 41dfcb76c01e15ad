import NodeFamilies.Proofs.Duplicates
import NodeFamilies.Proofs.Reading

/-!
# Checks and the module

The checks look at a grammar, and what is generated is the text of its module. Some problems can be
told from that text alone: unions that are printed again, a root whose union is nowhere printed,
and variants of one union that start alike.
-/

namespace NodeFamilies

open Naming (Identifier)
open Problem (about mem_about_iff)

/-! ## Unions -/

theorem headerLine_injective : Function.Injective headerLine := by
  intro union union' h
  simpa [headerLine, ← String.toList_inj] using h

namespace Grammar

variable {g : Grammar}

theorem unionLines_render (h : g.Unbroken) : unionLines g.render = g.unions.map headerLine := by
  rw [unionLines, lines_render h, filter_lines, unions, List.map_map]
  rfl

theorem card_unionLines_render (h : g.Unbroken) :
    (unionLines g.render).toFinset.card = g.unions.toFinset.card := by
  have himage : (g.unions.map headerLine).toFinset = g.unions.toFinset.image headerLine := by
    ext line
    simp
  rw [unionLines_render h, himage, Finset.card_image_of_injective _ headerLine_injective]

theorem headerLine_mem_lines_render_iff (h : g.Unbroken) (union : String) :
    headerLine union ∈ Text.lines g.render ↔ union ∈ g.unions := by
  -- Nothing but a union is taken for one.
  have hlines : headerLine union ∈ Text.lines g.render ↔ headerLine union ∈ unionLines g.render := by
    simp [unionLines, opensUnion_headerLine]
  rw [hlines, unionLines_render h, List.mem_map_of_injective headerLine_injective]

end Grammar

/-! ## The root -/

/-- What stands before the union in the line of the root, and what behind it. -/
def rootOpening : Shape → String
  | .single => "    pub root: Box<"
  | .sequence => "    pub root: Vec<Box<"

def rootClosing : Shape → String
  | .single => ">,"
  | .sequence => ">>,"

theorem Root.line_eq_append (r : Root) :
    r.line = rootOpening r.shape ++ Naming.union r.family ++ rootClosing r.shape := by
  obtain ⟨family, _ | _⟩ := r <;>
    simp [Root.line, Root.type, rootOpening, rootClosing, ← String.toList_inj]

namespace Grammar

variable {g : Grammar}

theorem rootLine_render (h : g.Unbroken) : (Text.lines g.render)[3]? = some g.root.line := by
  rw [lines_render h]
  rfl

end Grammar

/-! ## Variants -/

theorem Family.duplicateVariant_mem_problems_iff {f : Family} {earlier : List String}
    {family variant : String} :
    .duplicateVariant family variant ∈ f.problems earlier ↔
      .duplicateVariant family variant ∈ f.duplicateVariantProblems := by
  rw [← f.about_duplicateVariant earlier, mem_about_iff]
  simp [Problem.topic]

namespace Grammar

variable {g : Grammar}

theorem getElem?_unionBodies_render (h : g.Unbroken) {i : Nat} {f : Family}
    (hi : g.families[i]? = some f) :
    (unionBodies g.render)[i]? = some (f.variants.map Variant.line) := by
  rw [unionBodies, lines_render h, bodies_lines, List.getElem?_map, hi]
  rfl

theorem exists_duplicateVariant_problemsAt_iff {i : Nat} {f : Family}
    (hi : g.families[i]? = some f) :
    (∃ variant, .duplicateVariant f.name variant ∈ g.problemsAt i) ↔ ¬ f.variantNames.Nodup := by
  rw [problemsAt_eq hi, ← f.exists_duplicateVariant_iff]
  simp only [Family.duplicateVariant_mem_problems_iff]

theorem duplicateVariant_mem_check_iff {family variant : String} :
    .duplicateVariant family variant ∈ g.check ↔
      ∃ i f, g.families[i]? = some f ∧ f.name = family ∧
        .duplicateVariant f.name variant ∈ g.problemsAt i := by
  rw [check_eq_flatMap, List.mem_append, List.mem_append, List.mem_flatMap]
  constructor
  · -- Neither the lack of families nor the root is a problem of a variant.
    rintro ((hempty | ⟨i, hi, hp⟩) | hroot)
    · split at hempty <;> simp at hempty
    · obtain ⟨f, hf⟩ : ∃ f, g.families[i]? = some f :=
        ⟨_, List.getElem?_eq_getElem (List.mem_range.mp hi)⟩
      rw [problemsAt_eq hf, Family.duplicateVariant_mem_problems_iff] at hp
      obtain ⟨variant', heq⟩ := Family.eq_duplicateVariant_of_mem hp
      cases heq
      refine ⟨i, f, hf, rfl, ?_⟩
      rwa [problemsAt_eq hf, Family.duplicateVariant_mem_problems_iff]
    · cases topic_rootProblems hroot
  · rintro ⟨i, f, hf, rfl, hp⟩
    have hi : i < g.families.length := (List.getElem?_eq_some_iff.mp hf).1
    exact .inl (.inr ⟨i, List.mem_range.mpr hi, hp⟩)

end Grammar

/-! ## What can be told from the module -/

namespace Grammar

variable {g : Grammar}

theorem length_about_duplicateFamily (h : g.Unbroken) :
    (about .duplicateFamily g.check).length + (unionLines g.render).toFinset.card =
      (unionLines g.render).length := by
  rw [about_duplicateFamily, card_unionLines_render h, length_duplicateFamilyProblems,
    unionLines_render h, List.length_map, unions, List.length_map]

theorem exists_unknownRoot_iff_render (h : g.Unbroken) :
    ∃ root, (Text.lines g.render)[3]? =
        some (rootOpening g.root.shape ++ root ++ rootClosing g.root.shape) ∧
      ((∃ family, .unknownRoot family ∈ g.check) ↔ headerLine root ∉ Text.lines g.render) := by
  refine ⟨Naming.union g.root.family, ?_, ?_⟩
  · rw [rootLine_render h, Root.line_eq_append]
  · rw [exists_unknownRoot_iff, headerLine_mem_lines_render_iff h]

theorem length_unionBodies_render (h : g.Unbroken) :
    (unionBodies g.render).length = g.families.length := by
  rw [unionBodies, lines_render h, bodies_lines, List.length_map]

theorem exists_duplicateVariant_iff_render (h : g.Unbroken) {i : Nat} {f : Family}
    (hi : g.families[i]? = some f) (hnames : ∀ v ∈ f.variants, Identifier v.name) :
    (∃ variant, .duplicateVariant f.name variant ∈ g.problemsAt i) ↔
      RepeatsVariant g.render i := by
  rw [exists_duplicateVariant_problemsAt_iff hi, RepeatsVariant, getElem?_unionBodies_render h hi]
  simp only [Option.some.injEq, exists_eq_left', Family.nodup_variantText_iff hnames]

theorem exists_duplicateVariant_check_iff_render (h : g.Unbroken) {family : String}
    (hnames : ∀ f ∈ g.families, f.name = family → ∀ v ∈ f.variants, Identifier v.name) :
    (∃ variant, .duplicateVariant family variant ∈ g.check) ↔
      ∃ (i : Nat) (f : Family), g.families[i]? = some f ∧ f.name = family ∧
        RepeatsVariant g.render i := by
  simp only [duplicateVariant_mem_check_iff]
  constructor
  · rintro ⟨variant, i, f, hi, hname, hp⟩
    have hf := hnames f (List.mem_of_getElem? hi) hname
    exact ⟨i, f, hi, hname, (exists_duplicateVariant_iff_render h hi hf).mp ⟨variant, hp⟩⟩
  · rintro ⟨i, f, hi, hname, hrepeats⟩
    have hf := hnames f (List.mem_of_getElem? hi) hname
    obtain ⟨variant, hp⟩ := (exists_duplicateVariant_iff_render h hi hf).mpr hrepeats
    exact ⟨variant, i, f, hi, hname, hp⟩

/-- Unions that come again, a root without a union and variants that come again are told from the
lines of the module. A problem of a variant has only the name of its family, so where families
share a name it is told from the unions of all of them. -/
theorem check_told_from_render (g : Grammar) (h : g.Unbroken) :
    (about .duplicateFamily g.check).length + (unionLines g.render).toFinset.card =
        (unionLines g.render).length ∧
      (∃ root, (Text.lines g.render)[3]? =
          some (rootOpening g.root.shape ++ root ++ rootClosing g.root.shape) ∧
        ((∃ family, .unknownRoot family ∈ g.check) ↔ headerLine root ∉ Text.lines g.render)) ∧
      (unionBodies g.render).length = g.families.length ∧
      (∀ i f, g.families[i]? = some f → (∀ v ∈ f.variants, Identifier v.name) →
        ((∃ variant, .duplicateVariant f.name variant ∈ g.problemsAt i) ↔
          RepeatsVariant g.render i)) ∧
      (∀ family, (∀ f ∈ g.families, f.name = family → ∀ v ∈ f.variants, Identifier v.name) →
        ((∃ variant, .duplicateVariant family variant ∈ g.check) ↔
          ∃ (i : Nat) (f : Family), g.families[i]? = some f ∧ f.name = family ∧
            RepeatsVariant g.render i)) :=
  ⟨length_about_duplicateFamily h, exists_unknownRoot_iff_render h, length_unionBodies_render h,
    fun _ _ => exists_duplicateVariant_iff_render h,
    fun _ => exists_duplicateVariant_check_iff_render h⟩

/-- A union that comes again, with one variant twice the first time, and no union for the root. -/
def crowded : Grammar :=
  ⟨"ast", ⟨"stmt", .sequence⟩, "crate::scanner",
    [⟨"expr", [⟨"Unary", []⟩, ⟨"Unary", ["Token"]⟩]⟩, ⟨"Expr", [⟨"Nil", []⟩]⟩]⟩

theorem crowded_unbroken : crowded.Unbroken := by
  constructor <;> simp [crowded, Text.OneLine]

theorem crowded_names : ∀ f ∈ crowded.families, ∀ v ∈ f.variants, Identifier v.name := by
  simp only [← Naming.isIdentifier_iff]
  decide

theorem check_told_from_render_crowded :
    crowded.Unbroken ∧ (∀ f ∈ crowded.families, ∀ v ∈ f.variants, Identifier v.name) ∧
      1 + (unionLines crowded.render).toFinset.card = (unionLines crowded.render).length ∧
      (∃ root, (Text.lines crowded.render)[3]? = some ("    pub root: Vec<Box<" ++ root ++ ">>,") ∧
        headerLine root ∉ Text.lines crowded.render) ∧
      RepeatsVariant crowded.render 0 ∧ ¬ RepeatsVariant crowded.render 1 ∧
      ∃ (i : Nat) (f : Family), crowded.families[i]? = some f ∧ f.name = "expr" ∧
        RepeatsVariant crowded.render i := by
  obtain ⟨hcount, ⟨root, hline, hroot⟩, -, hposition, hname⟩ :=
    check_told_from_render crowded crowded_unbroken
  have hagain : (about .duplicateFamily crowded.check).length = 1 := by decide
  have hExpr : crowded.problemsAt 1 = [.duplicateFamily "Expr" 0 1] := by decide
  rw [hagain] at hcount
  refine ⟨crowded_unbroken, crowded_names, hcount, ⟨root, hline, ?_⟩, ?_, ?_, ?_⟩
  · exact hroot.mp ⟨"stmt", by decide⟩
  · exact (hposition 0 _ rfl (crowded_names _ (by decide))).mp ⟨"Unary", by decide⟩
  · intro hrepeats
    obtain ⟨variant, hp⟩ := (hposition 1 _ rfl (crowded_names _ (by decide))).mpr hrepeats
    simp [hExpr] at hp
  · exact (hname "expr" fun f hf _ => crowded_names f hf).mp ⟨"Unary", by decide⟩

end Grammar

end NodeFamilies
