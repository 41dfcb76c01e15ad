import NodeFamilies.Rendering
import NodeFamilies.Proofs.Identifiers

/-!
# The lines of a module

A module is a list of lines with a line feed behind each. Nothing that is printed adds a line feed
of its own, not even a change of case, so the lines can be told from the text again.
-/

namespace NodeFamilies

namespace Text

/-! ## Texts of one line -/

def OneLine (s : String) : Prop := '\n' ∉ s.toList

instance (s : String) : Decidable (OneLine s) := inferInstanceAs (Decidable ('\n' ∉ s.toList))

theorem oneLine_append (s t : String) : OneLine (s ++ t) ↔ OneLine s ∧ OneLine t := by
  simp [OneLine]

/-- The lines in a row, each with a line feed behind it. -/
def unlines (lines : List String) : List Char := lines.flatMap fun l => l.toList ++ ['\n']

theorem unlines_append (ls ms : List String) : unlines (ls ++ ms) = unlines ls ++ unlines ms :=
  List.flatMap_append

theorem append_cons_inj {α : Type} {p : α → Prop} {a b s t : List α} {c d : α}
    (ha : ∀ x ∈ a, p x) (hb : ∀ x ∈ b, p x) (hc : ¬ p c) (hd : ¬ p d)
    (h : a ++ c :: s = b ++ d :: t) : a = b ∧ c = d ∧ s = t := by
  induction a generalizing b with
  | nil =>
    cases b with
    | nil => simpa using h
    | cons y b =>
      obtain ⟨rfl, -⟩ := List.cons.inj h
      exact absurd (hb c List.mem_cons_self) hc
  | cons x a ih =>
    cases b with
    | nil =>
      obtain ⟨rfl, -⟩ := List.cons.inj h
      exact absurd (ha x List.mem_cons_self) hd
    | cons y b =>
      obtain ⟨rfl, htail⟩ := List.cons.inj h
      obtain ⟨rfl, hrest⟩ := ih (fun z hz => ha z (List.mem_cons_of_mem x hz))
        (fun z hz => hb z (List.mem_cons_of_mem x hz)) htail
      exact ⟨rfl, hrest⟩

theorem unlines_inj {ls ms : List String} (hl : ∀ l ∈ ls, OneLine l) (hm : ∀ m ∈ ms, OneLine m) :
    unlines ls = unlines ms ↔ ls = ms := by
  refine ⟨fun h => ?_, congrArg unlines⟩
  induction ls generalizing ms with
  | nil =>
    cases ms with
    | nil => rfl
    | cons m ms => simp [unlines] at h
  | cons l ls ih =>
    cases ms with
    | nil => simp [unlines] at h
    | cons m ms =>
      rw [List.forall_mem_cons] at hl hm
      have hcut : l.toList ++ '\n' :: unlines ls = m.toList ++ '\n' :: unlines ms := by
        simpa [unlines] using h
      have hfree : ∀ s : String, OneLine s → ∀ x ∈ s.toList, x ≠ '\n' := by
        rintro s hs x hx rfl
        exact hs hx
      obtain ⟨hlm, -, hrest⟩ :=
        append_cons_inj (hfree l hl.1) (hfree m hm.1) (by simp) (by simp) hcut
      rw [String.toList_inj.mp hlm, ih hl.2 hm.2 hrest]

/-! ## Case and line feeds -/

theorem ofNat_eq_newline {n : Nat} (h : Char.ofNat n = '\n') : n = 10 := by
  have hn := congrArg Char.toNat h
  rw [Char.toNat_ofNat] at hn
  split at hn
  · exact hn
  · exact absurd hn (by decide)

/-- No run of a case map ends at a line feed. -/
def AvoidsNewline (runs : List CaseRun) : Prop := ∀ r ∈ runs, 10 < (r.first : Int) + r.shift

instance (runs : List CaseRun) : Decidable (AvoidsNewline runs) :=
  inferInstanceAs (Decidable (∀ r ∈ runs, 10 < (r.first : Int) + r.shift))

theorem upperRuns_avoidsNewline : AvoidsNewline upperRuns := by decide +kernel

theorem lowerRuns_avoidsNewline : AvoidsNewline lowerRuns := by decide +kernel

theorem shiftBy_ne_newline {runs : List CaseRun} (h : AvoidsNewline runs) {n : Nat}
    (hn : n ≠ 10) : shiftBy runs n ≠ 10 := by
  rw [shiftBy]
  split
  · rename_i r hr
    have hshift := h r (List.mem_of_find?_eq_some hr)
    have hcovers := List.find?_some hr
    simp only [CaseRun.covers, Bool.and_eq_true, decide_eq_true_eq] at hcovers
    omega
  · exact hn

theorem toNat_ne_newline {c : Char} (h : isAscii c = false) : c.toNat ≠ 10 := by
  simp only [isAscii, decide_eq_false_iff_not] at h
  omega

theorem newline_notMem_expansions : ∀ e ∈ upperExpansions, 10 ∉ e.2 := by decide +kernel

theorem toUpper_ne_newline {c : Char} (h : c ≠ '\n') : c.toUpper ≠ '\n' := by
  intro heq
  have halpha : c.isAlpha = false := by
    rw [← Char.isAlpha_toUpper_eq_isAlpha, heq]
    rfl
  rw [Char.isAlpha, Bool.or_eq_false_iff] at halpha
  rw [Char.toUpper_eq_of_not_isLower (by simp [halpha.2])] at heq
  exact h heq

theorem toLower_ne_newline {c : Char} (h : c ≠ '\n') : c.toLower ≠ '\n' := by
  intro heq
  have halpha : c.isAlpha = false := by
    rw [← Char.isAlpha_toLower_eq_isAlpha, heq]
    rfl
  rw [Char.isAlpha, Bool.or_eq_false_iff] at halpha
  rw [Char.toLower_eq_of_not_isUpper (by simp [halpha.1])] at heq
  exact h heq

theorem newline_notMem_upper {c : Char} (h : c ≠ '\n') : '\n' ∉ upper c := by
  rw [upper]
  split
  · simpa [eq_comm] using toUpper_ne_newline h
  · rename_i hc
    have hn : c.toNat ≠ 10 := toNat_ne_newline (by simpa using hc)
    split
    · rename_i cs hcs
      intro hm
      obtain ⟨n, hmem, heq⟩ := List.mem_map.mp hm
      obtain ⟨before, after, hsplit, -⟩ := List.lookup_eq_some_iff.mp hcs
      have he : (c.toNat, cs) ∈ upperExpansions := by simp [hsplit]
      exact newline_notMem_expansions _ he (ofNat_eq_newline heq ▸ hmem)
    · intro hm
      rw [List.mem_singleton] at hm
      exact shiftBy_ne_newline upperRuns_avoidsNewline hn (ofNat_eq_newline hm.symm)

theorem newline_notMem_lower {c : Char} (h : c ≠ '\n') : '\n' ∉ lower c := by
  rw [lower]
  split
  · simpa [eq_comm] using toLower_ne_newline h
  · rename_i hc
    have hn : c.toNat ≠ 10 := toNat_ne_newline (by simpa using hc)
    split
    · decide
    · intro hm
      rw [List.mem_singleton] at hm
      exact shiftBy_ne_newline lowerRuns_avoidsNewline hn (ofNat_eq_newline hm.symm)

theorem oneLine_capitalize {s : String} (h : OneLine s) : OneLine (capitalize s) := by
  rw [OneLine, capitalize]
  rw [OneLine] at h
  split
  · simp
  · rename_i c cs hcs
    rw [hcs, List.mem_cons, not_or] at h
    rw [String.toList_ofList, List.mem_append, not_or]
    exact ⟨newline_notMem_upper (Ne.symm h.1), h.2⟩

theorem newline_notMem_lowercaseAfter {s : List Char} (h : '\n' ∉ s) (before : List Char) :
    '\n' ∉ lowercaseAfter before s := by
  induction s generalizing before with
  | nil => simp [lowercaseAfter]
  | cons c s ih =>
    rw [List.mem_cons, not_or] at h
    rw [lowercaseAfter, List.mem_append, not_or]
    refine ⟨?_, ih h.2 (c :: before)⟩
    split
    · split <;> decide
    · exact newline_notMem_lower (Ne.symm h.1)

theorem oneLine_lowercase {s : String} (h : OneLine s) : OneLine (lowercase s) := by
  rw [OneLine, lowercase, String.toList_ofList]
  exact newline_notMem_lowercaseAfter h []

end Text

open Text (OneLine unlines oneLine_append)

/-! ## Lines -/

def preludeLine (scanner : String) : String := "use " ++ scanner ++ "::\x7bLiteral, Token\x7d;"

def Root.line (r : Root) : String := "    pub root: " ++ r.type ++ ","

def Root.lines (r : Root) : List String := ["", "pub struct AST \x7b", r.line, "\x7d"]

def Variant.line (v : Variant) : String :=
  match v.payloads with
  | [] => "    " ++ v.name ++ ","
  | payloads => "    " ++ v.name ++ "(" ++ ", ".intercalate payloads ++ "),"

def Family.unionLine (f : Family) : String := "pub enum " ++ Naming.union f.name ++ " \x7b"

def Family.traitLine (f : Family) : String := "pub trait " ++ Naming.visitor f.name ++ "<E> \x7b"

def Family.methodLine (f : Family) : String :=
  "    fn " ++ Naming.method f.name ++ "(&mut self, " ++ Naming.parameter f.name ++ ": &Box<" ++
    Naming.union f.name ++ ">) -> E;"

def Family.lines (f : Family) : List String :=
  "" :: f.unionLine :: f.variants.map Variant.line ++
    ["\x7d", "", f.traitLine, f.methodLine, "\x7d"]

def Grammar.lines (g : Grammar) : List String :=
  preludeLine g.scanner :: g.root.lines ++ g.families.flatMap Family.lines

/-! ## The text is its lines -/

/-- The characters of pieces in a row. -/
def chars (pieces : List String) : List Char := pieces.flatMap String.toList

theorem chars_append (ps qs : List String) : chars (ps ++ qs) = chars ps ++ chars qs :=
  List.flatMap_append

theorem chars_preludePieces (scanner : String) :
    chars (preludePieces scanner) = unlines [preludeLine scanner] := by
  simp [chars, preludePieces, unlines, preludeLine]

theorem Root.chars_pieces (r : Root) : chars r.pieces = unlines r.lines := by
  simp [chars, Root.pieces, unlines, Root.lines, Root.line]

theorem Variant.chars_pieces (v : Variant) : chars v.pieces = unlines [v.line] := by
  obtain ⟨name, _ | ⟨p, ps⟩⟩ := v <;> simp [chars, Variant.pieces, unlines, Variant.line]

theorem chars_flatMap_pieces (vs : List Variant) :
    chars (vs.flatMap Variant.pieces) = unlines (vs.map Variant.line) := by
  induction vs with
  | nil => rfl
  | cons v vs ih =>
    rw [List.flatMap_cons, chars_append, Variant.chars_pieces, ih, ← Text.unlines_append]
    rfl

theorem Family.chars_pieces (f : Family) : chars f.pieces = unlines f.lines := by
  rw [Family.pieces, Family.unionPieces, chars_append, chars_append, chars_append,
    chars_flatMap_pieces]
  simp [chars, Family.visitorPieces, unlines, Family.lines, Family.unionLine, Family.traitLine,
    Family.methodLine]

theorem Grammar.chars_pieces (g : Grammar) : chars g.pieces = unlines g.lines := by
  have hfamilies : ∀ fs : List Family,
      chars (fs.flatMap Family.pieces) = unlines (fs.flatMap Family.lines) := by
    intro fs
    induction fs with
    | nil => rfl
    | cons f fs ih =>
      rw [List.flatMap_cons, List.flatMap_cons, chars_append, Family.chars_pieces, ih,
        Text.unlines_append]
  rw [Grammar.pieces, chars_append, chars_append, chars_preludePieces, Root.chars_pieces,
    hfamilies, ← Text.unlines_append, ← Text.unlines_append]
  rfl

theorem Grammar.toList_render (g : Grammar) : g.render.toList = unlines g.lines := by
  rw [Grammar.render, String.toList_join, ← g.chars_pieces]
  rfl

/-! ## Grammars without line feeds -/

/-- No text that is printed has a line feed in it. -/
structure Grammar.Unbroken (g : Grammar) : Prop where
  scanner : OneLine g.scanner
  root : OneLine g.root.family
  families : ∀ f ∈ g.families, OneLine f.name
  variants : ∀ f ∈ g.families, ∀ v ∈ f.variants, OneLine v.name
  payloads : ∀ f ∈ g.families, ∀ v ∈ f.variants, ∀ p ∈ v.payloads, OneLine p

theorem oneLine_union {family : String} (h : OneLine family) : OneLine (Naming.union family) :=
  Text.oneLine_capitalize h

theorem oneLine_parameter {family : String} (h : OneLine family) :
    OneLine (Naming.parameter family) := by
  unfold Naming.parameter
  dsimp only
  split
  · rw [oneLine_append]
    exact ⟨by simp [OneLine], Text.oneLine_lowercase h⟩
  · exact Text.oneLine_lowercase h

theorem Root.oneLine_line {r : Root} (h : OneLine r.family) : OneLine r.line := by
  have hu := oneLine_union h
  unfold Root.line Root.type
  split <;> simpa [OneLine] using hu

theorem oneLine_intercalate {ps : List String} (h : ∀ p ∈ ps, OneLine p) :
    OneLine (", ".intercalate ps) := by
  induction ps with
  | nil => simp [OneLine]
  | cons p ps ih =>
    rw [List.forall_mem_cons] at h
    cases ps with
    | nil => simpa using h.1
    | cons q ps =>
      rw [String.intercalate_cons_cons, oneLine_append, oneLine_append]
      exact ⟨⟨h.1, by simp [OneLine]⟩, ih h.2⟩

theorem Variant.oneLine_line {v : Variant} (hn : OneLine v.name)
    (hp : ∀ p ∈ v.payloads, OneLine p) : OneLine v.line := by
  have hi := oneLine_intercalate hp
  unfold Variant.line
  split <;> simp_all [OneLine]

theorem Family.oneLine_lines {f : Family} (hn : OneLine f.name)
    (hv : ∀ v ∈ f.variants, OneLine v.line) : ∀ l ∈ f.lines, OneLine l := by
  have hu := oneLine_union hn
  have hp := oneLine_parameter hn
  have hm := Text.oneLine_lowercase hn
  have hbrace : OneLine "\x7d" := by simp [OneLine]
  have hempty : OneLine "" := by simp [OneLine]
  have hheader : OneLine f.unionLine := by simpa [OneLine, Family.unionLine] using hu
  have htrait : OneLine f.traitLine := by
    simpa [OneLine, Family.traitLine, Naming.visitor] using hu
  have hmethod : OneLine f.methodLine := by
    simp_all [OneLine, Family.methodLine, Naming.method]
  intro l hl
  simp only [Family.lines, List.mem_cons, List.mem_append, List.mem_map, List.not_mem_nil,
    or_false, List.cons_append] at hl
  rcases hl with rfl | rfl | ⟨v, hmem, rfl⟩ | rfl | rfl | rfl | rfl | rfl
  · exact hempty
  · exact hheader
  · exact hv v hmem
  · exact hbrace
  · exact hempty
  · exact htrait
  · exact hmethod
  · exact hbrace

theorem Grammar.Unbroken.lines {g : Grammar} (h : g.Unbroken) : ∀ l ∈ g.lines, OneLine l := by
  have hfamily : ∀ f ∈ g.families, ∀ l ∈ f.lines, OneLine l := fun f hf =>
    Family.oneLine_lines (h.families f hf) fun v hv =>
      Variant.oneLine_line (h.variants f hf v hv) (h.payloads f hf v hv)
  intro l hl
  simp only [Grammar.lines, Root.lines, List.mem_cons, List.mem_append, List.mem_flatMap,
    List.not_mem_nil, false_or, List.cons_append] at hl
  rcases hl with rfl | rfl | rfl | rfl | rfl | ⟨f, hf, hl⟩
  · simpa [OneLine, preludeLine] using h.scanner
  · simp [OneLine]
  · simp [OneLine]
  · exact Root.oneLine_line h.root
  · simp [OneLine]
  · exact hfamily f hf l hl

end NodeFamilies
