import NodeFamilies.Proofs.Lines

/-!
# Grammars with the same module

What of a grammar can be told from its module. The case of the first character of a family is
lost, the stem is not printed, and payloads are seen in a row. Everything else can be read back,
line by line.
-/

namespace NodeFamilies

open Naming (Identifier)
open Text (OneLine unlines append_cons_inj)

/-! ## Definitions -/

/-- The same name, payloads in both or in neither, and the same text of the payloads in a row. -/
structure Variant.Alike (v w : Variant) : Prop where
  name : v.name = w.name
  bare : v.payloads = [] ↔ w.payloads = []
  payloads : ", ".intercalate v.payloads = ", ".intercalate w.payloads

structure Family.Alike (f f' : Family) : Prop where
  union : Naming.union f.name = Naming.union f'.name
  variants : List.Forall₂ Variant.Alike f.variants f'.variants

structure Grammar.Alike (g g' : Grammar) : Prop where
  scanner : g.scanner = g'.scanner
  shape : g.root.shape = g'.root.shape
  root : Naming.union g.root.family = Naming.union g'.root.family
  families : List.Forall₂ Family.Alike g.families g'.families

/-- The names of families and variants are identifiers, all else that is printed is of one line. -/
structure Grammar.Printable (g : Grammar) : Prop where
  scanner : OneLine g.scanner
  root : OneLine g.root.family
  families : ∀ f ∈ g.families, Identifier f.name
  variants : ∀ f ∈ g.families, ∀ v ∈ f.variants, Identifier v.name
  payloads : ∀ f ∈ g.families, ∀ v ∈ f.variants, ∀ p ∈ v.payloads, OneLine p

/-- What stands between two payloads. -/
def separator : List Char := [',', ' ']

/-- No payload looks like two. -/
def Grammar.Separable (g : Grammar) : Prop :=
  ∀ f ∈ g.families, ∀ v ∈ f.variants, ∀ p ∈ v.payloads, ¬ separator <:+: p.toList

/-- The same payloads, one by one, in all places. -/
def Grammar.SamePayloads (g g' : Grammar) : Prop :=
  List.Forall₂ (fun f f' : Family =>
    List.Forall₂ (fun v w : Variant => v.payloads = w.payloads) f.variants f'.variants)
    g.families g'.families

/-! ## Lines -/

theorem preludeLine_inj (s t : String) : preludeLine s = preludeLine t ↔ s = t := by
  simp [preludeLine, ← String.toList_inj]

theorem Root.line_eq_iff (r r' : Root) :
    r.line = r'.line ↔ r.shape = r'.shape ∧ Naming.union r.family = Naming.union r'.family := by
  obtain ⟨family, _ | _⟩ := r <;> obtain ⟨family', _ | _⟩ := r' <;>
    simp [Root.line, Root.type, ← String.toList_inj]

theorem Family.unionLine_inj (f f' : Family) :
    f.unionLine = f'.unionLine ↔ Naming.union f.name = Naming.union f'.name := by
  simp [Family.unionLine, ← String.toList_inj]

/-- What follows the name in the line of a variant. -/
def Variant.afterName (v : Variant) : List Char :=
  match v.payloads with
  | [] => [',']
  | payloads => '(' :: (", ".intercalate payloads).toList ++ [')', ',']

theorem Variant.toList_line (v : Variant) :
    v.line.toList = "    ".toList ++ v.name.toList ++ v.afterName := by
  obtain ⟨name, _ | ⟨p, ps⟩⟩ := v <;> simp [Variant.line, Variant.afterName]

theorem Variant.afterName_eq_cons (v : Variant) :
    ∃ c s, v.afterName = c :: s ∧ ¬ Naming.IdentifierPart c := by
  unfold Variant.afterName
  split
  · exact ⟨',', [], rfl, by decide⟩
  · exact ⟨'(', _, rfl, by decide⟩

theorem Variant.afterName_eq_iff (v w : Variant) :
    v.afterName = w.afterName ↔ (v.payloads = [] ↔ w.payloads = []) ∧
      ", ".intercalate v.payloads = ", ".intercalate w.payloads := by
  obtain ⟨name, _ | ⟨p, ps⟩⟩ := v <;> obtain ⟨name', _ | ⟨q, qs⟩⟩ := w <;>
    simp [Variant.afterName, ← String.toList_inj]

theorem Variant.line_eq_iff {v w : Variant} (hv : Identifier v.name) (hw : Identifier w.name) :
    v.line = w.line ↔ v.Alike w := by
  rw [← String.toList_inj, Variant.toList_line, Variant.toList_line, List.append_assoc,
    List.append_assoc, List.append_cancel_left_eq]
  constructor
  · intro h
    -- A character that is no part of a name ends it.
    obtain ⟨c, s, hc, hnc⟩ := v.afterName_eq_cons
    obtain ⟨d, t, hd, hnd⟩ := w.afterName_eq_cons
    rw [hc, hd] at h
    obtain ⟨hname, rfl, rfl⟩ := append_cons_inj hv.parts hw.parts hnc hnd h
    obtain ⟨hbare, hpayloads⟩ := (afterName_eq_iff v w).mp (hc.trans hd.symm)
    exact ⟨String.toList_inj.mp hname, hbare, hpayloads⟩
  · rintro ⟨hname, hbare, hpayloads⟩
    rw [hname, (afterName_eq_iff v w).mpr ⟨hbare, hpayloads⟩]

/-- A payload with a separator in it looks like two. -/
example : Variant.line ⟨"Call", ["Token, Token"]⟩ = Variant.line ⟨"Call", ["Token", "Token"]⟩ := by
  decide

theorem Variant.line_ne_brace (v : Variant) : v.line ≠ "\x7d" := by
  intro h
  have := congrArg String.toList h
  simp [Variant.toList_line] at this

theorem brace_notMem_map_line (vs : List Variant) : "\x7d" ∉ vs.map Variant.line := by
  intro h
  obtain ⟨v, -, hv⟩ := List.mem_map.mp h
  exact v.line_ne_brace hv

/-! ## Families -/

theorem map_line_eq_iff {vs ws : List Variant} (hv : ∀ v ∈ vs, Identifier v.name)
    (hw : ∀ w ∈ ws, Identifier w.name) :
    vs.map Variant.line = ws.map Variant.line ↔ List.Forall₂ Variant.Alike vs ws := by
  induction vs generalizing ws with
  | nil => cases ws <;> simp
  | cons v vs ih =>
    cases ws with
    | nil => simp
    | cons w ws =>
      rw [List.forall_mem_cons] at hv hw
      rw [List.map_cons, List.map_cons, List.cons.injEq, Variant.line_eq_iff hv.1 hw.1,
        ih hv.2 hw.2, List.forall₂_cons]

theorem Family.visitor_eq {f f' : Family} (hf : Identifier f.name) (hf' : Identifier f'.name)
    (hu : Naming.union f.name = Naming.union f'.name) :
    f.traitLine = f'.traitLine ∧ f.methodLine = f'.methodLine := by
  have hlower := Naming.lowercase_eq_of_union_eq hf hf' hu
  constructor
  · rw [Family.traitLine, Family.traitLine, Naming.visitor, Naming.visitor, hu]
  · rw [Family.methodLine, Family.methodLine, Naming.method, Naming.method, Naming.parameter,
      Naming.parameter, hlower, hu]

theorem Family.lines_append_inj {f f' : Family} (hf : Identifier f.name)
    (hf' : Identifier f'.name) (hv : ∀ v ∈ f.variants, Identifier v.name)
    (hv' : ∀ v ∈ f'.variants, Identifier v.name) (s t : List String) :
    f.lines ++ s = f'.lines ++ t ↔ f.Alike f' ∧ s = t := by
  have hbrace : ∀ vs : List Variant, ∀ l ∈ vs.map Variant.line, l ≠ "\x7d" := fun vs _ hl =>
    ne_of_mem_of_not_mem hl (brace_notMem_map_line vs)
  simp only [Family.lines, List.cons_append, List.append_assoc, List.cons.injEq, true_and,
    List.nil_append, Family.unionLine_inj]
  constructor
  · rintro ⟨hu, h⟩
    obtain ⟨hvariants, -, hrest⟩ :=
      append_cons_inj (hbrace f.variants) (hbrace f'.variants) (by simp) (by simp) h
    simp only [List.cons.injEq, true_and] at hrest
    exact ⟨⟨hu, (map_line_eq_iff hv hv').mp hvariants⟩, hrest.2.2⟩
  · rintro ⟨⟨hu, hvariants⟩, rfl⟩
    obtain ⟨htrait, hmethod⟩ := Family.visitor_eq hf hf' hu
    rw [hu, (map_line_eq_iff hv hv').mpr hvariants, htrait, hmethod]
    exact ⟨rfl, rfl⟩

theorem flatMap_lines_eq_iff {fs fs' : List Family} (hf : ∀ f ∈ fs, Identifier f.name)
    (hf' : ∀ f ∈ fs', Identifier f.name)
    (hv : ∀ f ∈ fs, ∀ v ∈ f.variants, Identifier v.name)
    (hv' : ∀ f ∈ fs', ∀ v ∈ f.variants, Identifier v.name) :
    fs.flatMap Family.lines = fs'.flatMap Family.lines ↔ List.Forall₂ Family.Alike fs fs' := by
  induction fs generalizing fs' with
  | nil => cases fs' <;> simp [Family.lines]
  | cons f fs ih =>
    cases fs' with
    | nil => simp [Family.lines]
    | cons f' fs' =>
      rw [List.forall_mem_cons] at hf hf' hv hv'
      rw [List.flatMap_cons, List.flatMap_cons,
        Family.lines_append_inj hf.1 hf'.1 hv.1 hv'.1, ih hf.2 hf'.2 hv.2 hv'.2,
        List.forall₂_cons]

/-! ## Grammars -/

theorem oneLine_of_identifier {name : String} (h : Identifier name) : OneLine name := by
  intro hm
  exact absurd (h.parts _ hm) (by decide)

theorem Grammar.Printable.unbroken {g : Grammar} (h : g.Printable) : g.Unbroken where
  scanner := h.scanner
  root := h.root
  families f hf := oneLine_of_identifier (h.families f hf)
  variants f hf v hv := oneLine_of_identifier (h.variants f hf v hv)
  payloads := h.payloads

theorem Grammar.lines_eq_iff {g g' : Grammar} (hg : g.Printable) (hg' : g'.Printable) :
    g.lines = g'.lines ↔ g.Alike g' := by
  simp only [Grammar.lines, Root.lines, List.cons_append, List.cons.injEq, true_and,
    List.nil_append, preludeLine_inj, Root.line_eq_iff,
    flatMap_lines_eq_iff hg.families hg'.families hg.variants hg'.variants]
  constructor
  · rintro ⟨hscanner, ⟨hshape, hroot⟩, hfamilies⟩
    exact ⟨hscanner, hshape, hroot, hfamilies⟩
  · rintro ⟨hscanner, hshape, hroot, hfamilies⟩
    exact ⟨hscanner, ⟨hshape, hroot⟩, hfamilies⟩

theorem Grammar.render_eq_iff {g g' : Grammar} (hg : g.Printable) (hg' : g'.Printable) :
    g.render = g'.render ↔ g.Alike g' := by
  rw [← String.toList_inj, Grammar.toList_render, Grammar.toList_render,
    Text.unlines_inj hg.unbroken.lines hg'.unbroken.lines, Grammar.lines_eq_iff hg hg']

/-! ## Payloads -/

theorem eq_nil_of_separator_append {a x s t : List Char} (ha : ¬ separator <:+: a ++ x)
    (h : separator ++ s = x ++ (separator ++ t)) : x = [] := by
  obtain _ | ⟨c, _ | ⟨d, x⟩⟩ := x
  · rfl
  · -- The separator does not repeat its first character.
    simp [separator] at h
  · simp only [separator, List.cons_append, List.cons.injEq] at h
    obtain ⟨rfl, rfl, -⟩ := h
    exact absurd ⟨a, x, by simp [separator]⟩ ha

theorem append_separator_inj {a b s t : List Char} (ha : ¬ separator <:+: a)
    (hb : ¬ separator <:+: b) (h : a ++ (separator ++ s) = b ++ (separator ++ t)) :
    a = b ∧ s = t := by
  rcases List.append_eq_append_iff.mp h with ⟨x, rfl, hx⟩ | ⟨x, rfl, hx⟩
  · obtain rfl := eq_nil_of_separator_append hb hx
    simpa using hx
  · obtain rfl := eq_nil_of_separator_append ha hx
    simpa [eq_comm] using hx

theorem infix_of_intercalate {p q : List Char} {ps : List (List Char)} {a : List Char}
    (h : a = separator.intercalate (p :: q :: ps)) : separator <:+: a := by
  rw [h, List.intercalate_cons_cons, List.append_assoc]
  exact ⟨p, separator.intercalate (q :: ps), by simp⟩

theorem intercalate_separator_inj {ps qs : List (List Char)} (hp : ∀ p ∈ ps, ¬ separator <:+: p)
    (hq : ∀ q ∈ qs, ¬ separator <:+: q) (hbare : ps = [] ↔ qs = [])
    (h : separator.intercalate ps = separator.intercalate qs) : ps = qs := by
  induction ps generalizing qs with
  | nil => exact (hbare.mp rfl).symm
  | cons p ps ih =>
    cases qs with
    | nil => simp at hbare
    | cons q qs =>
      rw [List.forall_mem_cons] at hp hq
      cases ps with
      | nil =>
        cases qs with
        | nil => simpa using h
        | cons q' qs =>
          rw [List.intercalate_singleton] at h
          exact absurd (infix_of_intercalate h) hp.1
      | cons p' ps =>
        cases qs with
        | nil =>
          rw [List.intercalate_singleton] at h
          exact absurd (infix_of_intercalate h.symm) hq.1
        | cons q' qs =>
          rw [List.intercalate_cons_cons, List.intercalate_cons_cons, List.append_assoc,
            List.append_assoc] at h
          obtain ⟨hpq, hrest⟩ := append_separator_inj hp.1 hq.1 h
          rw [hpq, ih hp.2 hq.2 (by simp) hrest]

theorem Variant.payloads_eq_of_alike {v w : Variant} (h : v.Alike w)
    (hv : ∀ p ∈ v.payloads, ¬ separator <:+: p.toList)
    (hw : ∀ p ∈ w.payloads, ¬ separator <:+: p.toList) : v.payloads = w.payloads := by
  have htexts : v.payloads.map String.toList = w.payloads.map String.toList := by
    apply intercalate_separator_inj
    · simpa using hv
    · simpa using hw
    · simpa using h.bare
    · have hrow := congrArg String.toList h.payloads
      rwa [String.toList_intercalate, String.toList_intercalate] at hrow
  exact List.map_injective_iff.mpr (fun _ _ => String.toList_inj.mp) htexts

theorem forall₂_imp_mem {α β : Type} {R S : α → β → Prop} {as : List α} {bs : List β}
    (h : List.Forall₂ R as bs) (himp : ∀ a ∈ as, ∀ b ∈ bs, R a b → S a b) :
    List.Forall₂ S as bs := by
  induction h with
  | nil => exact .nil
  | cons hab _ ih =>
    rw [List.forall_mem_cons] at himp
    refine .cons (himp.1 _ List.mem_cons_self hab) (ih ?_)
    intro a ha b hb
    exact himp.2 a ha b (List.mem_cons_of_mem _ hb)

theorem Grammar.samePayloads_of_alike {g g' : Grammar} (h : g.Alike g') (hg : g.Separable)
    (hg' : g'.Separable) : g.SamePayloads g' := by
  apply forall₂_imp_mem h.families
  intro f hf f' hf' hfamily
  apply forall₂_imp_mem hfamily.variants
  intro v hv w hw hvariant
  exact Variant.payloads_eq_of_alike hvariant (hg f hf v hv) (hg' f' hf' w hw)

/-- The module of a grammar says all of it but the stem, the case of the first characters of its
families, and where a payload with a separator in it ends. -/
theorem Grammar.render_eq_iff_alike (g g' : Grammar) (hg : g.Printable) (hg' : g'.Printable) :
    (g.render = g'.render ↔ g.Alike g') ∧
      (g.Separable → g'.Separable → g.render = g'.render → g.SamePayloads g') :=
  ⟨Grammar.render_eq_iff hg hg', fun hs hs' h =>
    Grammar.samePayloads_of_alike ((Grammar.render_eq_iff hg hg').mp h) hs hs'⟩

theorem Grammar.render_eq_iff_alike_case :
    let unary : List Variant := [⟨"Unary", ["Token", "Box<Expr>"]⟩, ⟨"Nil", []⟩]
    let g : Grammar := ⟨"expr", ⟨"expr", .single⟩, "crate::scanner", [⟨"expr", unary⟩]⟩
    let g' : Grammar := ⟨"ast", ⟨"Expr", .single⟩, "crate::scanner", [⟨"Expr", unary⟩]⟩
    g.Printable ∧ g'.Printable ∧ g.Separable ∧ g'.Separable ∧ g.render = g'.render ∧
      g.SamePayloads g' := by
  intro unary g g'
  have hg : g.Printable := by
    constructor <;> simp [g, unary, OneLine, ← Naming.isIdentifier_iff] <;> decide
  have hg' : g'.Printable := by
    constructor <;> simp [g', unary, OneLine, ← Naming.isIdentifier_iff] <;> decide
  have hs : g.Separable := by simp [Grammar.Separable, g, unary]; decide
  have hs' : g'.Separable := by simp [Grammar.Separable, g', unary]; decide
  have halike : g.Alike g' := by
    have hvariants : List.Forall₂ Variant.Alike unary unary :=
      List.forall₂_same.mpr fun v _ => ⟨rfl, Iff.rfl, rfl⟩
    exact ⟨rfl, rfl, by decide, .cons ⟨by decide, hvariants⟩ .nil⟩
  have hrender := (Grammar.render_eq_iff_alike g g' hg hg').1.mpr halike
  exact ⟨hg, hg', hs, hs', hrender, (Grammar.render_eq_iff_alike g g' hg hg').2 hs hs' hrender⟩

end NodeFamilies
