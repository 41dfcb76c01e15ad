import Mathlib.Data.List.Induction
import NodeFamilies.Json.Rows
import NodeFamilies.Proofs.Documents
import NodeFamilies.Proofs.Json.Changes

/-!
# Where a fault is located

A document in which values of the wrong kind are put in some places is refused, and the path that is
reported leads to the first of them.
-/

namespace NodeFamilies

namespace Json

/-! ## Printed paths -/

/-- A path as it is printed: names are joined by dots, positions stand in brackets, and a dot alone
is the whole document. -/
inductive Prints : List Step → String → Prop where
  | whole : Prints [] "."
  | key (name : String) : Prints [.key name] name
  | index (i : Nat) : Prints [.index i] ("[" ++ toString i ++ "]")
  | thenKey {p : List Step} {text : String} (name : String) : p ≠ [] → Prints p text →
      Prints (p ++ [.key name]) (text ++ "." ++ name)
  | thenIndex {p : List Step} {text : String} (i : Nat) : p ≠ [] → Prints p text →
      Prints (p ++ [.index i]) (text ++ "[" ++ toString i ++ "]")

theorem pathText_concat {p : List Step} (hp : p ≠ []) (s : Step) :
    pathText (p ++ [s]) = pathText p ++ s.text false := by
  obtain ⟨s', rest, rfl⟩ := List.exists_cons_of_ne_nil hp
  simp [pathText, String.append_assoc]

theorem prints_pathText {p : List Step} (h : .unknown ∉ p) : Prints p (pathText p) := by
  induction p using List.reverseRecOn with
  | nil => exact .whole
  | append_singleton p s ih =>
    rw [List.mem_append, List.mem_singleton, not_or] at h
    by_cases hp : p = []
    · subst hp
      cases s with
      | key name => simpa [pathText, Step.text] using Prints.key name
      | index i => simpa [pathText, Step.text] using Prints.index i
      | unknown => exact absurd rfl h.2
    rw [pathText_concat hp]
    cases s with
    | key name =>
      rw [Step.text, ← String.append_assoc]
      exact .thenKey name hp (ih h.1)
    | index i =>
      rw [Step.text, ← String.append_assoc, ← String.append_assoc]
      exact .thenIndex i hp (ih h.1)
    | unknown => exact absurd rfl h.2

theorem Prints.eq_pathText {p : List Step} {text : String} (h : Prints p text) :
    text = pathText p := by
  induction h with
  | whole => rfl
  | key name => simp [pathText, Step.text]
  | index i => simp [pathText, Step.text]
  | thenKey name hp _ ih => rw [pathText_concat hp, ih, Step.text]; simp [String.append_assoc]
  | thenIndex i hp _ ih => rw [pathText_concat hp, ih, Step.text]; simp [String.append_assoc]

theorem Value.unknown_notMem_of_at? {v u : Value} {p : List Step} (h : v.at? p = some u) :
    .unknown ∉ p := by
  induction p generalizing v with
  | nil => exact List.not_mem_nil
  | cons s p ih =>
    -- Only a list has positions and only an object has keys; nothing is found under any other step.
    have hrest : ∀ {o : Option Value}, o >>= (·.at? p) = some u → .unknown ∉ p := by
      intro o ho
      rw [Option.bind_eq_bind, Option.bind_eq_some_iff] at ho
      obtain ⟨w, -, hw⟩ := ho
      exact ih hw
    cases v <;> cases s
    case list.index vs i => simp [hrest (o := vs[i]?) h]
    case object.key ms key => simp [hrest (o := ms.lookup key) h]
    all_goals cases h

/-! ## Refused texts -/

theorem ofText_of_fails {α : Type} {schema : Schema α} {v : Value} {p : List Step}
    (h : Fails schema.read v p) {text : String} {w t rest : List Char} (hw : Blanks w)
    (ht : Spells v t) (htext : text.toList = w ++ (t ++ rest)) :
    ∃ f, schema.ofText text = .error f ∧ f.path = p := by
  obtain ⟨f, hread, hf⟩ := h w t rest hw ht
  refine ⟨f, ?_, hf⟩
  rw [Schema.ofText, htext, hread]
  rfl

theorem fails_of_firstChanged {α : Type} {schema : Schema α} (hd : schema.Distinct) {v : Value}
    {a : α} (hv : schema.Encodes v a) {change : List Step → Option Value}
    (hrefuses : ∀ {old new p}, change p = some new → schema.RefusesAt old new [] p)
    (hchange : ∃ p u, v.at? p = some u ∧ u ≠ .null ∧ (change p).isSome) :
    ∃ p new, v.firstChanged change = some p ∧ change p = some new ∧
      Fails schema.read (v.changed change) p ∧ (v.changed change).at? p = some new := by
  -- If the first change is one that the schema refuses, it is where the fault is located.
  obtain ⟨q, u, hu, hnull, hq⟩ := hchange
  obtain ⟨p, hp⟩ : ∃ p, v.firstChanged change = some p := by
    rw [← Option.isSome_iff_exists, Value.firstChanged, List.find?_isSome]
    exact ⟨q, Value.mem_places_of_at? hu hnull, hq⟩
  obtain ⟨old, new, hold, hnew, hswap⟩ := Value.swapped_of_firstChanged hp
  obtain ⟨hfails, hat⟩ := hswap.located (q := []) hold schema a hd (hrefuses hnew) hv
  rw [List.append_nil] at hfails
  exact ⟨p, new, hp, hnew, hfails, hat⟩

namespace Rows

/-- The path of a cell of a table. -/
def cell (i j : Nat) : List Step := [.index i, .key "cells", .index j]

/-- What a text is that begins with the document of a table, with other values in some places. -/
def RefusedAt (v : Value) (path : String) : Prop :=
  ∀ text w t rest, Blanks w → Spells v t → text.toList = w ++ (t ++ rest) →
    ∃ f, table.ofText text = .error f ∧ pathText f.path = path

theorem encodes_byte {c : Char} {n : Nat} (h : readByte [c] = .ok (n, [])) :
    Schema.byte.Encodes (.number [c]) n := by
  rw [Schema.Encodes]
  exact ⟨_, rfl, h⟩

theorem encodes_row {vs : List Value} {ns : List Nat} (h : List.Forall₂ Schema.byte.Encodes vs ns) :
    row.Encodes (.object [("cells", .list vs)]) ns := by
  have hcells : (Schema.list .byte).Encodes (.list vs) ns := encodes_list_iff.mpr ⟨vs, rfl, h⟩
  rw [row, Schema.Encodes]
  exact ⟨(ns, ()), rfl, .inr ⟨_, _, [], rfl, .refl _, .inl ⟨_, [], rfl, hcells, rfl⟩, by simp⟩⟩

theorem table_distinct : table.Distinct := by
  simp [table, row, Schema.Distinct, Fields.Distinct, Fields.keys]

theorem refusesAt_cell {old new : Value} (h : ∀ literal, new ≠ .number literal) (i j : Nat) :
    table.RefusesAt old new [] (cell i j) := by
  have hbyte : ¬Schema.byte.Admits new := by
    intro hadmits
    cases new with
    | number literal => exact h literal rfl
    | _ => exact hadmits
  simp [table, row, cell, Schema.RefusesAt, Fields.RefusesKey, Fields.keys,
    Schema.fails_of_not_admits hbyte]

theorem pathText_cell (i j : Nat) :
    pathText (cell i j) = "[" ++ toString i ++ "].cells[" ++ toString j ++ "]" := by
  have hmiddle : "].cells[" = "]" ++ ("." ++ ("cells" ++ "[")) := by decide
  simp only [hmiddle, pathText, cell, Step.text, String.join, List.map_cons, List.map_nil,
    List.foldl_cons, List.foldl_nil, String.empty_append, String.append_assoc,
    Bool.false_eq_true, if_false]

end Rows

end Json

open Json

/-- Every text that begins with the document is refused, and that is the path in the report. -/
def Grammar.RefusedAt (v : Value) (path : String) : Prop :=
  ∀ text origin w t rest, Blanks w → Spells v t → text.toList = w ++ (t ++ rest) →
    ∃ detail, Grammar.ofText text origin = .error (.malformed origin path detail)

theorem Grammar.RefusedAt.text {v : Value} {path : String} (h : Grammar.RefusedAt v path)
    {text : String} (ht : Spells v text.toList) (origin : String) :
    ∃ detail, Grammar.ofText text origin = .error (.malformed origin path detail) :=
  h text origin [] text.toList [] (List.forall_mem_nil _) ht (by simp)

theorem Grammar.refusedAt_of_fails {v : Value} {p : List Step} (h : Fails Grammar.schema.read v p) :
    Grammar.RefusedAt v (pathText p) := by
  intro text origin w t rest hw ht htext
  obtain ⟨f, hf, rfl⟩ := ofText_of_fails h hw ht htext
  exact ⟨f.detail text.toList, by rw [ofText, hf]⟩

theorem Grammar.schema_strict : Grammar.schema.Strict := by
  simp [Grammar.schema, Root.schema, Shape.schema, Family.schema, Variant.schema, Schema.Strict,
    Fields.Strict]

/-- With scalars for any values of a document, and with other values than numbers for any cells of a
table, the printed path is that of the first change and leads to what was put there. -/
theorem refused_at_first_change :
    (∀ v g change, Grammar.Document v g →
      (∀ q new, change q = some new → new.IsScalar) →
      (∃ q u, v.at? q = some u ∧ u ≠ .null ∧ (change q).isSome) →
      ∃ p path, v.firstChanged change = some p ∧ Prints p path ∧
        Grammar.RefusedAt (v.changed change) path ∧ (v.changed change).at? p = change p) ∧
    ∀ v rows change, Rows.table.Encodes v rows →
      (∀ q new, change q = some new →
        (∃ i j, q = Rows.cell i j) ∧ ∀ literal, new ≠ .number literal) →
      (∃ q literal, v.at? q = some (.number literal) ∧ (change q).isSome) →
      ∃ i j, v.firstChanged change = some (Rows.cell i j) ∧
        Rows.RefusedAt (v.changed change) ("[" ++ toString i ++ "].cells[" ++ toString j ++ "]") ∧
        (v.changed change).at? (Rows.cell i j) = change (Rows.cell i j) := by
  constructor
  · intro v g change hv hscalar hchange
    rw [← Grammar.encodes_eq] at hv
    have hd := Schema.distinct_of_plain _ Grammar.schema_plain
    have hrefuses : ∀ {old new p}, change p = some new → Grammar.schema.RefusesAt old new [] p :=
      fun {old new p} hnew => Grammar.schema_strict.refusesAt (hscalar p new hnew) old p
    obtain ⟨p, new, hp, hnew, hfails, hat⟩ := fails_of_firstChanged hd hv hrefuses hchange
    exact ⟨p, _, hp, prints_pathText (Value.unknown_notMem_of_at? hat),
      Grammar.refusedAt_of_fails hfails, hat.trans hnew.symm⟩
  · intro v rows change hv hcell hchange
    obtain ⟨q, literal, hq, hnode⟩ := hchange
    have hrefuses : ∀ {old new p}, change p = some new → Rows.table.RefusesAt old new [] p := by
      intro old new p hnew
      obtain ⟨⟨i, j, rfl⟩, hnumber⟩ := hcell p new hnew
      exact Rows.refusesAt_cell hnumber i j
    obtain ⟨p, new, hp, hnew, hfails, hat⟩ :=
      fails_of_firstChanged Rows.table_distinct hv hrefuses ⟨q, _, hq, nofun, hnode⟩
    obtain ⟨⟨i, j, rfl⟩, -⟩ := hcell p new hnew
    refine ⟨i, j, hp, ?_, hat.trans hnew.symm⟩
    intro text w t rest hw ht htext
    obtain ⟨f, hf, hpath⟩ := ofText_of_fails hfails hw ht htext
    exact ⟨f, hf, by rw [hpath, Rows.pathText_cell]⟩

theorem refused_at_first_change_shape :
    (∃ detail, Grammar.ofText ("\x7b\"base_name\":\"a\",\"root\":" ++
        "\x7b\"family\":\"e\",\"shape\":true\x7d,\"families\":null\x7d") "g.json" =
      .error (.malformed "g.json" "root.shape" detail)) ∧
    ∃ f, Rows.table.ofText "[\x7b\"cells\":[1,null]\x7d]" = .error f ∧
      pathText f.path = "[0].cells[1]" := by
  have hnil : Blanks [] := List.forall_mem_nil _
  constructor
  · have hspells : Spells (.object [("base_name", .text "a"),
        ("root", .object [("family", .text "e"), ("shape", .boolean true)]), ("families", .null)])
        ("\x7b\"base_name\":\"a\",\"root\":" ++
          "\x7b\"family\":\"e\",\"shape\":true\x7d,\"families\":null\x7d").toList := by
      have hroot := Members.member (.first hnil) (quoted_of_plain (s := "family") (by decide))
        hnil hnil (.text (quoted_of_plain (s := "e") (by decide)))
        (.member (.next hnil hnil) (quoted_of_plain (s := "shape") (by decide)) hnil hnil .true
          (.close hnil))
      exact .object (.member (.first hnil) (quoted_of_plain (by decide)) hnil hnil
        (.text (quoted_of_plain (by decide)))
        (.member (.next hnil hnil) (quoted_of_plain (by decide)) hnil hnil (.object hroot)
          (.member (.next hnil hnil) (quoted_of_plain (by decide)) hnil hnil .null
            (.close hnil))))
    obtain ⟨p, path, hp, hprints, hrefused, -⟩ := refused_at_first_change.1
      (.object [("base_name", .text "a"),
        ("root", .object [("family", .text "e"), ("shape", .text "single")]),
        ("families", .list [])])
      ⟨"a", ⟨"e", .single⟩, "crate::scanner", []⟩
      (fun q => if q = [.key "root", .key "shape"] then some (.boolean true)
        else if q = [.key "families"] then some .null else none)
      (.bareObject (.object .name (.refl _)) .nil (.refl _))
      (by
        intro q new hnew
        split at hnew
        · obtain rfl := Option.some.inj hnew
          trivial
        split at hnew
        · obtain rfl := Option.some.inj hnew
          trivial
        · cases hnew)
      ⟨[.key "families"], .list [], rfl, nofun, rfl⟩
    obtain rfl : p = [.key "root", .key "shape"] := Option.some.inj (hp.symm.trans rfl)
    obtain rfl : path = "root.shape" := hprints.eq_pathText
    exact hrefused.text hspells "g.json"
  · have hone : ∀ {c : Char}, '1' ≤ c → c ≤ '9' → Spells (.number [c]) [c] := fun h h' =>
      .number (.positive (.digits h h' (List.forall_mem_nil _)) .none .none)
    have hspells : Spells (.list [.object [("cells", .list [.number ['1'], .null])]])
        "[\x7b\"cells\":[1,null]\x7d]".toList := by
      have hcells := Items.item (.first hnil) (hone (c := '1') (by decide) (by decide))
        (.item (.next hnil hnil) .null (.close hnil))
      exact .list (.item (.first hnil) (.object (.member (.first hnil)
        (quoted_of_plain (by decide)) hnil hnil (.list hcells) (.close hnil))) (.close hnil))
    have hrow := Rows.encodes_row (.cons (Rows.encodes_byte (c := '1') (n := 1) rfl)
      (.cons (Rows.encodes_byte (c := '2') (n := 2) rfl) .nil))
    have hrows : Rows.table.Encodes
        (.list [.object [("cells", .list [.number ['1'], .number ['2']])]]) [[1, 2]] :=
      encodes_list_iff.mpr ⟨_, rfl, .cons hrow .nil⟩
    obtain ⟨i, j, hp, hrefused, -⟩ := refused_at_first_change.2 _ _
      (fun q => if q = Rows.cell 0 1 then some .null else none) hrows
      (by
        intro q new hnew
        split at hnew
        · obtain rfl := Option.some.inj hnew
          exact ⟨⟨0, 1, ‹_›⟩, nofun⟩
        · cases hnew)
      ⟨Rows.cell 0 1, ['2'], rfl, rfl⟩
    have hcell : Rows.cell i j = Rows.cell 0 1 := Option.some.inj (hp.symm.trans rfl)
    obtain ⟨rfl, rfl⟩ : i = 0 ∧ j = 1 := by
      simpa [Rows.cell] using hcell
    exact hrefused _ [] _ [] hnil hspells (by simp)

end NodeFamilies
