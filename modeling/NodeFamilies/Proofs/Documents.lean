import NodeFamilies.Grammar.Load
import NodeFamilies.Proofs.Json.Objects

/-!
# The documents of a grammar

The format spelled out: an object has its members in any order, a list has the same values in the
order of the fields. A text is accepted exactly when such a document stands at its front.
-/

namespace NodeFamilies

open Json

def texts (l : List String) : Value := .list (l.map .text)

inductive Variant.Document : Value → Variant → Prop where
  | object {ms : List (String × Value)} {name : String} {payloads : List String} :
      ms.Perm [("name", .text name), ("fields", texts payloads)] →
      Document (.object ms) ⟨name, payloads⟩
  /-- A variant without payloads need not say so. -/
  | bareObject {name : String} : Document (.object [("name", .text name)]) ⟨name, []⟩
  | row {name : String} {payloads : List String} :
      Document (.list [.text name, texts payloads]) ⟨name, payloads⟩
  | bareRow {name : String} : Document (.list [.text name]) ⟨name, []⟩

inductive Family.Document : Value → Family → Prop where
  | object {ms : List (String × Value)} {name : String} {vs : List Value}
      {variants : List Variant} : List.Forall₂ Variant.Document vs variants →
      ms.Perm [("name", .text name), ("variants", .list vs)] →
      Document (.object ms) ⟨name, variants⟩
  | row {name : String} {vs : List Value} {variants : List Variant} :
      List.Forall₂ Variant.Document vs variants →
      Document (.list [.text name, .list vs]) ⟨name, variants⟩

def Shape.name : Shape → String
  | .single => "single"
  | .sequence => "sequence"

inductive Shape.Document : Value → Shape → Prop where
  | name {s : Shape} : Document (.text s.name) s
  | object {s : Shape} : Document (.object [(s.name, .null)]) s

inductive Root.Document : Value → Root → Prop where
  | object {ms : List (String × Value)} {family : String} {v : Value} {shape : Shape} :
      Shape.Document v shape → ms.Perm [("family", .text family), ("shape", v)] →
      Document (.object ms) ⟨family, shape⟩
  | row {family : String} {v : Value} {shape : Shape} : Shape.Document v shape →
      Document (.list [.text family, v]) ⟨family, shape⟩

inductive Grammar.Document : Value → Grammar → Prop where
  | object {ms : List (String × Value)} {stem scanner : String} {v : Value} {root : Root}
      {vs : List Value} {families : List Family} : Root.Document v root →
      List.Forall₂ Family.Document vs families →
      ms.Perm [("base_name", .text stem), ("root", v), ("scanner_path", .text scanner),
        ("families", .list vs)] →
      Document (.object ms) ⟨stem, root, scanner, families⟩
  /-- Only an object may leave out where the tokens come from. -/
  | bareObject {ms : List (String × Value)} {stem : String} {v : Value} {root : Root}
      {vs : List Value} {families : List Family} : Root.Document v root →
      List.Forall₂ Family.Document vs families →
      ms.Perm [("base_name", .text stem), ("root", v), ("families", .list vs)] →
      Document (.object ms) ⟨stem, root, "crate::scanner", families⟩
  | row {stem scanner : String} {v : Value} {root : Root} {vs : List Value}
      {families : List Family} : Root.Document v root →
      List.Forall₂ Family.Document vs families →
      Document (.list [.text stem, v, .text scanner, .list vs]) ⟨stem, root, scanner, families⟩

/-! ## What schemas say -/

section

variable {α β σ : Type} {key : String} {fallback : Option α} {item : Schema α}
  {rest : Fields β σ} {v : Value} {vs : List Value} {ms : List (String × Value)} {a : α} {b : β}

theorem encodes_text_iff {s : String} : Schema.text.Encodes v s ↔ v = .text s := by
  rw [Schema.Encodes]

theorem encodes_list_iff {as : List α} :
    (Schema.list item).Encodes v as ↔ ∃ vs, v = .list vs ∧ List.Forall₂ item.Encodes vs as := by
  rw [Schema.Encodes]

theorem encodes_texts_iff {l : List String} : (Schema.list .text).Encodes v l ↔ v = texts l := by
  have hitem : (Schema.text.Encodes) = fun v s => v = .text s := by
    funext v s
    rw [encodes_text_iff]
  have hall : ∀ vs, List.Forall₂ Schema.text.Encodes vs l ↔ vs = l.map .text := by
    intro vs
    rw [hitem, ← List.forall₂_map_right_iff (R := Eq), List.forall₂_eq_eq_eq]
  simp [encodes_list_iff, hall, texts]

theorem encodes_record_iff {title : String} {fields : Fields β σ} {build : β → α} :
    (Schema.record title true fields build).Encodes v a ↔
      ∃ b, build b = a ∧ ((∃ vs, v = .list vs ∧ fields.EncodesRow vs b) ∨
        ∃ ms known, v = .object ms ∧ ms.Perm known ∧ fields.EncodesMembers known b) := by
  simp [Schema.Encodes, and_comm]

theorem encodesRow_none_iff {b : Unit} : Fields.none.EncodesRow vs b ↔ vs = [] := by
  rw [Fields.EncodesRow]

theorem encodesRow_field_iff :
    (Fields.field key fallback item rest).EncodesRow vs (a, b) ↔
      (∃ v vs', vs = v :: vs' ∧ item.Encodes v a ∧ rest.EncodesRow vs' b) ∨
        vs = [] ∧ fallback = some a ∧ rest.EncodesRow [] b := by
  cases vs <;> simp [Fields.EncodesRow]

theorem encodesMembers_none_iff {b : Unit} : Fields.none.EncodesMembers ms b ↔ ms = [] := by
  rw [Fields.EncodesMembers]

theorem encodesMembers_field_iff :
    (Fields.field key fallback item rest).EncodesMembers ms (a, b) ↔
      (∃ v ms', ms = (key, v) :: ms' ∧ item.Encodes v a ∧ rest.EncodesMembers ms' b) ∨
        fallback = some a ∧ rest.EncodesMembers ms b := by
  rw [Fields.EncodesMembers]

end

theorem Variant.encodes_eq : Variant.schema.Encodes = Variant.Document := by
  funext v x
  rw [Variant.schema, encodes_record_iff, eq_iff_iff]
  simp only [encodesRow_field_iff, encodesMembers_field_iff, encodesRow_none_iff,
    encodesMembers_none_iff, encodes_text_iff, encodes_texts_iff, Prod.exists, reduceCtorEq,
    false_and, and_false, or_false, and_true]
  constructor
  · rintro ⟨name, payloads, -, rfl, h⟩
    rcases h with ⟨vs, rfl, _, _, rfl, rfl, ⟨_, _, rfl, rfl, rfl⟩ | ⟨rfl, h⟩⟩ |
      ⟨ms, known, rfl, hp, _, _, rfl, rfl, ⟨_, _, rfl, rfl, rfl⟩ | ⟨h, rfl⟩⟩
    · exact .row
    · obtain rfl := Option.some.inj h
      exact .bareRow
    · exact .object hp
    · obtain rfl := Option.some.inj h
      obtain rfl := List.perm_singleton.mp hp
      exact .bareObject
  · rintro (hp | _ | _ | _)
    · exact ⟨_, _, (), rfl, Or.inr ⟨_, _, rfl, hp, _, _, rfl, rfl, Or.inl ⟨_, _, rfl, rfl, rfl⟩⟩⟩
    · exact ⟨_, _, (), rfl, Or.inr ⟨_, _, rfl, .refl _, _, _, rfl, rfl, Or.inr ⟨rfl, rfl⟩⟩⟩
    · exact ⟨_, _, (), rfl, Or.inl ⟨_, rfl, _, _, rfl, rfl, Or.inl ⟨_, _, rfl, rfl, rfl⟩⟩⟩
    · exact ⟨_, _, (), rfl, Or.inl ⟨_, rfl, _, _, rfl, rfl, Or.inr ⟨rfl, rfl⟩⟩⟩

theorem Family.encodes_eq : Family.schema.Encodes = Family.Document := by
  funext v f
  rw [Family.schema, encodes_record_iff, eq_iff_iff]
  simp only [encodesRow_field_iff, encodesMembers_field_iff, encodesRow_none_iff,
    encodesMembers_none_iff, encodes_text_iff, encodes_list_iff, Variant.encodes_eq, Prod.exists,
    reduceCtorEq, false_and, and_false, or_false]
  constructor
  · rintro ⟨name, variants, -, rfl, h⟩
    rcases h with ⟨vs, rfl, _, _, rfl, rfl, _, _, rfl, ⟨vs, rfl, hvs⟩, rfl⟩ |
      ⟨ms, known, rfl, hp, _, _, rfl, rfl, _, _, rfl, ⟨vs, rfl, hvs⟩, rfl⟩
    · exact .row hvs
    · exact .object hvs hp
  · rintro (⟨hvs, hp⟩ | hvs)
    · exact ⟨_, _, (), rfl,
        Or.inr ⟨_, _, rfl, hp, _, _, rfl, rfl, _, _, rfl, ⟨_, rfl, hvs⟩, rfl⟩⟩
    · exact ⟨_, _, (), rfl, Or.inl ⟨_, rfl, _, _, rfl, rfl, _, _, rfl, ⟨_, rfl, hvs⟩, rfl⟩⟩

theorem Shape.lookup_eq_some_iff {n : String} {s : Shape} :
    [("single", Shape.single), ("sequence", Shape.sequence)].lookup n = some s ↔ n = s.name := by
  by_cases h : n = "single"
  · subst h
    cases s <;> simp [Shape.name]
  by_cases h' : n = "sequence"
  · subst h'
    cases s <;> simp [Shape.name, List.lookup_cons]
  · have hb : (n == "single") = false := beq_eq_false_iff_ne.mpr h
    have hb' : (n == "sequence") = false := beq_eq_false_iff_ne.mpr h'
    cases s <;> simp [Shape.name, List.lookup_cons, hb, hb', h, h']

theorem Shape.encodes_eq : Shape.schema.Encodes = Shape.Document := by
  funext v s
  rw [Shape.schema, Schema.Encodes, eq_iff_iff]
  simp only [Chosen, Shape.lookup_eq_some_iff]
  constructor
  · rintro ⟨n, rfl, rfl | rfl⟩
    · exact .name
    · exact .object
  · rintro (_ | _)
    · exact ⟨_, rfl, Or.inl rfl⟩
    · exact ⟨_, rfl, Or.inr rfl⟩

theorem Root.encodes_eq : Root.schema.Encodes = Root.Document := by
  funext v r
  rw [Root.schema, encodes_record_iff, eq_iff_iff]
  simp only [encodesRow_field_iff, encodesMembers_field_iff, encodesRow_none_iff,
    encodesMembers_none_iff, encodes_text_iff, Shape.encodes_eq, Prod.exists, reduceCtorEq,
    false_and, and_false, or_false]
  constructor
  · rintro ⟨family, shape, -, rfl, h⟩
    rcases h with ⟨vs, rfl, _, _, rfl, rfl, _, _, rfl, hv, rfl⟩ |
      ⟨ms, known, rfl, hp, _, _, rfl, rfl, _, _, rfl, hv, rfl⟩
    · exact .row hv
    · exact .object hv hp
  · rintro (⟨hv, hp⟩ | hv)
    · exact ⟨_, _, (), rfl, Or.inr ⟨_, _, rfl, hp, _, _, rfl, rfl, _, _, rfl, hv, rfl⟩⟩
    · exact ⟨_, _, (), rfl, Or.inl ⟨_, rfl, _, _, rfl, rfl, _, _, rfl, hv, rfl⟩⟩

theorem Grammar.encodes_eq : Grammar.schema.Encodes = Grammar.Document := by
  funext v g
  rw [Grammar.schema, encodes_record_iff, eq_iff_iff]
  simp only [encodesRow_field_iff, encodesMembers_field_iff, encodesRow_none_iff,
    encodesMembers_none_iff, encodes_text_iff, encodes_list_iff, Root.encodes_eq,
    Family.encodes_eq, Prod.exists, reduceCtorEq, false_and, and_false, exists_false, or_false]
  constructor
  · rintro ⟨stem, root, scanner, families, -, rfl, h⟩
    rcases h with ⟨vs, rfl, _, _, rfl, rfl, _, _, rfl, hr, _, _, rfl, rfl, _, _, rfl,
        ⟨vs, rfl, hfs⟩, rfl⟩ |
      ⟨ms, known, rfl, hp, _, _, rfl, rfl, _, _, rfl, hr, hrest⟩
    · exact .row hr hfs
    rcases hrest with ⟨_, _, rfl, rfl, _, _, rfl, ⟨vs, rfl, hfs⟩, rfl⟩ |
      ⟨h, _, _, rfl, ⟨vs, rfl, hfs⟩, rfl⟩
    · exact .object hr hfs hp
    · obtain rfl := Option.some.inj h
      exact .bareObject hr hfs hp
  · rintro (⟨hr, hfs, hp⟩ | ⟨hr, hfs, hp⟩ | ⟨hr, hfs⟩)
    · exact ⟨_, _, _, _, (), rfl, Or.inr ⟨_, _, rfl, hp, _, _, rfl, rfl, _, _, rfl, hr,
        Or.inl ⟨_, _, rfl, rfl, _, _, rfl, ⟨_, rfl, hfs⟩, rfl⟩⟩⟩
    · exact ⟨_, _, _, _, (), rfl, Or.inr ⟨_, _, rfl, hp, _, _, rfl, rfl, _, _, rfl, hr,
        Or.inr ⟨rfl, _, _, rfl, ⟨_, rfl, hfs⟩, rfl⟩⟩⟩
    · exact ⟨_, _, _, _, (), rfl, Or.inl ⟨_, rfl, _, _, rfl, rfl, _, _, rfl, hr, _, _, rfl, rfl,
        _, _, rfl, ⟨_, rfl, hfs⟩, rfl⟩⟩

/-! ## Loading -/

theorem Variant.schema_plain : Variant.schema.Plain := by
  simp [Variant.schema, Schema.Plain, Fields.Plain, Fields.keys]

theorem Grammar.schema_plain : Grammar.schema.Plain := by
  have hfamily : Family.schema.Plain := by
    simp [Family.schema, Schema.Plain, Fields.Plain, Fields.keys, Variant.schema_plain]
  have hroot : Root.schema.Plain := by
    simp [Root.schema, Shape.schema, Schema.Plain, Fields.Plain, Fields.keys]
  simp [Grammar.schema, Schema.Plain, Fields.Plain, Fields.keys, hfamily, hroot]

/-- A grammar is loaded exactly from blanks, a document of it and any text. -/
theorem Grammar.ofText_eq_ok_iff (text origin : String) (g : Grammar) :
    Grammar.ofText text origin = .ok g ↔
      ∃ w v t rest, Blanks w ∧ Spells v t ∧ Grammar.Document v g ∧
        text.toList = w ++ (t ++ rest) := by
  rw [← Grammar.encodes_eq, ← Schema.ofText_iff_encodes Grammar.schema_plain, Grammar.ofText]
  cases Grammar.schema.ofText text <;> simp

end NodeFamilies
