import NodeFamilies.Proofs.FaultPaths

/-!
# Keys of the objects of a grammar

A grammar, its root, a family and a variant are written as objects. In each of them a key that is
unknown, repeated or missing is refused and located, and what may be left out has one meaning.
-/

namespace NodeFamilies

open Json

/-- An object in the document of a grammar. -/
inductive Part where
  | whole
  | root
  | family (i : Nat)
  /-- The variant at the second position in the family at the first one. -/
  | variant (i j : Nat)

namespace Part

def path : Part → List Step
  | whole => []
  | root => [.key "root"]
  | family i => [.key "families", .index i]
  | variant i j => [.key "families", .index i, .key "variants", .index j]

/-- How the path of the part is printed. -/
def place : Part → String
  | whole => "."
  | root => "root"
  | family i => "families[" ++ toString i ++ "]"
  | variant i j => "families[" ++ toString i ++ "].variants[" ++ toString j ++ "]"

/-- How the path of a member of the part is printed. -/
def memberPlace : Part → String → String
  | whole, key => key
  | part, key => part.place ++ "." ++ key

def keys : Part → List String
  | whole => ["base_name", "root", "scanner_path", "families"]
  | root => ["family", "shape"]
  | family _ => ["name", "variants"]
  | variant _ _ => ["name", "fields"]

/-- The keys that may be left out. -/
def optional : Part → List String
  | whole => ["scanner_path"]
  | root => []
  | family _ => []
  | variant _ _ => ["fields"]

/-- The grammar in which the part has nothing of what may be left out. -/
def bare : Part → Grammar → Grammar
  | whole, g => { g with scanner := "crate::scanner" }
  | root, g => g
  | family _, g => g
  | variant i j, g =>
    { g with families := g.families.modify i fun f =>
        { f with variants := f.variants.modify j fun x => { x with payloads := [] } } }

theorem prints_path (part : Part) : Prints part.path part.place := by
  have hfamilies : "families[" = "families" ++ "[" := by decide
  have hvariants : "].variants[" = "]" ++ ("." ++ ("variants" ++ "[")) := by decide
  cases part with
  | whole => exact .whole
  | root => exact .key "root"
  | family i =>
    rw [place, hfamilies]
    exact .thenIndex i (by simp) (.key "families")
  | variant i j =>
    have h := Prints.thenIndex j (by simp) (.thenKey "variants" (by simp)
      (.thenIndex i (by simp) (.key "families")))
    simpa only [path, place, hfamilies, hvariants, String.append_assoc, List.cons_append,
      List.nil_append] using h

theorem prints_member (part : Part) (key : String) :
    Prints (part.path ++ [.key key]) (part.memberPlace key) := by
  cases part with
  | whole => exact .key key
  | root => exact .thenKey key (by simp [path]) (prints_path root)
  | family i => exact .thenKey key (by simp [path]) (family i).prints_path
  | variant i j => exact .thenKey key (by simp [path]) (variant i j).prints_path

theorem refusesAt (part : Part) {old new : Value} {q : List Step}
    (h : ∀ {α β σ : Type} {title : String} {fields : Fields β σ} {build : β → α} {a : α},
      fields.keys = part.keys → fields.required = part.keys.filter (· ∉ part.optional) →
      fields.keys.Nodup → fields.Distinct →
      (Schema.record title true fields build).Encodes old a →
      Fails (Schema.record title true fields build).read new q) :
    Grammar.schema.RefusesAt old new q part.path := by
  have hwhole : Grammar.schema.Distinct := Grammar.schema.distinct_of_plain Grammar.schema_plain
  have hroot : Root.schema.Distinct := hwhole.2.2.1
  have hfamily : Family.schema.Distinct := hwhole.2.2.2.2.1
  have hvariant : Variant.schema.Distinct := hfamily.2.2.1
  -- The path is followed through the schemas down to the record of the part.
  cases part with
  | whole =>
    rw [path, Schema.RefusesAt]
    intro a ha
    exact h (by rfl) (by rfl) hwhole.1 hwhole.2 ha
  | root =>
    have hfails : ∀ a, Root.schema.Encodes old a → Fails Root.schema.read new q :=
      fun a ha => h (by rfl) (by rfl) hroot.1 hroot.2 ha
    simpa [path, Grammar.schema, Schema.RefusesAt, Fields.RefusesKey] using hfails
  | family i =>
    have hfails : ∀ a, Family.schema.Encodes old a → Fails Family.schema.read new q :=
      fun a ha => h (by rfl) (by rfl) hfamily.1 hfamily.2 ha
    simpa [path, Grammar.schema, Schema.RefusesAt, Fields.RefusesKey] using hfails
  | variant i j =>
    have hfails : ∀ a, Variant.schema.Encodes old a → Fails Variant.schema.read new q :=
      fun a ha => h (by rfl) (by rfl) hvariant.1 hvariant.2 ha
    simpa [path, Grammar.schema, Family.schema, Schema.RefusesAt, Fields.RefusesKey] using hfails

end Part

/-! ## What is refused -/

section

variable {v : Value} {g : Grammar} {before after : List (String × Value)} {key : String} {x : Value}

theorem Part.refusedAt_of_refusesAt {part : Part} {ms : List (String × Value)} {new : Value}
    {q : List Step} {path : String} (hv : Grammar.Document v g)
    (hat : v.at? part.path = some (.object ms))
    (h : Grammar.schema.RefusesAt (.object ms) new q part.path)
    (hpath : Prints (part.path ++ q) path) : Grammar.RefusedAt (v.put part.path new) path := by
  rw [← Grammar.encodes_eq] at hv
  rw [hpath.eq_pathText]
  have hd := Schema.distinct_of_plain _ Grammar.schema_plain
  exact Grammar.refusedAt_of_fails ((Value.swapped_put hat new).located nofun _ g hd h hv).1

theorem Part.refusedAt_unknown (part : Part) (hv : Grammar.Document v g)
    (hat : v.at? part.path = some (.object (before ++ after))) (hkey : key ∉ part.keys) :
    Grammar.RefusedAt (v.put part.path (.object (before ++ (key, x) :: after)))
      (part.memberPlace key) := by
  refine refusedAt_of_refusesAt hv hat (part.refusesAt ?_) (part.prints_member key)
  intro α β σ title fields build a hkeys _ hnodup hd ha
  exact fails_unknown hnodup (fields.readable hd) ha (hkeys ▸ hkey)

theorem Part.refusedAt_repeated (part : Part) (hv : Grammar.Document v g)
    (hat : v.at? part.path = some (.object (before ++ after))) (hkey : key ∈ before.map Prod.fst) :
    Grammar.RefusedAt (v.put part.path (.object (before ++ (key, x) :: after))) part.place := by
  refine refusedAt_of_refusesAt hv hat (part.refusesAt ?_) (part.path.append_nil ▸ part.prints_path)
  intro α β σ title fields build a _ _ hnodup hd ha
  exact fails_repeated hnodup (fields.readable hd) ha hkey

theorem Part.refusedAt_missing (part : Part) (hv : Grammar.Document v g)
    (hat : v.at? part.path = some (.object (before ++ (key, x) :: after)))
    (hkey : key ∉ part.optional) :
    Grammar.RefusedAt (v.put part.path (.object (before ++ after))) part.place := by
  refine refusedAt_of_refusesAt hv hat (part.refusesAt ?_) (part.path.append_nil ▸ part.prints_path)
  intro α β σ title fields build a hkeys hrequired hnodup hd ha
  obtain ⟨slots, b, hrun, -⟩ := exists_run_of_encodes hnodup ha
  have hmem : key ∈ part.keys := hkeys ▸ Fields.keys_subset_of_run hrun (by simp)
  exact fails_missing hnodup (fields.readable hd) ha (by simp [hrequired, hmem, hkey])

end

/-! ## What may be left out -/

theorem perm_of_perm_cons {α : Type} {before after l l' : List α} {a : α}
    (h : (before ++ a :: after).Perm (l ++ a :: l')) : (before ++ after).Perm (l ++ l') :=
  (List.perm_middle.symm.trans (h.trans List.perm_middle)).cons_inv

theorem Variant.Document.bare {before after : List (String × Value)} {x : Value} {y : Variant}
    (h : Variant.Document (.object (before ++ ("fields", x) :: after)) y) :
    Variant.Document (.object (before ++ after)) { y with payloads := [] } := by
  generalize hms : before ++ ("fields", x) :: after = ms at h
  have hmem : ("fields", x) ∈ ms := by
    simp [← hms]
  cases h with
  | @object _ name payloads hp =>
    subst hms
    obtain rfl : x = texts payloads := by simpa using hp.mem_iff.mp hmem
    have hrest : (before ++ after).Perm ([("name", .text name)] ++ []) := perm_of_perm_cons hp
    rw [List.perm_singleton.mp hrest]
    exact .bareObject
  | bareObject => simp at hmem

theorem Grammar.Document.bare {before after : List (String × Value)} {x : Value} {g : Grammar}
    (h : Grammar.Document (.object (before ++ ("scanner_path", x) :: after)) g) :
    Grammar.Document (.object (before ++ after)) { g with scanner := "crate::scanner" } := by
  generalize hms : before ++ ("scanner_path", x) :: after = ms at h
  have hmem : ("scanner_path", x) ∈ ms := by
    simp [← hms]
  cases h with
  | @object _ stem scanner v root vs families hr hfs hp =>
    subst hms
    obtain rfl : x = .text scanner := by simpa using hp.mem_iff.mp hmem
    have hrest : (before ++ after).Perm
        ([("base_name", .text stem), ("root", v)] ++ [("families", .list vs)]) :=
      perm_of_perm_cons hp
    exact .bareObject hr hfs hrest
  | bareObject _ _ hp =>
    have habsent := hp.mem_iff.mp hmem
    simp at habsent

theorem forall₂_put {α : Type} {r : Value → α → Prop} {vs : List Value} {as : List α}
    (h : List.Forall₂ r vs as) {i : Nat} {p : List Step} {old new : Value}
    (hat : (Value.list vs).at? (.index i :: p) = some old) {change : α → α}
    (hchange : ∀ v a, v.at? p = some old → r v a → r (v.put p new) (change a)) :
    ∃ vs', (Value.list vs).put (.index i :: p) new = .list vs' ∧
      List.Forall₂ r vs' (as.modify i change) := by
  refine ⟨_, rfl, ?_⟩
  rw [Value.at?, Option.bind_eq_bind, Option.bind_eq_some_iff] at hat
  obtain ⟨v, hv, hat⟩ := hat
  induction h generalizing i with
  | nil => cases hv
  | cons ha hrest ih =>
    cases i with
    | zero =>
      obtain rfl := Option.some.inj hv
      exact .cons (hchange _ _ hat ha) hrest
    | succ i => exact .cons ha (ih hv)

theorem exists_mem_of_at? {ms : List (String × Value)} {key : String} {p : List Step}
    {old : Value} (h : (Value.object ms).at? (.key key :: p) = some old) :
    ∃ v, (key, v) ∈ ms ∧ v.at? p = some old := by
  rw [Value.at?, Option.bind_eq_bind, Option.bind_eq_some_iff] at h
  obtain ⟨v, hv, h⟩ := h
  exact ⟨v, mem_of_lookup_eq_some hv, h⟩

theorem perm_put {ms known : List (String × Value)} (h : ms.Perm known) (key : String)
    (p : List Step) (new : Value) :
    (ms.map fun m => if m.1 = key then (m.1, m.2.put p new) else m).Perm
      (known.map fun m => if m.1 = key then (m.1, m.2.put p new) else m) :=
  h.map _

theorem Family.Document.put_variant {v : Value} {f : Family} (h : Family.Document v f) {i : Nat}
    {p : List Step} {old new : Value}
    (hat : v.at? (.key "variants" :: .index i :: p) = some old) {change : Variant → Variant}
    (hchange : ∀ v y, v.at? p = some old → Variant.Document v y →
      Variant.Document (v.put p new) (change y)) :
    Family.Document (v.put (.key "variants" :: .index i :: p) new)
      { f with variants := f.variants.modify i change } := by
  cases h with
  | @object ms name vs variants hvs hp =>
    obtain ⟨v, hmem, hat⟩ := exists_mem_of_at? hat
    obtain rfl : v = .list vs := by simpa using hp.mem_iff.mp hmem
    obtain ⟨vs', hput, hvs'⟩ := forall₂_put hvs hat hchange
    refine .object hvs' ?_
    simpa [hput] using perm_put hp "variants" (.index i :: p) new
  | row => simp [Value.at?] at hat

theorem Grammar.Document.put_family {v : Value} {g : Grammar} (h : Grammar.Document v g) {i : Nat}
    {p : List Step} {old new : Value}
    (hat : v.at? (.key "families" :: .index i :: p) = some old) {change : Family → Family}
    (hchange : ∀ v f, v.at? p = some old → Family.Document v f →
      Family.Document (v.put p new) (change f)) :
    Grammar.Document (v.put (.key "families" :: .index i :: p) new)
      { g with families := g.families.modify i change } := by
  cases h with
  | @object ms stem scanner v root vs families hr hfs hp =>
    obtain ⟨w, hmem, hat⟩ := exists_mem_of_at? hat
    obtain rfl : w = .list vs := by simpa using hp.mem_iff.mp hmem
    obtain ⟨vs', hput, hfs'⟩ := forall₂_put hfs hat hchange
    refine .object hr hfs' ?_
    simpa [hput] using perm_put hp "families" (.index i :: p) new
  | @bareObject ms stem v root vs families hr hfs hp =>
    obtain ⟨w, hmem, hat⟩ := exists_mem_of_at? hat
    obtain rfl : w = .list vs := by simpa using hp.mem_iff.mp hmem
    obtain ⟨vs', hput, hfs'⟩ := forall₂_put hfs hat hchange
    refine .bareObject hr hfs' ?_
    simpa [hput] using perm_put hp "families" (.index i :: p) new
  | row => simp [Value.at?] at hat

theorem Part.document_bare (part : Part) {v : Value} {g : Grammar} (hv : Grammar.Document v g)
    {before after : List (String × Value)} {key : String} {x : Value}
    (hat : v.at? part.path = some (.object (before ++ (key, x) :: after)))
    (hkey : key ∈ part.optional) :
    Grammar.Document (v.put part.path (.object (before ++ after))) (part.bare g) := by
  cases part with
  | whole =>
    obtain rfl := List.mem_singleton.mp hkey
    obtain rfl := Option.some.inj hat
    exact hv.bare
  | root => cases hkey
  | family => cases hkey
  | variant i j =>
    obtain rfl := List.mem_singleton.mp hkey
    refine hv.put_family hat fun u f hu hf => hf.put_variant hu ?_
    intro w y hw hy
    obtain rfl := Option.some.inj hw
    exact hy.bare

/-- What every text is read as that begins with the document. -/
def Grammar.LoadedFrom (v : Value) (g : Grammar) : Prop :=
  ∀ text origin w t rest, Blanks w → Spells v t → text.toList = w ++ (t ++ rest) →
    Grammar.ofText text origin = .ok g

theorem Grammar.loadedFrom_of_document {v : Value} {g : Grammar} (h : Grammar.Document v g) :
    Grammar.LoadedFrom v g := by
  intro text origin w t rest hw ht htext
  have hok : Grammar.schema.ofText text = .ok g := by
    refine (Schema.ofText_iff_encodes Grammar.schema_plain).mpr ⟨w, v, t, rest, hw, ht, ?_, htext⟩
    rwa [Grammar.encodes_eq]
  rw [ofText, hok]

/-- In every object of a document that stands for a part of the grammar, and at every place in it:
a key that the part does not have is refused as such, a key that stands there before and a key that
is missing are refused as faults of the object, and what may be left out has its default then. -/
theorem keys_of_part (part : Part) (v : Value) (g : Grammar) (hv : Grammar.Document v g)
    (before after : List (String × Value)) (key : String) (x : Value) :
    (v.at? part.path = some (.object (before ++ after)) →
      (key ∉ part.keys → Grammar.RefusedAt
        (v.put part.path (.object (before ++ (key, x) :: after))) (part.memberPlace key)) ∧
      (key ∈ before.map Prod.fst → Grammar.RefusedAt
        (v.put part.path (.object (before ++ (key, x) :: after))) part.place)) ∧
    (v.at? part.path = some (.object (before ++ (key, x) :: after)) →
      (key ∉ part.optional → Grammar.RefusedAt
        (v.put part.path (.object (before ++ after))) part.place) ∧
      (key ∈ part.optional → Grammar.LoadedFrom
        (v.put part.path (.object (before ++ after))) (part.bare g))) := by
  refine ⟨fun hat => ⟨part.refusedAt_unknown hv hat, part.refusedAt_repeated hv hat⟩, ?_⟩
  intro hat
  refine ⟨part.refusedAt_missing hv hat, ?_⟩
  intro hkey
  exact Grammar.loadedFrom_of_document (part.document_bare hv hat hkey)

/-- The members of a document of a grammar with one variant, which is written as that object. -/
def oneVariant (ms : List (String × Value)) : List (String × Value) :=
  [("base_name", .text "ast"),
    ("root", .object [("family", .text "expr"), ("shape", .text "single")]),
    ("families", .list [.object [("name", .text "expr"), ("variants", .list [.object ms])]])]

theorem keys_of_part_variant :
    Grammar.RefusedAt
      (.object (oneVariant [("name", .text "Unit"), ("kind", .null), ("fields", texts ["u8"])]))
      "families[0].variants[0].kind" ∧
    Grammar.RefusedAt
      (.object (oneVariant [("name", .text "Unit"), ("name", .null), ("fields", texts ["u8"])]))
      "families[0].variants[0]" ∧
    Grammar.RefusedAt (.object (oneVariant [("fields", texts ["u8"])]))
      "families[0].variants[0]" ∧
    Grammar.RefusedAt
      (.object (oneVariant [("name", .text "Unit"), ("fields", texts ["u8"])] ++ [("root", .null)]))
      "." ∧
    Grammar.LoadedFrom (.object (oneVariant [("name", .text "Unit")]))
      ⟨"ast", ⟨"expr", .single⟩, "crate::scanner", [⟨"expr", [⟨"Unit", []⟩]⟩]⟩ := by
  let ms := oneVariant [("name", .text "Unit"), ("fields", texts ["u8"])]
  let g : Grammar :=
    ⟨"ast", ⟨"expr", .single⟩, "crate::scanner", [⟨"expr", [⟨"Unit", ["u8"]⟩]⟩]⟩
  have hfamily : Family.Document
      (.object [("name", .text "expr"), ("variants", .list [.object
        [("name", .text "Unit"), ("fields", texts ["u8"])]])]) ⟨"expr", [⟨"Unit", ["u8"]⟩]⟩ :=
    .object (.cons (.object (.refl _)) .nil) (.refl _)
  have hv : Grammar.Document (.object ms) g :=
    .bareObject (.object .name (.refl _)) (.cons hfamily .nil) (.refl _)
  have hinsert := fun key x =>
    (keys_of_part (.variant 0 0) _ g hv [("name", .text "Unit")] [("fields", texts ["u8"])] key x).1
      rfl
  refine ⟨?_, ?_, ?_, ?_, ?_⟩
  · exact (hinsert "kind" .null).1 (by decide)
  · exact (hinsert "name" .null).2 (by decide)
  · exact ((keys_of_part (.variant 0 0) _ g hv [] [("fields", texts ["u8"])] "name"
      (.text "Unit")).2 rfl).1 (by decide)
  · exact ((keys_of_part .whole _ g hv ms [] "root" .null).1 rfl).2 (by simp [ms, oneVariant])
  · exact ((keys_of_part (.variant 0 0) _ g hv [("name", .text "Unit")] [] "fields"
      (texts ["u8"])).2 rfl).2 (by decide)

end NodeFamilies
