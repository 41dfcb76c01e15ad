import NodeFamilies.Proofs.Topics

/-!
# Layers of options

A payload holds a union by value if it is that union, perhaps in layers of `Option`, with blanks
wherever the language of types allows them. The checks take the layers off one by one, and see
through all of them as long as no line feed stands inside the outermost one.
-/

namespace NodeFamilies

open Text (isBlank trim trimStart trimEnd allBlank)

/-! ## Definitions -/

namespace Payload

/-- The texts of a type, or of any number of layers of `Option` around it. -/
inductive Wrapped (type : List Char) : List Char → Prop where
  | bare {w w' : List Char} : allBlank w → allBlank w' → Wrapped type (w ++ (type ++ w'))
  | layer {w w' t w'' : List Char} : allBlank w → allBlank w' → Wrapped type t → allBlank w'' →
      Wrapped type (w ++ (optionWord ++ (w' ++ '<' :: (t ++ '>' :: w''))))

/-- No line feed stands inside the outermost layer, save next to its angle brackets. -/
def OneLineInside (s : List Char) : Prop :=
  ∀ w w' t w'', allBlank w → allBlank w' → allBlank w'' →
    s = w ++ (optionWord ++ (w' ++ '<' :: (t ++ '>' :: w''))) → '\n' ∉ trim t

end Payload

/-! ## Trimming -/

namespace Text

theorem trimStart_append {w : List Char} (hw : allBlank w) (s : List Char) :
    trimStart (w ++ s) = trimStart s :=
  List.dropWhile_append_of_pos (by simpa [allBlank] using hw)

theorem trimEnd_append {w : List Char} (hw : allBlank w) (s : List Char) :
    trimEnd (s ++ w) = trimEnd s := by
  have hrev : ∀ c ∈ w.reverse, isBlank c = true := by simpa [allBlank] using hw
  rw [trimEnd, trimEnd, List.reverse_append, List.dropWhile_append_of_pos hrev]

theorem trim_eq_of_ends {w w' s : List Char} (hw : allBlank w) (hw' : allBlank w')
    (hhead : ∀ c, s.head? = some c → isBlank c = false)
    (hlast : ∀ c, s.getLast? = some c → isBlank c = false) : trim (w ++ (s ++ w')) = s := by
  have hstart : trimStart (w ++ (s ++ w')) = trimStart (s ++ w') := trimStart_append hw _
  rw [trim, hstart]
  cases s with
  | nil =>
    have hall : trimStart w' = [] := by
      rw [trimStart, List.dropWhile_eq_nil_iff]
      simpa [allBlank] using hw'
    rw [List.nil_append, hall]
    rfl
  | cons c s =>
    have hfirst : trimStart (c :: s ++ w') = c :: s ++ w' :=
      List.dropWhile_cons_of_neg (by simp [hhead c rfl])
    rw [hfirst, trimEnd_append hw', trimEnd, List.dropWhile_eq_self_iff.mpr, List.reverse_reverse]
    intro h
    rw [← List.head_eq_getElem (List.reverse_ne_nil_iff.mpr (List.cons_ne_nil c s)),
      List.head_reverse]
    simp [hlast _ (List.getLast?_eq_some_getLast (List.cons_ne_nil c s))]

theorem exists_blanks_trim (s : List Char) :
    ∃ w w', allBlank w ∧ allBlank w' ∧ s = w ++ (trim s ++ w') := by
  obtain ⟨w', hw', hs⟩ := exists_trimEnd_append (trimStart s)
  refine ⟨s.takeWhile isBlank, w', ?_, hw', ?_⟩
  · simp only [allBlank, List.all_eq_true]
    exact fun c hc => List.mem_takeWhile_imp hc
  · rw [trim, hs, trimStart_append_takeWhile]

theorem isBlank_of_head?_dropWhile {s : List Char} {c : Char}
    (h : (s.dropWhile isBlank).head? = some c) : isBlank c = false := by
  have hnot := List.head?_dropWhile_not isBlank s
  rw [h] at hnot
  simpa using hnot

theorem isBlank_of_head?_trim {s : List Char} {c : Char} (h : (trim s).head? = some c) :
    isBlank c = false := by
  obtain ⟨w, -, hs⟩ := exists_trimEnd_append (trimStart s)
  apply isBlank_of_head?_dropWhile (s := s)
  change (trimStart s).head? = some c
  rw [trim] at h
  rw [← hs, List.head?_append, h]
  rfl

theorem isBlank_of_getLast?_trim {s : List Char} {c : Char} (h : (trim s).getLast? = some c) :
    isBlank c = false := by
  rw [trim, trimEnd, List.getLast?_reverse] at h
  exact isBlank_of_head?_dropWhile h

theorem trim_trim (s : List Char) : trim (trim s) = trim s := by
  have hends : trim ([] ++ (trim s ++ [])) = trim s :=
    trim_eq_of_ends rfl rfl (fun _ => isBlank_of_head?_trim) (fun _ => isBlank_of_getLast?_trim)
  simpa using hends

end Text

namespace Payload

variable {type s t : List Char}

/-! ## One layer -/

theorem afterWord?_eq_some_iff {word rest : List Char} :
    afterWord? word s = some rest ↔ s = word ++ rest := by
  induction word generalizing s with
  | nil => simp [afterWord?]
  | cons c word ih =>
    cases s with
    | nil => simp [afterWord?]
    | cons d s =>
      rw [afterWord?]
      split
      · rename_i hc
        rw [ih, hc, List.cons_append, List.cons_inj_right]
      · rename_i hc
        simp [hc]

theorem betweenAngles?_eq_some_iff {body : List Char} :
    betweenAngles? s = some body ↔ s = '<' :: (body ++ ['>']) := by
  unfold betweenAngles?
  split
  · rename_i inner
    rw [List.cons_inj_right]
    split
    · rename_i hlast
      rw [Option.some.injEq]
      constructor
      · rintro rfl
        exact (List.dropLast_append_getLast? _ hlast).symm
      · rintro rfl
        exact List.dropLast_concat
    · rename_i hlast
      simp only [reduceCtorEq, false_iff]
      rintro rfl
      exact hlast List.getLast?_concat
  · rename_i hopen
    simp only [reduceCtorEq, false_iff]
    rintro rfl
    exact hopen _ rfl

theorem betweenAngles?_trimStart_eq_some_iff {body : List Char} :
    betweenAngles? (trimStart s) = some body ↔
      ∃ w, allBlank w ∧ s = w ++ '<' :: (body ++ ['>']) := by
  rw [betweenAngles?_eq_some_iff]
  constructor
  · intro h
    refine ⟨s.takeWhile Text.isBlank, ?_, ?_⟩
    · simp only [allBlank, List.all_eq_true]
      exact fun c hc => List.mem_takeWhile_imp hc
    · rw [← h, Text.trimStart_append_takeWhile]
  · rintro ⟨w, hw, rfl⟩
    rw [Text.trimStart_append hw]
    exact List.dropWhile_cons_of_neg (by decide)

theorem peelOption?_layer {w : List Char} (hw : allBlank w) (body : List Char) :
    peelOption? (optionWord ++ (w ++ '<' :: (body ++ ['>']))) =
      if '\n' ∈ trim body then none else some (trim body) := by
  have hbody : (afterWord? optionWord (optionWord ++ (w ++ '<' :: (body ++ ['>'])))).bind
      (fun rest => betweenAngles? (trimStart rest)) = some body := by
    rw [afterWord?_eq_some_iff.mpr rfl, Option.bind_some]
    exact betweenAngles?_trimStart_eq_some_iff.mpr ⟨w, hw, rfl⟩
  simp [peelOption?, hbody]

theorem exists_layer_of_peelOption? (h : peelOption? s = some t) :
    ∃ w body, allBlank w ∧ s = optionWord ++ (w ++ '<' :: (body ++ ['>'])) ∧ t = trim body := by
  unfold peelOption? at h
  split at h
  · rename_i body hbody
    obtain ⟨rest, hrest, hangles⟩ := Option.bind_eq_some_iff.mp hbody
    obtain rfl := afterWord?_eq_some_iff.mp hrest
    obtain ⟨w, hw, rfl⟩ := betweenAngles?_trimStart_eq_some_iff.mp hangles
    refine ⟨w, body, hw, rfl, ?_⟩
    split at h
    · cases h
    · exact (Option.some.inj h).symm
  · cases h

/-! ## All layers -/

theorem length_lt_of_peelOption? (h : peelOption? s = some t) : t.length < s.length := by
  obtain ⟨w, body, -, rfl, rfl⟩ := exists_layer_of_peelOption? h
  have := Text.length_trim_le body
  simp only [List.length_append, List.length_cons]
  omega

theorem peelLayers_eq_peelAll {bound : Nat} (h : s.length ≤ bound) :
    peelLayers bound s = peelAll s := by
  -- A bound as long as the text is never what ends the peeling.
  have hboth : ∀ n m (s : List Char), s.length ≤ n → s.length ≤ m →
      peelLayers n s = peelLayers m s := by
    intro n
    induction n with
    | zero =>
      intro m s hn _
      obtain rfl := List.length_eq_zero_iff.mp (Nat.le_zero.mp hn)
      cases m <;> rfl
    | succ n ih =>
      intro m s hn hm
      cases m with
      | zero =>
        obtain rfl := List.length_eq_zero_iff.mp (Nat.le_zero.mp hm)
        rfl
      | succ m =>
        rw [peelLayers, peelLayers]
        split
        · rename_i t ht
          have := length_lt_of_peelOption? ht
          exact ih m t (by omega) (by omega)
        · rfl
  exact hboth _ _ _ h le_rfl

theorem peelAll_of_some (h : peelOption? s = some t) : peelAll s = peelAll t := by
  have hlt := length_lt_of_peelOption? h
  obtain ⟨n, hn⟩ := Nat.exists_eq_add_of_lt hlt
  rw [peelAll, hn, peelLayers, h]
  exact peelLayers_eq_peelAll (by omega)

theorem peelAll_of_none (h : peelOption? s = none) : peelAll s = s := by
  rw [peelAll]
  cases s.length with
  | zero => rfl
  | succ n => rw [peelLayers, h]

/-! ## Layers around a type -/

theorem Wrapped.self (type : List Char) : Wrapped type type := by
  have hbare : Wrapped type ([] ++ (type ++ [])) := .bare rfl rfl
  simpa using hbare

theorem Wrapped.inLayer {w : List Char} (hw : allBlank w) (h : Wrapped type t) :
    Wrapped type (optionWord ++ (w ++ '<' :: (t ++ ['>']))) := by
  have hlayer : Wrapped type ([] ++ (optionWord ++ (w ++ '<' :: (t ++ '>' :: [])))) :=
    .layer rfl hw h rfl
  exact hlayer

theorem Wrapped.blanks {w w' : List Char} (h : Wrapped type t) (hw : allBlank w)
    (hw' : allBlank w') : Wrapped type (w ++ (t ++ w')) := by
  have happend : ∀ {v v' : List Char}, allBlank v → allBlank v' → allBlank (v ++ v') := by
    simp_all [allBlank]
  cases h with
  | @bare v v' hv hv' =>
    have hassoc : w ++ (v ++ (type ++ v') ++ w') = w ++ v ++ (type ++ (v' ++ w')) := by simp
    rw [hassoc]
    exact .bare (happend hw hv) (happend hv' hw')
  | @layer v v' t v'' hv hv' ht hv'' =>
    have hassoc : w ++ (v ++ (optionWord ++ (v' ++ '<' :: (t ++ '>' :: v''))) ++ w') =
        w ++ v ++ (optionWord ++ (v' ++ '<' :: (t ++ '>' :: (v'' ++ w')))) := by simp
    rw [hassoc]
    exact .layer (happend hw hv) hv' ht (happend hv'' hw')

theorem Wrapped.of_trim (h : Wrapped type (trim s)) : Wrapped type s := by
  obtain ⟨w, w', hw, hw', hs⟩ := Text.exists_blanks_trim s
  rw [hs]
  exact h.blanks hw hw'

theorem wrapped_of_peelAll (h : peelAll s = type) : Wrapped type s := by
  induction hlength : s.length using Nat.strong_induction_on generalizing s with
  | _ n ih =>
    cases hpeel : peelOption? s with
    | none =>
      rw [peelAll_of_none hpeel] at h
      exact h ▸ .self s
    | some t =>
      have hlt := length_lt_of_peelOption? hpeel
      rw [peelAll_of_some hpeel] at h
      have ht : Wrapped type t := ih t.length (hlength ▸ hlt) h rfl
      obtain ⟨w, body, hw, rfl, rfl⟩ := exists_layer_of_peelOption? hpeel
      exact .inLayer hw ht.of_trim

/-- A type is the name of a union: no text that could be a layer, and no blanks. -/
structure IsName (type : List Char) : Prop where
  notBlank : ∀ c ∈ type, Text.isBlank c = false
  notAngle : '<' ∉ type

theorem IsName.trim_bare (h : IsName type) {w w' : List Char} (hw : allBlank w)
    (hw' : allBlank w') : trim (w ++ (type ++ w')) = type :=
  Text.trim_eq_of_ends hw hw' (fun _ hc => h.notBlank _ (List.mem_of_head? hc))
    (fun _ hc => h.notBlank _ (List.mem_of_getLast? hc))

theorem IsName.peelAll (h : IsName type) : peelAll type = type := by
  apply peelAll_of_none
  cases hpeel : peelOption? type with
  | none => rfl
  | some t =>
    obtain ⟨w, body, -, rfl, -⟩ := exists_layer_of_peelOption? hpeel
    exact absurd (by simp) h.notAngle

theorem trim_layer {w w' w'' : List Char} (hw : allBlank w) (hw'' : allBlank w'') (t : List Char) :
    trim (w ++ (optionWord ++ (w' ++ '<' :: (t ++ '>' :: w'')))) =
      optionWord ++ (w' ++ '<' :: (t ++ ['>'])) := by
  have hassoc : optionWord ++ (w' ++ '<' :: (t ++ '>' :: w'')) =
      optionWord ++ (w' ++ '<' :: (t ++ ['>'])) ++ w'' := by simp
  rw [hassoc]
  apply Text.trim_eq_of_ends hw hw''
  · intro c hc
    obtain rfl : 'O' = c := by simpa [optionWord] using hc
    decide
  · intro c hc
    have hlast : (optionWord ++ (w' ++ '<' :: (t ++ ['>']))).getLast? = some '>' := by
      simp [List.getLast?_cons]
    obtain rfl := Option.some.inj (hlast.symm.trans hc)
    decide

theorem Wrapped.trim (hn : IsName type) (h : Wrapped type s) : Wrapped type (trim s) := by
  cases h with
  | bare hw hw' =>
    rw [hn.trim_bare hw hw']
    exact .self type
  | layer hw hw' ht hw'' =>
    rw [trim_layer hw hw'']
    exact .inLayer hw' ht

theorem newline_notMem_trim (h : '\n' ∉ s) : '\n' ∉ trim s := by
  obtain ⟨w, w', -, -, hs⟩ := Text.exists_blanks_trim s
  intro hmem
  apply h
  rw [hs]
  simp [hmem]

theorem peelAll_of_oneLine (hn : IsName type) (h : Wrapped type s) (hs : '\n' ∉ s) :
    peelAll (trim s) = type := by
  induction h with
  | bare hw hw' => rw [hn.trim_bare hw hw', hn.peelAll]
  | @layer w w' t w'' hw hw' _ hw'' ih =>
    have ht : '\n' ∉ t := fun hmem => hs (by simp [hmem])
    have hpeel := peelOption?_layer hw' t
    rw [if_neg (newline_notMem_trim ht)] at hpeel
    rw [trim_layer hw hw'', peelAll_of_some hpeel, ih ht]

theorem peelAll_trim_iff (hn : IsName type) :
    peelAll (trim s) = type ↔ Wrapped type s ∧ OneLineInside s := by
  constructor
  · intro h
    refine ⟨(wrapped_of_peelAll h).of_trim, ?_⟩
    rintro w w' t w'' hw hw' hw'' rfl hmem
    -- A line feed inside keeps the outermost layer on, and a layer is no name.
    have hpeel := peelOption?_layer hw' t
    rw [if_pos hmem] at hpeel
    rw [trim_layer hw hw'', peelAll_of_none hpeel] at h
    exact hn.notAngle (by simp [← h])
  · rintro ⟨h, hline⟩
    cases h with
    | bare hw hw' => rw [hn.trim_bare hw hw', hn.peelAll]
    | @layer w w' t w'' hw hw' ht hw'' =>
      have hmem : '\n' ∉ trim t := hline w w' t w'' hw hw' hw'' rfl
      have hpeel := peelOption?_layer hw' t
      rw [if_neg hmem] at hpeel
      -- What is inside is on one line now, so all further layers come off.
      have hinner := peelAll_of_oneLine hn (ht.trim hn) hmem
      rw [trim_layer hw hw'', peelAll_of_some hpeel, ← hinner, Text.trim_trim]

theorem Wrapped.exists_notBlank (hn : IsName type) (hne : type ≠ []) (h : Wrapped type s) :
    ∃ c ∈ s, Text.isBlank c = false := by
  cases h with
  | bare =>
    obtain ⟨c, cs, rfl⟩ := List.exists_cons_of_ne_nil hne
    exact ⟨c, by simp, hn.notBlank c (by simp)⟩
  | layer => exact ⟨'O', by simp [optionWord], by decide⟩

end Payload

/-! ## Unions -/

namespace Naming

theorem IdentifierPart.isBlank_eq_false {c : Char} (h : IdentifierPart c) :
    Text.isBlank c = false := by
  have hrange : 48 ≤ c.toNat ∧ c.toNat ≤ 122 := by
    simp only [IdentifierPart, IdentifierStart, Char.le_def, UInt32.le_iff_toNat_le,
      Char.toNat_val] at h
    change (65 ≤ c.toNat ∧ c.toNat ≤ 90 ∨ 97 ≤ c.toNat ∧ c.toNat ≤ 122 ∨ c = '_') ∨
      48 ≤ c.toNat ∧ c.toNat ≤ 57 at h
    rcases h with (h | h | rfl) | h
    · omega
    · omega
    · decide
    · omega
  simp only [Text.isBlank, Bool.or_eq_false_iff, Bool.and_eq_false_iff, decide_eq_false_iff_not,
    beq_eq_false_iff_ne]
  omega

theorem Identifier.isName_union {name : String} (h : Identifier name) :
    Payload.IsName (union name).toList := by
  have hunion := (identifier_union_iff (isAscii_of_identifier h)).mpr h
  refine ⟨fun c hc => (hunion.parts c hc).isBlank_eq_false, fun hc => ?_⟩
  exact absurd (hunion.parts '<' hc) (by decide)

theorem Identifier.union_ne_nil {name : String} (h : Identifier name) :
    (union name).toList ≠ [] := by
  obtain ⟨c, cs, -, hunion⟩ := h.union_toList
  simp [hunion]

end Naming

open Naming (Identifier)
open Problem (about mem_about_iff)
open Payload (Wrapped OneLineInside)

theorem Payload.embeds_iff {payload family : String} (h : Identifier family) :
    embeds payload family = true ↔
      Wrapped (Naming.union family).toList payload.toList ∧ OneLineInside payload.toList := by
  rw [← peelAll_trim_iff h.isName_union, embeds, beq_iff_eq, stripOptions, ← String.toList_inj,
    String.toList_ofList]

/-! ## What the checks report -/

theorem Variant.recursiveByValue_mem_payloadProblems_iff {v : Variant}
    {family family' variant payload : String} {position : Nat} :
    .recursiveByValue family' variant position payload ∈ v.payloadProblems family ↔
      family' = family ∧ variant = v.name ∧ v.payloads[position]? = some payload ∧
        Payload.isBlank payload = false ∧ Payload.embeds payload family = true := by
  rw [Variant.payloadProblems, List.mem_flatMap]
  constructor
  · rintro ⟨⟨p, i⟩, hmem, hp⟩
    dsimp only at hp
    split at hp
    · simp at hp
    rename_i hblank
    split at hp
    · rename_i hembeds
      obtain ⟨rfl, rfl, rfl, rfl⟩ := by simpa using hp
      exact ⟨rfl, rfl, List.mem_zipIdx_iff_getElem?.mp hmem, by simpa using hblank, hembeds⟩
    · cases hp
  · rintro ⟨rfl, rfl, hi, hblank, hembeds⟩
    refine ⟨(payload, position), List.mem_zipIdx_iff_getElem?.mpr hi, ?_⟩
    simp [hblank, hembeds]

namespace Grammar

theorem recursiveByValue_mem_check_iff {g : Grammar} {family variant payload : String}
    {position : Nat} :
    .recursiveByValue family variant position payload ∈ g.check ↔
      ∃ f ∈ g.families, ∃ v ∈ f.variants,
        .recursiveByValue family variant position payload ∈ v.payloadProblems f.name := by
  have htopic : .recursiveByValue family variant position payload ∈ g.check ↔
      .recursiveByValue family variant position payload ∈ about .payload g.check := by
    simp [mem_about_iff, Problem.topic]
  simp [htopic, about_payload]

/-- A payload is reported exactly if it is the union of its family, perhaps in layers of `Option`,
and has no line feed inside the outermost layer, save next to its angle brackets. -/
theorem recursiveByValue_iff_wrapped {g : Grammar} {f : Family} {v : Variant} {position : Nat}
    {payload : String} (hf : f ∈ g.families) (hname : Identifier f.name) (hv : v ∈ f.variants)
    (hp : v.payloads[position]? = some payload) :
    .recursiveByValue f.name v.name position payload ∈ g.check ↔
      Wrapped (Naming.union f.name).toList payload.toList ∧ OneLineInside payload.toList := by
  rw [← Payload.embeds_iff hname, recursiveByValue_mem_check_iff]
  constructor
  · rintro ⟨f', -, v', -, h⟩
    obtain ⟨hfamily, -, -, -, hembeds⟩ := Variant.recursiveByValue_mem_payloadProblems_iff.mp h
    rwa [hfamily]
  · intro hembeds
    have hwrapped := ((Payload.embeds_iff hname).mp hembeds).1
    have hblank : Payload.isBlank payload = false :=
      (isBlank_eq_false_iff payload).mpr
        (hwrapped.exists_notBlank hname.isName_union hname.union_ne_nil)
    exact ⟨f, hf, v, hv,
      Variant.recursiveByValue_mem_payloadProblems_iff.mpr ⟨rfl, rfl, hp, hblank, hembeds⟩⟩

def holding (payload : String) : Grammar :=
  ⟨"ast", ⟨"expr", .single⟩, "crate::scanner", [⟨"expr", [⟨"Maybe", [payload]⟩]⟩]⟩

theorem recursiveByValue_iff_wrapped_lines :
    let payload := "\nOption\n<\nOption<\tOption <Expr> >\n>\n"
    .recursiveByValue "expr" "Maybe" 0 payload ∈ (holding payload).check ∧
      Wrapped (Naming.union "expr").toList payload.toList ∧ OneLineInside payload.toList := by
  intro payload
  have hreported : .recursiveByValue "expr" "Maybe" 0 payload ∈ (holding payload).check := by
    decide
  have hname : Identifier "expr" := (Naming.isIdentifier_iff _).mp (by decide)
  exact ⟨hreported, (recursiveByValue_iff_wrapped (g := holding payload) List.mem_cons_self hname
    List.mem_cons_self rfl).mp hreported⟩

/-- One layer further in the same line feed keeps a type of endless size from being noticed. -/
theorem lineFeed_unnoticed :
    (holding "Option<Option<\nExpr>>").check = [] ∧
      Wrapped "Expr".toList "Option<Option<\nExpr>>".toList := by
  refine ⟨by decide, ?_⟩
  have hblank : Text.allBlank [] := rfl
  have hbare : Wrapped "Expr".toList ("\n".toList ++ ("Expr".toList ++ [])) := .bare rfl hblank
  exact .inLayer hblank (.inLayer hblank hbare)

end Grammar

end NodeFamilies
