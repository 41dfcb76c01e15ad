import NodeFamilies.Proofs.WellFormed

/-!
# What problems are about

The problems of a grammar come from different checks, and each check speaks about one topic. The
problems of one topic can so be told from all others, and they are those of its check, in order.
-/

namespace NodeFamilies

inductive Problem.Topic where
  | families
  | familyName
  | duplicateFamily
  | variantName
  | duplicateVariant
  | payload
  | root
  deriving DecidableEq, Repr

namespace Problem

def topic : Problem → Topic
  | noFamilies => .families
  | badFamilyName _ => .familyName
  | reservedFamilyName _ _ => .familyName
  | duplicateFamily _ _ _ => .duplicateFamily
  | badVariantName _ _ => .variantName
  | reservedVariantName _ _ => .variantName
  | duplicateVariant _ _ => .duplicateVariant
  | emptyPayload _ _ _ => .payload
  | recursiveByValue _ _ _ _ => .payload
  | unknownRoot _ => .root

/-- The problems of a topic, in their order. -/
def about (t : Topic) (ps : List Problem) : List Problem := ps.filter fun p => p.topic = t

/-- The problems of all topics but one. -/
def others (t : Topic) (ps : List Problem) : List Problem := ps.filter fun p => p.topic ≠ t

variable {t s : Topic} {ps qs : List Problem}

theorem about_append : about t (ps ++ qs) = about t ps ++ about t qs :=
  List.filter_append ..

theorem about_flatMap {α : Type} (l : List α) (f : α → List Problem) :
    about t (l.flatMap f) = l.flatMap fun a => about t (f a) :=
  List.filter_flatMap ..

theorem about_self (h : ∀ p ∈ ps, p.topic = t) : about t ps = ps := by
  rw [about, List.filter_eq_self]
  simpa using h

theorem about_other (h : ∀ p ∈ ps, p.topic = s) (hne : s ≠ t) : about t ps = [] := by
  rw [about, List.filter_eq_nil_iff]
  intro p hp
  simpa [h p hp] using hne

theorem mem_about_iff {p : Problem} : p ∈ about t ps ↔ p ∈ ps ∧ p.topic = t := by
  simp [about]

theorem others_append : others t (ps ++ qs) = others t ps ++ others t qs := List.filter_append ..

theorem others_flatMap {α : Type} (l : List α) (f : α → List Problem) :
    others t (l.flatMap f) = l.flatMap fun a => others t (f a) := List.filter_flatMap ..

theorem others_eq_self (h : about t ps = []) : others t ps = ps := by
  rw [about, List.filter_eq_nil_iff] at h
  rw [others, List.filter_eq_self]
  simpa using h

theorem others_eq_nil (h : ∀ p ∈ ps, p.topic = t) : others t ps = [] := by
  rw [others, List.filter_eq_nil_iff]
  simpa using h

theorem length_eq_about_add_others (t : Topic) (ps : List Problem) :
    ps.length = (about t ps).length + (others t ps).length := by
  rw [about, others, ← List.countP_eq_length_filter, ← List.countP_eq_length_filter,
    List.length_eq_countP_add_countP fun p => decide (p.topic = t)]
  simp

end Problem

open Problem (about about_append about_flatMap about_self about_other mem_about_iff others
  others_append others_eq_self others_eq_nil)

/-! ## What each check can say -/

section

variable {v : Variant} {f : Family} {g : Grammar} {p : Problem} {family : String}
  {earlier : List String}

theorem Variant.eq_of_mem_nameProblems (h : p ∈ v.nameProblems family) :
    p = .badVariantName family v.name ∨ p = .reservedVariantName family v.name := by
  unfold Variant.nameProblems at h
  split at h
  · exact Or.inl (List.mem_singleton.mp h)
  split at h
  · exact Or.inr (List.mem_singleton.mp h)
  · cases h

theorem Variant.eq_of_mem_duplicateProblems (h : p ∈ v.duplicateProblems family earlier) :
    p = .duplicateVariant family v.name := by
  unfold Variant.duplicateProblems at h
  split at h
  · exact List.mem_singleton.mp h
  · cases h

theorem Variant.eq_of_mem_payloadProblems (h : p ∈ v.payloadProblems family) :
    ∃ position, p = .emptyPayload family v.name position ∨
      ∃ payload, p = .recursiveByValue family v.name position payload := by
  unfold Variant.payloadProblems at h
  obtain ⟨⟨payload, position⟩, -, hp⟩ := List.mem_flatMap.mp h
  dsimp only at hp
  split at hp
  · exact ⟨position, Or.inl (List.mem_singleton.mp hp)⟩
  split at hp
  · exact ⟨position, Or.inr ⟨payload, List.mem_singleton.mp hp⟩⟩
  · cases hp

theorem Family.eq_of_mem_nameProblems (h : p ∈ f.nameProblems) :
    p = .badFamilyName f.name ∨ p = .reservedFamilyName f.name (Naming.union f.name) := by
  unfold Family.nameProblems at h
  split at h
  · exact Or.inl (List.mem_singleton.mp h)
  split at h
  · exact Or.inr (List.mem_singleton.mp h)
  · cases h

theorem Family.eq_of_mem_duplicateProblems (h : p ∈ f.duplicateProblems earlier) :
    ∃ first, p = .duplicateFamily (Naming.union f.name) first earlier.length := by
  unfold Family.duplicateProblems at h
  split at h
  · exact ⟨_, List.mem_singleton.mp h⟩
  · cases h

theorem Grammar.eq_of_mem_rootProblems (h : p ∈ g.rootProblems) :
    p = .unknownRoot g.root.family := by
  unfold Grammar.rootProblems at h
  split at h
  · cases h
  · exact List.mem_singleton.mp h

/-! ## The topic of each check -/

theorem Variant.topic_nameProblems (h : p ∈ v.nameProblems family) : p.topic = .variantName := by
  obtain rfl | rfl := eq_of_mem_nameProblems h <;> rfl

theorem Variant.topic_duplicateProblems (h : p ∈ v.duplicateProblems family earlier) :
    p.topic = .duplicateVariant := by
  obtain rfl := eq_of_mem_duplicateProblems h
  rfl

theorem Variant.topic_payloadProblems (h : p ∈ v.payloadProblems family) :
    p.topic = .payload := by
  obtain ⟨position, rfl | ⟨payload, rfl⟩⟩ := eq_of_mem_payloadProblems h <;> rfl

theorem Family.topic_nameProblems (h : p ∈ f.nameProblems) : p.topic = .familyName := by
  obtain rfl | rfl := eq_of_mem_nameProblems h <;> rfl

theorem Family.topic_duplicateProblems (h : p ∈ f.duplicateProblems earlier) :
    p.topic = .duplicateFamily := by
  obtain ⟨first, rfl⟩ := eq_of_mem_duplicateProblems h
  rfl

theorem Grammar.topic_rootProblems (h : p ∈ g.rootProblems) : p.topic = .root := by
  obtain rfl := eq_of_mem_rootProblems h
  rfl

end

/-! ## The problems of one topic -/

theorem flatMap_zipIdx_fst {α β : Type} (l : List α) (f : α → List β) :
    l.zipIdx.flatMap (fun p => f p.1) = l.flatMap f := by
  conv => rhs; rw [← List.zipIdx_map_fst 0 l, List.flatMap_map]

namespace Variant

variable (v : Variant) (family : String) (earlier : List String)

theorem about_duplicateVariant :
    about .duplicateVariant (v.problems family earlier) = v.duplicateProblems family earlier := by
  rw [problems, about_append, about_append, about_other (fun _ => topic_nameProblems) (by decide),
    about_self (fun _ => topic_duplicateProblems),
    about_other (fun _ => topic_payloadProblems) (by decide), List.nil_append, List.append_nil]

theorem about_payload :
    about .payload (v.problems family earlier) = v.payloadProblems family := by
  rw [problems, about_append, about_append, about_other (fun _ => topic_nameProblems) (by decide),
    about_other (fun _ => topic_duplicateProblems) (by decide),
    about_self (fun _ => topic_payloadProblems), List.nil_append, List.nil_append]

theorem about_eq_nil {t : Problem.Topic} (hn : .variantName ≠ t) (hd : .duplicateVariant ≠ t)
    (hp : .payload ≠ t) : about t (v.problems family earlier) = [] := by
  rw [problems, about_append, about_append, about_other (fun _ => topic_nameProblems) hn,
    about_other (fun _ => topic_duplicateProblems) hd,
    about_other (fun _ => topic_payloadProblems) hp]
  rfl

end Variant

namespace Family

variable (f : Family) (earlier : List String)

/-- Where a name occurs for the second time in the family. -/
def duplicateVariantProblems : List Problem :=
  f.variants.zipIdx.flatMap fun (v, k) => v.duplicateProblems f.name (f.variantNames.take k)

theorem about_variantProblems_eq_nil {t : Problem.Topic} (hn : .variantName ≠ t)
    (hd : .duplicateVariant ≠ t) (hp : .payload ≠ t) : about t f.variantProblems = [] := by
  rw [variantProblems, about_flatMap, List.flatMap_eq_nil_iff]
  rintro ⟨v, k⟩ -
  exact v.about_eq_nil f.name _ hn hd hp

theorem about_duplicateVariant :
    about .duplicateVariant (f.problems earlier) = f.duplicateVariantProblems := by
  rw [problems, about_append, about_append, about_other (fun _ => topic_nameProblems) (by decide),
    about_other (fun _ => topic_duplicateProblems) (by decide), variantProblems, about_flatMap]
  simp only [Variant.about_duplicateVariant, List.nil_append]
  rfl

theorem about_familyName : about .familyName (f.problems earlier) = f.nameProblems := by
  rw [problems, about_append, about_append, about_self (fun _ => topic_nameProblems),
    about_other (fun _ => topic_duplicateProblems) (by decide),
    about_variantProblems_eq_nil f (by decide) (by decide) (by decide), List.append_nil,
    List.append_nil]

theorem about_payload : about .payload (f.problems earlier) =
    f.variants.flatMap fun v => v.payloadProblems f.name := by
  rw [problems, about_append, about_append, about_other (fun _ => topic_nameProblems) (by decide),
    about_other (fun _ => topic_duplicateProblems) (by decide), variantProblems, about_flatMap]
  simp only [Variant.about_payload, List.nil_append]
  exact flatMap_zipIdx_fst f.variants fun v => v.payloadProblems f.name

theorem about_duplicateFamily :
    about .duplicateFamily (f.problems earlier) = f.duplicateProblems earlier := by
  rw [problems, about_append, about_append, about_other (fun _ => topic_nameProblems) (by decide),
    about_self (fun _ => topic_duplicateProblems),
    about_variantProblems_eq_nil f (by decide) (by decide) (by decide), List.nil_append,
    List.append_nil]

theorem about_eq_nil {t : Problem.Topic} (h : t = .families ∨ t = .root) :
    about t (f.problems earlier) = [] := by
  rcases h with rfl | rfl <;>
    rw [problems, about_append, about_append, about_other (fun _ => topic_nameProblems) (by decide),
      about_other (fun _ => topic_duplicateProblems) (by decide),
      about_variantProblems_eq_nil f (by decide) (by decide) (by decide)] <;>
    rfl

end Family

namespace Grammar

variable (g : Grammar)

/-- Where a union occurs again. -/
def duplicateFamilyProblems : List Problem :=
  g.families.zipIdx.flatMap fun (f, i) => f.duplicateProblems (g.unions.take i)

theorem about_check (t : Problem.Topic) (h : .families ≠ t) :
    about t g.check = about t g.familyProblems ++ about t g.rootProblems := by
  have hempty : about t (if g.families.isEmpty then [Problem.noFamilies] else []) = [] := by
    split
    · exact about_other (s := .families) (by simp [Problem.topic]) h
    · rfl
  rw [check_eq, about_append, about_append, hempty, List.nil_append]

theorem about_familyName :
    about .familyName g.check = g.families.flatMap Family.nameProblems := by
  rw [about_check g _ (by decide), about_other (fun _ => topic_rootProblems) (by decide),
    familyProblems, about_flatMap, List.append_nil]
  simp only [Family.about_familyName]
  exact flatMap_zipIdx_fst g.families Family.nameProblems

theorem about_payload : about .payload g.check =
    g.families.flatMap fun f => f.variants.flatMap fun v => v.payloadProblems f.name := by
  rw [about_check g _ (by decide), about_other (fun _ => topic_rootProblems) (by decide),
    familyProblems, about_flatMap, List.append_nil]
  simp only [Family.about_payload]
  exact flatMap_zipIdx_fst g.families fun f => f.variants.flatMap fun v => v.payloadProblems f.name

theorem about_duplicateVariant : about .duplicateVariant g.check =
    g.families.flatMap Family.duplicateVariantProblems := by
  rw [about_check g _ (by decide), about_other (fun _ => topic_rootProblems) (by decide),
    familyProblems, about_flatMap, List.append_nil]
  simp only [Family.about_duplicateVariant]
  exact flatMap_zipIdx_fst g.families Family.duplicateVariantProblems

theorem about_duplicateFamily : about .duplicateFamily g.check = g.duplicateFamilyProblems := by
  rw [about_check g _ (by decide), about_other (fun _ => topic_rootProblems) (by decide),
    familyProblems, about_flatMap, List.append_nil]
  simp only [Family.about_duplicateFamily]
  rfl

theorem about_familyProblems_eq_nil {t : Problem.Topic} (h : t = .families ∨ t = .root) :
    about t g.familyProblems = [] := by
  rw [familyProblems, about_flatMap, List.flatMap_eq_nil_iff]
  rintro ⟨f, i⟩ -
  exact f.about_eq_nil _ h

theorem about_root : about .root g.check = g.rootProblems := by
  rw [about_check g _ (by decide), about_self (fun _ => topic_rootProblems),
    about_familyProblems_eq_nil g (Or.inr rfl), List.nil_append]

theorem others_families_root : others .root (others .families g.check) = g.familyProblems := by
  have hempty : others .families (if g.families.isEmpty then [Problem.noFamilies] else []) = [] := by
    split <;> rfl
  have hfamilies : others .families g.check = g.familyProblems ++ g.rootProblems := by
    rw [check_eq, others_append, others_append, hempty, List.nil_append,
      others_eq_self (about_familyProblems_eq_nil g (Or.inl rfl)),
      others_eq_self (about_other (fun _ => topic_rootProblems) (by decide))]
  rw [hfamilies, others_append, others_eq_self (about_familyProblems_eq_nil g (Or.inr rfl)),
    others_eq_nil (fun _ => topic_rootProblems), List.append_nil]

theorem noFamilies_mem_check_iff : .noFamilies ∈ g.check ↔ g.families = [] := by
  have habout : about .families g.check = if g.families.isEmpty then [.noFamilies] else [] := by
    rw [check_eq, about_append, about_append, about_familyProblems_eq_nil g (Or.inl rfl),
      about_other (fun _ => topic_rootProblems) (by decide), List.append_nil, List.append_nil]
    split <;> rfl
  have hmem : .noFamilies ∈ g.check ↔ .noFamilies ∈ about .families g.check := by
    simp [mem_about_iff, Problem.topic]
  rw [hmem, habout]
  split <;> simp_all

theorem exists_unknownRoot_iff :
    (∃ family, .unknownRoot family ∈ g.check) ↔ Naming.union g.root.family ∉ g.unions := by
  have hroot : ∀ family, .unknownRoot family ∈ g.check ↔ .unknownRoot family ∈ g.rootProblems := by
    intro family
    rw [← about_root, mem_about_iff]
    simp [Problem.topic]
  simp only [hroot, rootProblems]
  split <;> simp_all

/-! ## The problems of one family -/

/-- The problems that are found at a position of the families. -/
def problemsAt (i : Nat) : List Problem :=
  match g.families[i]? with
  | some f => f.problems (g.unions.take i)
  | none => []

variable {g} in
theorem problemsAt_eq {i : Nat} {f : Family} (hi : g.families[i]? = some f) :
    g.problemsAt i = f.problems (g.unions.take i) := by
  rw [problemsAt, hi]

theorem check_eq_flatMap :
    g.check = (if g.families.isEmpty then [.noFamilies] else []) ++
      (List.range g.families.length).flatMap g.problemsAt ++ g.rootProblems := by
  have hpositions : List.range g.families.length = g.families.zipIdx.map Prod.snd := by
    rw [List.zipIdx_map_snd, List.range_eq_range']
  have hfamilies : g.familyProblems = (List.range g.families.length).flatMap g.problemsAt := by
    rw [familyProblems, hpositions, List.flatMap_map]
    apply List.flatMap_congr
    rintro ⟨f, i⟩ hf
    exact (problemsAt_eq (List.mem_zipIdx_iff_getElem?.mp hf)).symm
  rw [check_eq, hfamilies]

end Grammar

end NodeFamilies
