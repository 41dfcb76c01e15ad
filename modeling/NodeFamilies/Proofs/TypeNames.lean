import NodeFamilies.Grammar.Preset
import NodeFamilies.Proofs.WellFormed

/-!
# The type names of a module

Which names of types meet in a module, and which of them can be the same once the checks have
found nothing. The checks compare unions with unions; a union can still have the name of a type
that every module uses, or of the visitor of another family.
-/

namespace NodeFamilies

/-! ## Definitions -/

namespace Naming

def importedTypes : List String := ["Literal", "Token"]

def containerType : String := "AST"

def wrapperTypes : List String := ["Box", "Vec"]

/-- The result of a visit, which is a parameter of every visitor. -/
def resultType : String := "E"

/-- The types that a module names whatever its families are. -/
def fixedTypes : List String := importedTypes ++ [containerType] ++ wrapperTypes ++ [resultType]

end Naming

namespace Grammar

def visitors (g : Grammar) : List String := g.families.map fun f => Naming.visitor f.name

def typeNames (g : Grammar) : List String := Naming.fixedTypes ++ g.unions ++ g.visitors

end Grammar

/-! ## Visitors -/

namespace Naming

theorem visitor_eq_iff (f f' : String) : visitor f = visitor f' ↔ union f = union f' := by
  simp [visitor, ← String.toList_inj]

theorem visitor_ne_union (f : String) : visitor f ≠ union f := by
  intro h
  have hlength := congrArg (fun s : String => s.toList.length) h
  simp [visitor] at hlength

theorem visitor_notMem_fixedTypes (f : String) : visitor f ∉ fixedTypes := by
  -- The last letter of a visitor tells it from every fixed type.
  intro h
  have hlast : (visitor f).toList.getLast? = some 'r' := by simp [visitor]
  have hfixed : ∀ t ∈ fixedTypes, t.toList.getLast? ≠ some 'r' := by decide
  exact hfixed _ h hlast

end Naming

namespace Grammar

variable {g : Grammar}

theorem unions_nodup (h : g.WellFormed) : g.unions.Nodup :=
  (nodup_map_iff _ _).mpr h.distinct

theorem nodup_fixedTypes_append_visitors (h : g.WellFormed) :
    (Naming.fixedTypes ++ g.visitors).Nodup := by
  rw [List.nodup_append']
  refine ⟨by decide, ?_, ?_⟩
  · rw [visitors, nodup_map_iff]
    intro i j f f' hf hf' hij heq
    exact h.distinct i j f f' hf hf' hij ((Naming.visitor_eq_iff f.name f'.name).mp heq)
  · intro t ht hv
    obtain ⟨f, -, rfl⟩ := List.mem_map.mp hv
    exact Naming.visitor_notMem_fixedTypes f.name ht

theorem nodup_typeNames_iff (h : g.WellFormed) :
    g.typeNames.Nodup ↔ (∀ u ∈ g.unions, u ∉ Naming.fixedTypes) ∧ ∀ u ∈ g.unions, u ∉ g.visitors := by
  have hperm : g.typeNames.Perm (g.unions ++ (Naming.fixedTypes ++ g.visitors)) := by
    rw [typeNames, ← List.append_assoc]
    exact List.perm_append_comm.append_right _
  rw [hperm.nodup_iff, List.nodup_append']
  constructor
  · rintro ⟨-, -, hdisjoint⟩
    exact ⟨fun u hu hm => hdisjoint hu (List.mem_append_left _ hm),
      fun u hu hm => hdisjoint hu (List.mem_append_right _ hm)⟩
  · rintro ⟨hfixed, hvisitor⟩
    refine ⟨unions_nodup h, nodup_fixedTypes_append_visitors h, fun u hu hm => ?_⟩
    rcases List.mem_append.mp hm with hm | hm
    · exact hfixed u hu hm
    · exact hvisitor u hu hm

theorem union_mem_visitors_iff {f : Family} :
    Naming.union f.name ∈ g.visitors ↔
      ∃ f' ∈ g.families, f' ≠ f ∧ Naming.union f.name = Naming.visitor f'.name := by
  rw [visitors, List.mem_map]
  constructor
  · rintro ⟨f', hf', heq⟩
    refine ⟨f', hf', ?_, heq.symm⟩
    rintro rfl
    exact Naming.visitor_ne_union f'.name heq
  · rintro ⟨f', hf', -, heq⟩
    exact ⟨f', hf', heq.symm⟩

/-- In a grammar without problems two names of types are the same only if one of them is a union
and the other is a fixed type or the visitor of another family. -/
theorem typeNames_of_accepted (g : Grammar) (h : g.check = []) :
    g.unions.Nodup ∧ (Naming.fixedTypes ++ g.visitors).Nodup ∧
      (∀ f ∈ g.families, Naming.union f.name ≠ Naming.visitor f.name) ∧
      (g.typeNames.Nodup ↔ ∀ f ∈ g.families, Naming.union f.name ∉ Naming.fixedTypes ∧
        ∀ f' ∈ g.families, f' ≠ f → Naming.union f.name ≠ Naming.visitor f'.name) := by
  have hwf : g.WellFormed := (check_eq_nil_iff g).mp h
  refine ⟨unions_nodup hwf, nodup_fixedTypes_append_visitors hwf,
    fun f _ => (Naming.visitor_ne_union f.name).symm, ?_⟩
  rw [nodup_typeNames_iff hwf]
  simp only [unions, List.forall_mem_map, union_mem_visitors_iff]
  constructor
  · rintro ⟨hfixed, hvisitor⟩ f hf
    exact ⟨hfixed f hf, fun f' hf' hne heq => hvisitor f hf ⟨f', hf', hne, heq⟩⟩
  · intro hall
    refine ⟨fun f hf => (hall f hf).1, ?_⟩
    rintro f hf ⟨f', hf', hne, heq⟩
    exact (hall f hf).2 f' hf' hne heq

theorem typeNames_of_accepted_program :
    let g : Grammar := Preset.program.grammar
    g.check = [] ∧ g.typeNames.Nodup := by
  intro g
  have h : g.check = [] := by decide
  exact ⟨h, (typeNames_of_accepted g h).2.2.2.mpr (by decide)⟩

/-- One family is called like an imported type, another like the visitor of a third. -/
theorem typeNames_clash_unnoticed :
    let g : Grammar := ⟨"ast", ⟨"expr", .single⟩, "crate::scanner",
      [⟨"expr", []⟩, ⟨"exprVisitor", []⟩, ⟨"literal", []⟩]⟩
    g.check = [] ∧ ¬ g.typeNames.Nodup := by
  decide

end Grammar

end NodeFamilies
