import NodeFamilies.Proofs.WellFormed

/-!
# Unions that hold each other by value

A union that holds a value of another one is larger than it. The checks see to it that no union
holds itself; whether unions hold each other in a circle is another matter, and the only thing that
can still make one of them endless.
-/

namespace NodeFamilies.Grammar

open Relation (TransGen)

variable {g : Grammar} {u v : String}

/-- Some payload of the union `u` is the declared union `v`, perhaps in layers of `Option`. -/
def Holds (g : Grammar) (u v : String) : Prop :=
  v ∈ g.unions ∧ ∃ f ∈ g.families, Naming.union f.name = u ∧
    ∃ w ∈ f.variants, ∃ p ∈ w.payloads, Payload.stripOptions p = v

instance (g : Grammar) (u v : String) : Decidable (g.Holds u v) :=
  inferInstanceAs (Decidable (v ∈ g.unions ∧ ∃ f ∈ g.families, Naming.union f.name = u ∧
    ∃ w ∈ f.variants, ∃ p ∈ w.payloads, Payload.stripOptions p = v))

/-- Values of every union are nested to some depth at most. -/
def Finite (g : Grammar) : Prop :=
  ∃ depth : String → Nat, ∀ u v, g.Holds u v → depth v < depth u

theorem not_holds_self (h : g.WellFormed) (u : String) : ¬ g.Holds u u := by
  rintro ⟨-, f, hf, rfl, w, hw, p, hp, hstrip⟩
  exact ((h.families f hf).variants w hw).notByValue p hp hstrip

/-! ## Circles -/

theorem lt_of_transGen {depth : String → Nat} (hd : ∀ u v, g.Holds u v → depth v < depth u)
    (h : TransGen g.Holds u v) : depth v < depth u := by
  induction h with
  | single h => exact hd _ _ h
  | tail _ h ih => exact (hd _ _ h).trans ih

open Classical in
/-- The unions that are inside `u`. -/
noncomputable def inside (g : Grammar) (u : String) : Finset String :=
  g.unions.toFinset.filter fun v => TransGen g.Holds u v

theorem mem_inside_iff : v ∈ g.inside u ↔ v ∈ g.unions ∧ TransGen g.Holds u v := by
  simp [inside]

theorem card_inside_lt (hacyclic : ∀ w, ¬ TransGen g.Holds w w) (h : g.Holds u v) :
    (g.inside v).card < (g.inside u).card := by
  apply Finset.card_lt_card
  rw [Finset.ssubset_iff_of_subset]
  · refine ⟨v, mem_inside_iff.mpr ⟨h.1, .single h⟩, ?_⟩
    intro hv
    exact hacyclic v (mem_inside_iff.mp hv).2
  · intro w hw
    rw [mem_inside_iff] at hw ⊢
    exact ⟨hw.1, hw.2.head h⟩

theorem finite_iff_acyclic : g.Finite ↔ ∀ w, ¬ TransGen g.Holds w w := by
  constructor
  · rintro ⟨depth, hd⟩ w hw
    exact lt_irrefl _ (lt_of_transGen hd hw)
  · intro hacyclic
    -- The unions inside are fewer along every edge.
    exact ⟨fun w => (g.inside w).card, fun _ _ h => card_inside_lt hacyclic h⟩

theorem exists_other_of_circle (hself : ∀ w, ¬ g.Holds w w) (h : TransGen g.Holds u u) :
    ∃ v, v ≠ u ∧ TransGen g.Holds u v ∧ TransGen g.Holds v u := by
  obtain ⟨v, huv, hvu⟩ := TransGen.head'_iff.mp h
  have hne : v ≠ u := by
    rintro rfl
    exact hself v huv
  rcases Relation.reflTransGen_iff_eq_or_transGen.mp hvu with heq | hvu
  · exact absurd heq.symm hne
  · exact ⟨v, hne, .single huv, hvu⟩

/-- In a grammar without problems no union holds itself. All unions are finite if and only if no two
of them hold each other, directly or through others. -/
theorem finite_of_accepted (g : Grammar) (h : g.check = []) :
    (∀ u, ¬ g.Holds u u) ∧
      (g.Finite ↔ ∀ u v, v ≠ u → TransGen g.Holds u v → ¬ TransGen g.Holds v u) := by
  have hself := not_holds_self ((check_eq_nil_iff g).mp h)
  refine ⟨hself, ?_⟩
  rw [finite_iff_acyclic]
  constructor
  · intro hacyclic u v _ huv hvu
    exact hacyclic u (huv.trans hvu)
  · intro hpairs u hu
    obtain ⟨v, hne, huv, hvu⟩ := exists_other_of_circle hself hu
    exact hpairs u v hne huv hvu

/-- Two unions hold each other. -/
def entangled : Grammar :=
  ⟨"ast", ⟨"expr", .single⟩, "crate::scanner",
    [⟨"expr", [⟨"Block", ["Stmt"]⟩]⟩, ⟨"stmt", [⟨"Eval", ["Option< Expr >"]⟩]⟩]⟩

theorem entangled_holds : entangled.Holds "Expr" "Stmt" ∧ entangled.Holds "Stmt" "Expr" := by
  decide

theorem finite_of_accepted_entangled : entangled.check = [] ∧ ¬ entangled.Finite := by
  have hcheck : entangled.check = [] := by decide
  refine ⟨hcheck, fun hfinite => ?_⟩
  obtain ⟨hes, hse⟩ := entangled_holds
  exact (finite_of_accepted entangled hcheck).2.mp hfinite "Expr" "Stmt" (by decide) (.single hes)
    (.single hse)

/-- The checks let a circle of two unions pass. -/
theorem circle_unnoticed : entangled.check = [] ∧ TransGen entangled.Holds "Expr" "Expr" :=
  ⟨by decide, .tail (.single entangled_holds.1) entangled_holds.2⟩

end NodeFamilies.Grammar
