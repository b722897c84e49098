import Mathlib.Order.Lattice
import Mathlib.Data.List.Basic
import Mathlib.Logic.Relation

/-! ### Machines observed through a join -/

/-- A machine observed through a join semilattice: whatever the state, a step
    joins what the input contributes on its own to what is observed. -/
structure JoinView {State Input : Type} (step : State → Input → State) (L : Type)
    [SemilatticeSup L] where
  view : State → L
  contribution : Input → L
  view_step : ∀ state input, view (step state input) = view state ⊔ contribution input

namespace JoinView

variable {State Input L : Type} [SemilatticeSup L] {step : State → Input → State}

/-- After a run, the observation is the least upper bound of the first one and
    of all contributions. -/
theorem view_foldl_le_iff (observed : JoinView step L) {inputs : List Input} {state : State}
    {bound : L} :
    observed.view (inputs.foldl step state) ≤ bound ↔
      observed.view state ≤ bound ∧ ∀ input ∈ inputs, observed.contribution input ≤ bound := by
  induction inputs generalizing state with
  | nil => simp
  | cons input inputs ih =>
    rw [List.foldl_cons, ih, observed.view_step, sup_le_iff, List.forall_mem_cons, and_assoc]

/-- The observation after a run depends on the set of inputs only: not on
    their order, and not on how often each of them comes. -/
theorem view_foldl_congr (observed : JoinView step L) {first second : List Input} {state : State}
    (hsame : ∀ input, input ∈ first ↔ input ∈ second) :
    observed.view (first.foldl step state) = observed.view (second.foldl step state) := by
  apply eq_of_forall_ge_iff
  intro bound
  rw [view_foldl_le_iff, view_foldl_le_iff]
  simp only [hsame]

/-- Running the same inputs once more observes nothing new. -/
theorem view_foldl_again (observed : JoinView step L) (inputs : List Input) (state : State) :
    observed.view (inputs.foldl step (inputs.foldl step state)) =
      observed.view (inputs.foldl step state) := by
  rw [← List.foldl_append]
  apply observed.view_foldl_congr
  intro input
  rw [List.mem_append, or_self]

end JoinView

/-! ### Systems that come to rest -/

namespace Rest

variable {State : Type} {Next : State → State → Prop} {state : State}

/-- Nothing follows by itself. -/
def AtRest (Next : State → State → Prop) (state : State) : Prop := ∀ after, ¬ Next state after

/-- From a state without infinite runs some run comes to rest. -/
theorem exists_at_rest (h : Acc (flip Next) state) :
    ∃ final, Relation.ReflTransGen Next state final ∧ AtRest Next final := by
  induction h with
  | intro state _ ih =>
    by_cases hrest : AtRest Next state
    · exact ⟨state, .refl, hrest⟩
    · obtain ⟨after, hstep⟩ := Classical.not_forall_not.mp hrest
      obtain ⟨final, hrun, hfinal⟩ := ih after hstep
      exact ⟨final, .head hstep hrun, hfinal⟩

/-- What one step keeps a run keeps. -/
theorem keeps (Inv : State → Prop) (hstep : ∀ before after, Next before after → Inv before → Inv after)
    {final : State} (hrun : Relation.ReflTransGen Next state final) (hinv : Inv state) : Inv final := by
  induction hrun with
  | refl => exact hinv
  | tail _ hnext ih => exact hstep _ _ hnext ih

end Rest
