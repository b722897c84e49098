import PlanterTelemetry.Library.Autocommit

namespace Program

variable {Stmt : Type} {Resp : Stmt → Type} {ε α State : Type}

/-- States that some statements cannot tell apart: they answer the same on both,
    and what they do leaves them as alike as they were. -/
structure Congruence (sem : Semantics Resp State) (allowed : Stmt → Prop)
    (Alike : State → State → Prop) : Prop where
  refl : ∀ state, Alike state state
  response : ∀ {stmt first second}, allowed stmt → Alike first second →
    (sem stmt first).2 = (sem stmt second).2
  state : ∀ {stmt first second}, allowed stmt → Alike first second →
    Alike (sem stmt first).1 (sem stmt second).1

/-- What is left of a program comes to this outcome when it is undisturbed, from
    a state that it cannot tell from the one it is in. -/
def ComesTo (sem : Semantics Resp State) (allowed : Stmt → Prop) (Alike : State → State → Prop)
    (rest : Program Resp ε α) (state : State) (outcome : State × Except ε α) : Prop :=
  ∃ undisturbed, Alike state undisturbed ∧ rest.Only allowed ∧ rest.run sem undisturbed = outcome

variable {sem : Semantics Resp State} {allowed : Stmt → Prop} {Alike : State → State → Prop}
  {program : Program Resp ε α} {state after : State} {outcome : State × Except ε α}

theorem Congruence.comes_to (h : Congruence sem allowed Alike) (honly : program.Only allowed)
    (state : State) : ComesTo sem allowed Alike program state (program.run sem state) :=
  ⟨state, h.refl state, honly, rfl⟩

/-- Executing the next statement leads on to the same outcome. -/
theorem Congruence.exec (h : Congruence sem allowed Alike) {stmt : Stmt}
    {next : Resp stmt → Program Resp ε α}
    (hcomes : ComesTo sem allowed Alike (.exec stmt next) state outcome) :
    ComesTo sem allowed Alike (next (sem stmt state).2) (sem stmt state).1 outcome := by
  obtain ⟨undisturbed, halike, honly, hrun⟩ := hcomes
  refine ⟨(sem stmt undisturbed).1, h.state honly.1 halike, honly.2 _, ?_⟩
  rw [h.response honly.1 halike]
  exact hrun

/-- Interference that the program cannot tell does not change the outcome. -/
theorem ComesTo.interfere (hcomes : ComesTo sem allowed Alike program state outcome)
    (hinterfere : ∀ undisturbed, Alike state undisturbed → Alike after undisturbed) :
    ComesTo sem allowed Alike program after outcome := by
  obtain ⟨undisturbed, halike, hrest⟩ := hcomes
  exact ⟨undisturbed, hinterfere undisturbed halike, hrest⟩

/-- A program that has returned has come to the outcome. -/
theorem ComesTo.ret {value : α}
    (hcomes : ComesTo sem allowed Alike (.ret value : Program Resp ε α) state outcome) :
    ∃ final, outcome = (final, .ok value) ∧ Alike state final := by
  obtain ⟨undisturbed, halike, -, hrun⟩ := hcomes
  exact ⟨undisturbed, hrun.symm, halike⟩

theorem Only.mono {other : Stmt → Prop} (honly : program.Only allowed)
    (hmono : ∀ stmt, allowed stmt → other stmt) : program.Only other := by
  induction program with
  | ret value => trivial
  | raise error => trivial
  | exec stmt rest ih => exact ⟨hmono stmt honly.1, fun response => ih response (honly.2 response)⟩

/-- Whatever a program returns meets the condition. -/
def Returns (condition : α → Prop) : Program Resp ε α → Prop
  | .ret value => condition value
  | .raise _ => True
  | .exec _ next => ∀ response, Returns condition (next response)

theorem Returns.bind {β : Type} {condition : β → Prop} {program : Program Resp ε α}
    {next : α → Program Resp ε β} (hnext : ∀ value, (next value).Returns condition) :
    (program.bind next).Returns condition := by
  induction program with
  | ret value => exact hnext value
  | raise error => trivial
  | exec stmt rest ih => exact fun response => ih response

/-- Whatever a program raises meets the condition. -/
def Raises (condition : ε → Prop) : Program Resp ε α → Prop
  | .ret _ => True
  | .raise error => condition error
  | .exec _ next => ∀ response, Raises condition (next response)

theorem Raises.bind {β : Type} {condition : ε → Prop} {program : Program Resp ε α}
    {next : α → Program Resp ε β} (hprogram : program.Raises condition)
    (hnext : ∀ value, (next value).Raises condition) : (program.bind next).Raises condition := by
  induction program with
  | ret value => exact hnext value
  | raise error => exact hprogram
  | exec stmt rest ih => exact fun response => ih response (hprogram response)

/-- As long as its statements are answered as it relies on, the program executes
    none but those it guarantees. -/
def Guarantees (rely : (stmt : Stmt) → Resp stmt → Prop) (guarantee : Stmt → Prop) :
    Program Resp ε α → Prop
  | .ret _ => True
  | .raise _ => True
  | .exec stmt next => guarantee stmt ∧
      ∀ response, rely stmt response → Guarantees rely guarantee (next response)

section Guarantees

variable {β ι : Type} {rely : (stmt : Stmt) → Resp stmt → Prop} {guarantee : Stmt → Prop}

theorem Guarantees.bind {program : Program Resp ε α} {next : α → Program Resp ε β}
    (hprogram : program.Guarantees rely guarantee)
    (hnext : ∀ value, (next value).Guarantees rely guarantee) :
    (program.bind next).Guarantees rely guarantee := by
  induction program with
  | ret value => exact hnext value
  | raise error => trivial
  | exec stmt rest ih =>
    exact ⟨hprogram.1, fun response hresponse => ih response (hprogram.2 response hresponse)⟩

theorem Guarantees.forEach {items : List ι} {body : ι → Program Resp ε Unit}
    (hbody : ∀ item ∈ items, (body item).Guarantees rely guarantee) :
    (forEach items body).Guarantees rely guarantee := by
  induction items with
  | nil => trivial
  | cons item items ih =>
    obtain ⟨hitem, hitems⟩ := List.forall_mem_cons.mp hbody
    exact hitem.bind fun _ => ih hitems

theorem Guarantees.of_only {program : Program Resp ε α} (honly : program.Only guarantee) :
    program.Guarantees rely guarantee := by
  induction program with
  | ret value => trivial
  | raise error => trivial
  | exec stmt rest ih => exact ⟨honly.1, fun response _ => ih response (honly.2 response)⟩

/-- What a computation returned is known to the rest. -/
theorem Guarantees.lift_bind {value : Except ε α} {next : α → Program Resp ε β}
    (hnext : ∀ result, value = .ok result → (next result).Guarantees rely guarantee) :
    ((lift value).bind next : Program Resp ε β).Guarantees rely guarantee := by
  cases value with
  | ok result => exact hnext result rfl
  | error error => trivial

end Guarantees

end Program
