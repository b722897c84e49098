import PlanterTelemetry.Library.Autocommit

/-- The order in which the statements of a program may come: a phase allows some
    of them, and a statement and its response lead to the next phase. -/
structure Protocol {Stmt : Type} (Resp : Stmt → Type) (Phase : Type) where
  allowed : Phase → Stmt → Prop
  after : Phase → (stmt : Stmt) → Resp stmt → Phase

namespace Program

variable {Stmt : Type} {Resp : Stmt → Type} {Phase ε α β ι State : Type}

/-- A program keeps to the protocol from a phase on, whatever it is answered,
    and ends only in the last phase. -/
def Follows (protocol : Protocol Resp Phase) (last : Phase) : Phase → Program Resp ε α → Prop
  | phase, .ret _ => phase = last
  | phase, .raise _ => phase = last
  | phase, .exec stmt next => protocol.allowed phase stmt ∧
      ∀ response, Follows protocol last (protocol.after phase stmt response) (next response)

variable {protocol : Protocol Resp Phase} {phase last : Phase} {program : Program Resp ε α}

/-- The parts of a sequence each start and end in the last phase. -/
theorem Follows.bind {next : α → Program Resp ε β} (hprogram : program.Follows protocol last phase)
    (hnext : ∀ value, (next value).Follows protocol last last) :
    (program.bind next).Follows protocol last phase := by
  induction program generalizing phase with
  | ret value =>
    obtain rfl := hprogram
    exact hnext value
  | raise error => exact hprogram
  | exec stmt rest ih =>
    exact ⟨hprogram.1, fun response => ih response (hprogram.2 response)⟩

theorem Follows.forEach {items : List ι} {body : ι → Program Resp ε Unit}
    (hbody : ∀ item ∈ items, (body item).Follows protocol last last) :
    (Program.forEach items body).Follows protocol last last := by
  induction items with
  | nil => exact rfl
  | cons item items ih =>
    obtain ⟨hitem, hitems⟩ := List.forall_mem_cons.mp hbody
    exact hitem.bind fun _ => ih hitems

theorem Follows.lift (protocol : Protocol Resp Phase) (last : Phase) (value : Except ε α) :
    (Program.lift value : Program Resp ε α).Follows protocol last last := by
  cases value with
  | ok value => exact rfl
  | error error => exact rfl

/-- What each allowed statement carries from its phase to the next one holds at
    the end of a run. -/
theorem Follows.run {sem : Semantics Resp State} (Inv : Phase → State → Prop)
    (hstmt : ∀ phase stmt state, protocol.allowed phase stmt → Inv phase state →
      Inv (protocol.after phase stmt (sem stmt state).2) (sem stmt state).1)
    (h : program.Follows protocol last phase) {state : State} (hinv : Inv phase state) :
    Inv last (program.run sem state).1 := by
  induction program generalizing phase state with
  | ret value => exact (h : phase = last) ▸ hinv
  | raise error => exact (h : phase = last) ▸ hinv
  | exec stmt rest ih =>
    exact ih _ (h.2 _) (hstmt phase stmt state h.1 hinv)

end Program
