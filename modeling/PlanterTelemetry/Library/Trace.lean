import Mathlib.Data.List.Infix
import PlanterTelemetry.Library.Autocommit

/-! ### Programs that leave a trace -/

namespace Program

variable {Stmt : Type} {Resp : Stmt → Type} {ε α State Event : Type}

/-- Every statement adds to the trace, if anything. -/
def Traces (sem : Semantics Resp State) (trace : State → List Event) : Prop :=
  ∀ stmt state, trace state <+: trace (sem stmt state).1

variable {sem : Semantics Resp State} {trace : State → List Event} {program : Program Resp ε α}
  {state final : State}

theorem Traces.run (h : Traces sem trace) (program : Program Resp ε α) (state : State) :
    trace state <+: trace (program.run sem state).1 := by
  induction program generalizing state with
  | ret value => exact List.prefix_refl _
  | raise error => exact List.prefix_refl _
  | exec stmt rest ih => exact (h stmt state).trans (ih _ _)

/-- Wherever a program is cut, its trace is the beginning of what it would have
    been. -/
theorem Traces.reaches (h : Traces sem trace) (hreaches : Reaches sem program state final) :
    trace final <+: trace (program.run sem state).1 := by
  induction hreaches with
  | here program state => exact h.run program state
  | next _ ih => exact ih

end Program

/-! ### Logs whose entries depend on those before them -/

namespace Log

variable {α : Type} {Allowed : List α → α → Prop} {log : List α} {entry : α}

/-- Every entry of the log was allowed after the entries before it. -/
def Lawful (Allowed : List α → α → Prop) (log : List α) : Prop :=
  ∀ before entry after, log = before ++ entry :: after → Allowed before entry

theorem lawful_nil : Lawful Allowed ([] : List α) := by
  intro before entry after hlog
  simp at hlog

/-- What a lawful log began with is one. -/
theorem Lawful.of_start {start : List α} (h : Lawful Allowed log) (hbegins : start <+: log) :
    Lawful Allowed start := by
  obtain ⟨rest, rfl⟩ := hbegins
  rintro before entry after rfl
  exact h before entry (after ++ rest) (by rw [List.append_assoc, List.cons_append])

/-- Appending to a log only asks about the entry that is new. -/
theorem lawful_append_singleton :
    Lawful Allowed (log ++ [entry]) ↔ Lawful Allowed log ∧ Allowed log entry := by
  constructor
  · intro h
    refine ⟨fun before earlier after hlog => ?_, h log entry [] rfl⟩
    exact h before earlier (after ++ [entry]) (by simp [hlog])
  · rintro ⟨hearlier, hentry⟩ before last after hlog
    rcases List.eq_nil_or_concat after with rfl | ⟨rest, final, rfl⟩
    · obtain ⟨rfl, hlast⟩ := List.append_inj' hlog rfl
      rwa [← List.singleton_inj.mp hlast]
    · have hsplit : log ++ [entry] = (before ++ last :: rest) ++ [final] := by simp [hlog]
      exact hearlier before last rest (List.append_inj' hsplit rfl).1

/-! ### Logs whose entries move a state on -/

/-- The entries of the log move the first state to the last, one step each. -/
inductive Path {σ : Type} (Step : σ → α → σ → Prop) (first : σ) : List α → σ → Prop
  | nil : Path Step first [] first
  | snoc {log : List α} {entry : α} {state last : σ} : Path Step first log state → Step state entry last →
      Path Step first (log ++ [entry]) last

/-- What a path began with is one. -/
theorem Path.of_start {σ : Type} {Step : σ → α → σ → Prop} {first last : σ} {start : List α}
    (h : Path Step first log last) (hbegins : start <+: log) : ∃ state, Path Step first start state := by
  induction h with
  | nil => exact ⟨first, List.prefix_nil.mp hbegins ▸ .nil⟩
  | snoc hearlier hstep ih =>
    rcases List.prefix_concat_iff.mp hbegins with rfl | hearlier'
    · exact ⟨_, hearlier.snoc hstep⟩
    · exact ih hearlier'

end Log
