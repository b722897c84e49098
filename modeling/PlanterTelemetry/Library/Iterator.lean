import Mathlib.Data.List.Forall2

/-! ### Iterators, as functions of their state -/

namespace Iterator

/-- What asking an iterator for its next item gives. -/
inductive Next (σ α ε : Type) where
  | item (value : α) (rest : σ)
  | stop
  | raised (error : ε)

inductive Ending (ε : Type) where
  | stopped
  | raised (error : ε)
  | unfinished
  deriving DecidableEq

variable {σ τ α β ε : Type}

/-- The items of a run, each with the state it leaves behind. -/
def run (next : σ → Next σ α ε) : Nat → σ → List (α × σ) × Ending ε
  | 0, _ => ([], .unfinished)
  | fuel + 1, state =>
    match next state with
    | .item value rest => ((value, rest) :: (run next fuel rest).1, (run next fuel rest).2)
    | .stop => ([], .stopped)
    | .raised error => ([], .raised error)

/-- Two iterators over one state, asked in turn; the first to stop stops both. -/
def zip (left : σ → Next σ α ε) (right : σ → Next σ β ε) (state : σ) : Next σ (α × β) ε :=
  match left state with
  | .item value state =>
    match right state with
    | .item other state => .item (value, other) state
    | .stop => .stop
    | .raised error => .raised error
  | .stop => .stop
  | .raised error => .raised error

/-- An iterator read by two others, with the items that only one of them has had. -/
structure Tee (σ α : Type) where
  source : σ
  first : List α
  second : List α

def Tee.of (source : σ) : Tee σ α where
  source := source
  first := []
  second := []

def Tee.next_first (next : σ → Next σ α ε) (tee : Tee σ α) : Next (Tee σ α) α ε :=
  match tee.first with
  | value :: more => .item value { tee with first := more }
  | [] =>
    match next tee.source with
    | .item value source => .item value { tee with source, second := tee.second ++ [value] }
    | .stop => .stop
    | .raised error => .raised error

def Tee.next_second (next : σ → Next σ α ε) (tee : Tee σ α) : Next (Tee σ α) α ε :=
  match tee.second with
  | value :: more => .item value { tee with second := more }
  | [] =>
    match next tee.source with
    | .item value source => .item value { tee with source, first := tee.first ++ [value] }
    | .stop => .stop
    | .raised error => .raised error

/-- In lockstep neither reader gets ahead: what the second is given is held back
    for the first alone. -/
theorem Tee.next_second_of (next : σ → Next σ α ε) (source : σ) :
    (Tee.of source : Tee σ α).next_second next =
      match next source with
      | .item value rest => .item value { source := rest, first := [value], second := [] }
      | .stop => .stop
      | .raised error => .raised error := by
  unfold Tee.next_second Tee.of
  cases next source <;> rfl

theorem Tee.next_first_held (next : σ → Next σ α ε) (source : σ) (value : α) :
    (Tee.mk source [value] []).next_first next = .item value (Tee.of source) := rfl

/-- Two iterators that step alike. -/
inductive Alike (R : σ → τ → Prop) (P : α → β → Prop) : Next σ α ε → Next τ β ε → Prop
  | item {value : α} {other : β} {rest : σ} {left : τ} : P value other → R rest left →
      Alike R P (.item value rest) (.item other left)
  | stop : Alike R P .stop .stop
  | raised (error : ε) : Alike R P (.raised error) (.raised error)

/-- Iterators that step alike run alike. -/
theorem run_alike {next : σ → Next σ α ε} {next' : τ → Next τ β ε} {R : σ → τ → Prop}
    {P : α → β → Prop} (hstep : ∀ s t, R s t → Alike R P (next s) (next' t)) (fuel : Nat) {s : σ} {t : τ}
    (h : R s t) :
    List.Forall₂ (fun own other => P own.1 other.1 ∧ R own.2 other.2) (run next fuel s).1 (run next' fuel t).1 ∧
      (run next fuel s).2 = (run next' fuel t).2 := by
  induction fuel generalizing s t with
  | zero => exact ⟨.nil, rfl⟩
  | succ fuel ih =>
    have hnext := hstep s t h
    rw [run, run]
    generalize next s = own at hnext ⊢
    generalize next' t = other at hnext ⊢
    cases hnext with
    | item hvalue hrest =>
      obtain ⟨hitems, hending⟩ := ih hrest
      exact ⟨.cons ⟨hvalue, hrest⟩ hitems, hending⟩
    | stop => exact ⟨.nil, rfl⟩
    | raised => exact ⟨.nil, rfl⟩

end Iterator
