import Mathlib.Algebra.BigOperators.Group.List.Basic
import Mathlib.Algebra.Order.Group.Defs
import Mathlib.Data.List.Induction
import Mathlib.Tactic.Abel

/-! ### Sending things at their times, one after the other -/

namespace Pacing

/-- A thing to send: when it is due, how long it takes from sending the one before
    to reading the clock for it, and how much longer a sleep takes than it was
    asked to. -/
structure Slot (K : Type) where
  due : K
  busy : K
  overslept : K

variable {K : Type} [AddCommGroup K] [LinearOrder K]

/-- When it is sent, after the one before. -/
def send (clock : K) (slot : Slot K) : K :=
  let now := clock + slot.busy
  let delay := slot.due - now
  if 0 < delay then now + (delay + slot.overslept) else now

def sends : K → List (Slot K) → List K
  | _, [] => []
  | clock, slot :: rest => send clock slot :: sends (send clock slot) rest

variable {clock : K} {slots : List (Slot K)}

theorem getElem?_sends {index : Nat} {time : K} (h : (sends clock slots)[index]? = some time) :
    ∃ own, slots[index]? = some own ∧ time = send ((slots.take index).foldl send clock) own := by
  induction slots generalizing clock index with
  | nil => cases h
  | cons slot rest ih =>
    cases index with
    | zero =>
      cases h
      exact ⟨slot, rfl, rfl⟩
    | succ index => exact ih h

/-- The time of a thing is where sending it and those before has come to. -/
theorem time_eq_foldl {index : Nat} {time : K} (h : (sends clock slots)[index]? = some time) :
    time = (slots.take (index + 1)).foldl send clock := by
  obtain ⟨own, hown, rfl⟩ := getElem?_sends h
  rw [List.take_add_one, hown, List.foldl_append]
  rfl

variable [IsOrderedAddMonoid K]

/-- A thing is sent when it is due, give or take the error of its own sleep, or at once where
    the clock is past that. -/
theorem send_eq (clock : K) (slot : Slot K) :
    send clock slot = if clock + slot.busy < slot.due then slot.due + slot.overslept else clock + slot.busy := by
  unfold send
  simp only [sub_pos]
  split
  · abel
  · rfl

theorem due_le_send (clock : K) (slot : Slot K) : slot.due + min 0 slot.overslept ≤ send clock slot := by
  rw [send_eq]
  split
  · exact add_le_add_right (min_le_right _ _) _
  · next hlate => exact (add_le_of_nonpos_right (min_le_left _ _)).trans (not_lt.mp hlate)

/-- A thing is sent late by no more than the work since the last sleep and the error of that
    sleep: neither earlier work nor earlier sleeps matter. -/
theorem foldl_send_cases (clock : K) (slots : List (Slot K)) :
    slots.foldl send clock = clock + (slots.map Slot.busy).sum ∨
      ∃ before own after, slots = before ++ own :: after ∧
        slots.foldl send clock = own.due + own.overslept + (after.map Slot.busy).sum := by
  induction slots using List.reverseRecOn with
  | nil => exact .inl (add_zero clock).symm
  | append_singleton slots slot ih =>
    rw [List.foldl_append, List.foldl_cons, List.foldl_nil, send_eq]
    split
    · exact .inr ⟨slots, slot, [], rfl, (add_zero _).symm⟩
    · rcases ih with hall | ⟨before, own, after, rfl, hlast⟩
      · refine .inl ?_
        rw [hall, List.map_append, List.sum_append, add_assoc, List.map_singleton, List.sum_singleton]
      · refine .inr ⟨before, own, after ++ [slot], by rw [List.append_assoc, List.cons_append], ?_⟩
        rw [hlast, List.map_append, List.sum_append, add_assoc, List.map_singleton, List.sum_singleton]

end Pacing
