import Mathlib.Tactic.Basic

/-- A program whose effects are statements, executed one at a time and each
    committed on its own. The response of a statement decides how the program
    goes on; there is no transaction that spans two of them. -/
inductive Program {Stmt : Type} (Resp : Stmt → Type) (ε α : Type) : Type where
  | ret (value : α)
  | raise (error : ε)
  | exec (stmt : Stmt) (next : Resp stmt → Program Resp ε α)

namespace Program

variable {Stmt : Type} {Resp : Stmt → Type} {ε α β ι State : Type}

def bind (program : Program Resp ε α) (next : α → Program Resp ε β) : Program Resp ε β :=
  match program with
  | .ret value => next value
  | .raise error => .raise error
  | .exec stmt rest => .exec stmt (fun response => bind (rest response) next)

instance : Monad (Program Resp ε) where
  pure := .ret
  bind := bind

/-- A single statement, returning its response. -/
def perform (stmt : Stmt) : Program Resp ε (Resp stmt) := .exec stmt .ret

/-- A pure computation that may raise. -/
def lift : Except ε α → Program Resp ε α
  | .ok value => .ret value
  | .error error => .raise error

/-- The `for` statement over a finite sequence. -/
def forEach : List ι → (ι → Program Resp ε Unit) → Program Resp ε Unit
  | [], _ => .ret ()
  | item :: items, body => (body item).bind (fun _ => forEach items body)

@[simp] theorem pure_eq (value : α) : (pure value : Program Resp ε α) = .ret value := rfl

@[simp] theorem bind_eq (program : Program Resp ε α) (next : α → Program Resp ε β) :
    (program >>= next) = program.bind next := rfl

@[simp] theorem ret_bind (value : α) (next : α → Program Resp ε β) :
    (Program.ret value : Program Resp ε α).bind next = next value := rfl

@[simp] theorem raise_bind (error : ε) (next : α → Program Resp ε β) :
    (Program.raise error : Program Resp ε α).bind next = .raise error := rfl

@[simp] theorem exec_bind (stmt : Stmt) (rest : Resp stmt → Program Resp ε α)
    (next : α → Program Resp ε β) :
    (Program.exec stmt rest).bind next = .exec stmt (fun response => (rest response).bind next) :=
  rfl

@[simp] theorem perform_bind (stmt : Stmt) (next : Resp stmt → Program Resp ε β) :
    (perform stmt).bind next = .exec stmt next := rfl

@[simp] theorem lift_ok (value : α) :
    (lift (.ok value) : Program Resp ε α) = .ret value := rfl

@[simp] theorem lift_error (error : ε) :
    (lift (.error error) : Program Resp ε α) = .raise error := rfl

theorem bind_assoc {γ : Type} (program : Program Resp ε α) (next : α → Program Resp ε β)
    (last : β → Program Resp ε γ) :
    (program.bind next).bind last = program.bind fun value => (next value).bind last := by
  induction program with
  | ret value => rfl
  | raise error => rfl
  | exec stmt rest ih =>
    simp only [exec_bind]
    congr 1
    funext response
    exact ih response

theorem forEach_append (first second : List ι) (body : ι → Program Resp ε Unit) :
    forEach (first ++ second) body = (forEach first body).bind fun _ => forEach second body := by
  induction first with
  | nil => rfl
  | cons item items ih => rw [List.cons_append, forEach, ih, forEach, bind_assoc]

/-- Nested loops are one loop over the pairs. -/
theorem forEach_flatMap {κ : Type} (items : List ι) (inner : ι → List κ)
    (body : κ → Program Resp ε Unit) :
    forEach (items.flatMap inner) body = forEach items fun item => forEach (inner item) body := by
  induction items with
  | nil => rfl
  | cons item items ih => rw [List.flatMap_cons, forEach_append, ih, forEach]

theorem forEach_map {κ : Type} (items : List ι) (f : ι → κ) (body : κ → Program Resp ε Unit) :
    forEach (items.map f) body = forEach items fun item => body (f item) := by
  induction items with
  | nil => rfl
  | cons item items ih => rw [List.map_cons, forEach, ih, forEach]

theorem forEach_congr {items : List ι} {body other : ι → Program Resp ε Unit}
    (h : ∀ item ∈ items, body item = other item) : forEach items body = forEach items other := by
  induction items with
  | nil => rfl
  | cons item items ih =>
    rw [forEach, forEach, h item List.mem_cons_self,
      ih fun item hitem => h item (List.mem_cons_of_mem _ hitem)]

/-- What each statement does to the state, and its response. -/
abbrev Semantics {Stmt : Type} (Resp : Stmt → Type) (State : Type) :=
  (stmt : Stmt) → State → State × Resp stmt

variable {sem : Semantics Resp State}

/-- The uninterrupted run: every statement takes effect, in program order. -/
def run (sem : Semantics Resp State) : Program Resp ε α → State → State × Except ε α
  | .ret value, state => (state, .ok value)
  | .raise error, state => (state, .error error)
  | .exec stmt next, state => run sem (next (sem stmt state).2) (sem stmt state).1

@[simp] theorem run_ret (value : α) (state : State) :
    run sem (.ret value : Program Resp ε α) state = (state, .ok value) := rfl

@[simp] theorem run_raise (error : ε) (state : State) :
    run sem (.raise error : Program Resp ε α) state = (state, .error error) := rfl

@[simp] theorem run_exec (stmt : Stmt) (next : Resp stmt → Program Resp ε α) (state : State) :
    run sem (.exec stmt next) state = run sem (next (sem stmt state).2) (sem stmt state).1 := rfl

theorem run_bind (program : Program Resp ε α) (next : α → Program Resp ε β) (state : State) :
    run sem (program.bind next) state =
      match run sem program state with
      | (after, .ok value) => run sem (next value) after
      | (after, .error error) => (after, .error error) := by
  induction program generalizing state with
  | ret value => rfl
  | raise error => rfl
  | exec stmt rest ih => exact ih (sem stmt state).2 (sem stmt state).1

theorem run_bind_of_ok {program : Program Resp ε α} {next : α → Program Resp ε β}
    {state after : State} {value : α} (h : run sem program state = (after, .ok value)) :
    run sem (program.bind next) state = run sem (next value) after := by
  rw [run_bind, h]

/-- A sequence completes exactly when its first part does and the rest
    completes from there. -/
theorem run_bind_ok_iff {program : Program Resp ε α} {next : α → Program Resp ε β}
    {state final : State} {result : β} :
    run sem (program.bind next) state = (final, .ok result) ↔
      ∃ after value, run sem program state = (after, .ok value) ∧
        run sem (next value) after = (final, .ok result) := by
  rw [run_bind]
  cases hrun : run sem program state with
  | mk after outcome =>
    cases outcome with
    | ok value =>
      constructor
      · intro hrest
        exact ⟨after, value, rfl, hrest⟩
      · rintro ⟨_, _, heq, hrest⟩
        cases heq
        exact hrest
    | error error => simp

/-- The state after some first part of the program: the run is cut between two
    statements, or goes through to its end. A statement whose acknowledgement
    is lost has taken effect, so it counts as executed. -/
inductive Reaches (sem : Semantics Resp State) : Program Resp ε α → State → State → Prop where
  | here (program : Program Resp ε α) (state : State) : Reaches sem program state state
  | next {stmt : Stmt} {rest : Resp stmt → Program Resp ε α} {state final : State}
      (tail : Reaches sem (rest (sem stmt state).2) (sem stmt state).1 final) :
      Reaches sem (.exec stmt rest) state final

theorem Reaches.run (sem : Semantics Resp State) (program : Program Resp ε α) (state : State) :
    Reaches sem program state (program.run sem state).1 := by
  induction program generalizing state with
  | ret value => exact .here _ _
  | raise error => exact .here _ _
  | exec stmt rest ih => exact .next (ih _ _)

theorem reaches_ret_iff {value : α} {state final : State} :
    Reaches sem (.ret value : Program Resp ε α) state final ↔ final = state := by
  constructor
  · intro h
    cases h
    rfl
  · rintro rfl
    exact .here _ _

theorem reaches_raise_iff {error : ε} {state final : State} :
    Reaches sem (.raise error : Program Resp ε α) state final ↔ final = state := by
  constructor
  · intro h
    cases h
    rfl
  · rintro rfl
    exact .here _ _

theorem reaches_exec_iff {stmt : Stmt} {rest : Resp stmt → Program Resp ε α}
    {state final : State} :
    Reaches sem (.exec stmt rest) state final ↔
      final = state ∨ Reaches sem (rest (sem stmt state).2) (sem stmt state).1 final := by
  constructor
  · intro h
    cases h with
    | here => exact .inl rfl
    | next tail => exact .inr tail
  · rintro (rfl | tail)
    · exact .here _ _
    · exact .next tail

/-- A sequence is cut inside its first part, or after that part completed. -/
theorem reaches_bind {program : Program Resp ε α} {next : α → Program Resp ε β}
    {state final : State} (h : Reaches sem (program.bind next) state final) :
    Reaches sem program state final ∨
      ∃ after value, run sem program state = (after, .ok value) ∧
        Reaches sem (next value) after final := by
  induction program generalizing state with
  | ret value => exact .inr ⟨state, value, rfl, h⟩
  | raise error => exact .inl (by cases h; exact .here _ _)
  | exec stmt rest ih =>
    cases h with
    | here => exact .inl (.here _ _)
    | next tail =>
      rcases ih _ tail with hfirst | ⟨after, value, hrun, hrest⟩
      · exact .inl (.next hfirst)
      · exact .inr ⟨after, value, hrun, hrest⟩

/-- The state once the program has failed at one of the statements that can,
    whether or not that statement took effect. -/
inductive Fails (sem : Semantics Resp State) (awaited : Stmt → Bool) :
    Program Resp ε α → State → State → Prop where
  | lost {stmt : Stmt} {rest : Resp stmt → Program Resp ε α} {state : State}
      (hawaited : awaited stmt = true) : Fails sem awaited (.exec stmt rest) state state
  | applied {stmt : Stmt} {rest : Resp stmt → Program Resp ε α} {state : State}
      (hawaited : awaited stmt = true) : Fails sem awaited (.exec stmt rest) state (sem stmt state).1
  | next {stmt : Stmt} {rest : Resp stmt → Program Resp ε α} {state final : State}
      (tail : Fails sem awaited (rest (sem stmt state).2) (sem stmt state).1 final) :
      Fails sem awaited (.exec stmt rest) state final

section Fails

variable {awaited : Stmt → Bool} {state final : State}

theorem not_fails_ret {value : α} : ¬ Fails sem awaited (.ret value : Program Resp ε α) state final := nofun

theorem not_fails_raise {error : ε} : ¬ Fails sem awaited (.raise error : Program Resp ε α) state final := nofun

theorem fails_exec_iff {stmt : Stmt} {rest : Resp stmt → Program Resp ε α} :
    Fails sem awaited (.exec stmt rest) state final ↔
      (awaited stmt = true ∧ (final = state ∨ final = (sem stmt state).1)) ∨
        Fails sem awaited (rest (sem stmt state).2) (sem stmt state).1 final := by
  constructor
  · intro h
    cases h with
    | lost hawaited => exact .inl ⟨hawaited, .inl rfl⟩
    | applied hawaited => exact .inl ⟨hawaited, .inr rfl⟩
    | next tail => exact .inr tail
  · rintro (⟨hawaited, rfl | rfl⟩ | tail)
    · exact .lost hawaited
    · exact .applied hawaited
    · exact .next tail

/-- A sequence fails inside its first part, or after that part completed. -/
theorem fails_bind {program : Program Resp ε α} {next : α → Program Resp ε β}
    (h : Fails sem awaited (program.bind next) state final) :
    Fails sem awaited program state final ∨
      ∃ after value, run sem program state = (after, .ok value) ∧ Fails sem awaited (next value) after final := by
  induction program generalizing state with
  | ret value => exact .inr ⟨state, value, rfl, h⟩
  | raise error => exact absurd h not_fails_raise
  | exec stmt rest ih =>
    cases fails_exec_iff.mp h with
    | inl hhere => exact .inl (fails_exec_iff.mpr (.inl hhere))
    | inr htail =>
      rcases ih _ htail with hfirst | ⟨after, value, hrun, hrest⟩
      · exact .inl (.next hfirst)
      · exact .inr ⟨after, value, hrun, hrest⟩

/-- A sequence whose first part completed fails where the rest does. -/
theorem Fails.bind_of_run {program : Program Resp ε α} {next : α → Program Resp ε β} {after : State} {value : α}
    (hrun : run sem program state = (after, .ok value)) (h : Fails sem awaited (next value) after final) :
    Fails sem awaited (program.bind next) state final := by
  induction program generalizing state with
  | ret result =>
    obtain ⟨rfl, hvalue⟩ := Prod.mk.inj hrun
    cases hvalue
    exact h
  | raise error => cases (Prod.mk.inj hrun).2
  | exec stmt rest ih => exact .next (ih _ hrun)

end Fails

/-- A program all of whose statements are allowed, whatever they return. -/
def Only (allowed : Stmt → Prop) : Program Resp ε α → Prop
  | .ret _ => True
  | .raise _ => True
  | .exec stmt next => allowed stmt ∧ ∀ response, Only allowed (next response)

theorem Only.bind {allowed : Stmt → Prop} {program : Program Resp ε α}
    {next : α → Program Resp ε β} (hprogram : program.Only allowed)
    (hnext : ∀ value, (next value).Only allowed) : (program.bind next).Only allowed := by
  induction program with
  | ret value => exact hnext value
  | raise error => trivial
  | exec stmt rest ih => exact ⟨hprogram.1, fun response => ih response (hprogram.2 response)⟩

theorem Only.forEach {allowed : Stmt → Prop} {items : List ι} {body : ι → Program Resp ε Unit}
    (hbody : ∀ item, (body item).Only allowed) : (forEach items body).Only allowed := by
  induction items with
  | nil => trivial
  | cons item items ih => exact (hbody item).bind fun _ => ih

/-- A property that every allowed statement keeps holds wherever the program is
    cut. -/
theorem Only.invariant {allowed : Stmt → Prop} (Inv : State → Prop)
    {program : Program Resp ε α} {state final : State} (honly : program.Only allowed)
    (hstmt : ∀ stmt state, allowed stmt → Inv state → Inv (sem stmt state).1)
    (h : Reaches sem program state final) (hinv : Inv state) : Inv final := by
  induction h with
  | here => exact hinv
  | next tail ih => exact ih (honly.2 _) (hstmt _ _ honly.1 hinv)

theorem only_true (program : Program Resp ε α) : program.Only fun _ => True := by
  induction program with
  | ret value => trivial
  | raise error => trivial
  | exec stmt rest ih => exact ⟨trivial, ih⟩

/-- A property that every statement keeps holds wherever the program is cut. -/
theorem Reaches.invariant (Inv : State → Prop)
    (hstmt : ∀ stmt state, Inv state → Inv (sem stmt state).1)
    {program : Program Resp ε α} {state final : State} (h : Reaches sem program state final)
    (hinv : Inv state) : Inv final :=
  (only_true program).invariant Inv (fun stmt state _ => hstmt stmt state) h hinv

/-- A program comes down to another by statements that only read, at a state. -/
inductive ReadsTo (sem : Semantics Resp State) (state : State) :
    Program Resp ε α → Program Resp ε α → Prop where
  | here (program : Program Resp ε α) : ReadsTo sem state program program
  | read {stmt : Stmt} {rest : Resp stmt → Program Resp ε α} {program : Program Resp ε α}
      (hread : (sem stmt state).1 = state)
      (tail : ReadsTo sem state (rest (sem stmt state).2) program) :
      ReadsTo sem state (.exec stmt rest) program

theorem ReadsTo.run {first second : Program Resp ε α} {state : State}
    (h : ReadsTo sem state first second) : first.run sem state = second.run sem state := by
  induction h with
  | here => rfl
  | read hread _ ih => rw [run_exec, hread, ih]

/-- Cutting the first program leaves the state as it is or cuts the second. -/
theorem ReadsTo.reaches {first second : Program Resp ε α} {state final : State}
    (h : ReadsTo sem state first second) (hreaches : Reaches sem first state final) :
    Reaches sem second state final ∨ final = state := by
  induction h with
  | here => exact .inl hreaches
  | read hread _ ih =>
    cases reaches_exec_iff.mp hreaches with
    | inl heq => exact .inr heq
    | inr htail =>
      rw [hread] at htail
      exact ih htail

/-- Loop rule for completed runs: `motive` is indexed by the items done. -/
theorem run_forEach {body : ι → Program Resp ε Unit} (motive : List ι → State → Prop)
    {items : List ι} {state final : State}
    (hstep : ∀ done item rest before after, items = done ++ item :: rest → motive done before →
      run sem (body item) before = (after, .ok ()) → motive (done ++ [item]) after)
    (hinit : motive [] state) (hrun : run sem (forEach items body) state = (final, .ok ())) :
    motive items final := by
  suffices h : ∀ done rest before, items = done ++ rest → motive done before →
      run sem (forEach rest body) before = (final, .ok ()) → motive items final from
    h [] items state rfl hinit hrun
  intro done rest
  induction rest generalizing done with
  | nil =>
    intro before hitems hmotive hrest
    cases hrest
    simpa [hitems] using hmotive
  | cons item rest ih =>
    intro before hitems hmotive hrest
    obtain ⟨after, _, hbody, hrest⟩ := run_bind_ok_iff.mp hrest
    refine ih (done ++ [item]) after (by simp [hitems]) ?_ hrest
    exact hstep done item rest before after hitems hmotive hbody

/-- Loop rule for runs that may be cut: wherever the loop stops, some items are
    done and the next one, if any, was cut inside its body. -/
theorem reaches_forEach {body : ι → Program Resp ε Unit} (motive : List ι → State → Prop)
    (goal : State → Prop) {items : List ι} {state final : State}
    (hstep : ∀ done item rest before after, items = done ++ item :: rest → motive done before →
      run sem (body item) before = (after, .ok ()) → motive (done ++ [item]) after)
    (hcut : ∀ done item rest before after, items = done ++ item :: rest → motive done before →
      Reaches sem (body item) before after → goal after)
    (hdone : ∀ done before, motive done before → goal before)
    (hinit : motive [] state) (h : Reaches sem (forEach items body) state final) :
    goal final := by
  suffices hgen : ∀ done rest before, items = done ++ rest → motive done before →
      Reaches sem (forEach rest body) before final → goal final from
    hgen [] items state rfl hinit h
  intro done rest
  induction rest generalizing done with
  | nil =>
    intro before _ hmotive hrest
    rw [reaches_ret_iff.mp hrest]
    exact hdone done before hmotive
  | cons item rest ih =>
    intro before hitems hmotive hrest
    rcases reaches_bind hrest with hbody | ⟨after, value, hbody, hrest⟩
    · exact hcut done item rest before final hitems hmotive hbody
    · exact ih (done ++ [item]) after (by simp [hitems])
        (hstep done item rest before after hitems hmotive hbody) hrest

end Program

/-- How many statements a program executes when it is undisturbed. -/
def Program.length {Stmt : Type} {Resp : Stmt → Type} {ε α State : Type}
    (sem : Program.Semantics Resp State) : Program Resp ε α → State → Nat
  | .ret _, _ | .raise _, _ => 0
  | .exec stmt next, state => (next (sem stmt state).2).length sem (sem stmt state).1 + 1
