import Fuelmint.Foundation.Runs

/-!
# Supervised workers

A worker serves a fallible state machine until a fault stops it.  A stopped
worker keeps the state it had at the fault and answers nothing more; only a
restart, which rebuilds a worker from the state that was left, brings it back.
-/

namespace Foundation

variable {Input Fault State Answer : Type}

inductive Worker (State : Type) where
  | serving (state : State)
  | stopped (state : State)
  deriving DecidableEq

namespace Worker

@[simp]
def state : Worker State → State
  | .serving current => current
  | .stopped current => current

def isServing : Worker State → Bool
  | .serving _ => true
  | .stopped _ => false

/-- Change the state behind the back of the worker. -/
def map (change : State → State) : Worker State → Worker State
  | .serving current => .serving (change current)
  | .stopped current => .stopped (change current)

theorem map_eq_self
    {change : State → State} {worker : Worker State}
    (unchanged : change worker.state = worker.state) :
    worker.map change = worker := by
  cases worker with
  | serving current => exact congrArg Worker.serving unchanged
  | stopped current => exact congrArg Worker.stopped unchanged

/-- Hand one input to the worker. -/
def serve (step : Input → EStateM Fault State Answer) :
    Worker State → Input → Worker State × Option Answer
  | .serving current, input =>
      match step input current with
      | .ok answer next => (.serving next, some answer)
      | .error _ stuck => (.stopped stuck, none)
  | .stopped current, _ => (.stopped current, none)

end Worker

/-- What can happen to a supervised worker. -/
inductive Occurrence (Input : Type) where
  | receive (input : Input)
  | restart

namespace Occurrence

variable {Other : Type}

def map (change : Input → Other) : Occurrence Input → Occurrence Other
  | .receive input => .receive (change input)
  | .restart => .restart

def input? : Occurrence Input → Option Input
  | .receive input => some input
  | .restart => none

/-- The inputs of a history, in order. -/
def inputs (history : List (Occurrence Input)) : List Input :=
  history.filterMap input?

@[simp]
theorem inputs_append (earlier later : List (Occurrence Input)) :
    inputs (earlier ++ later) = inputs earlier ++ inputs later :=
  List.filterMap_append

@[simp]
theorem inputs_map_receive (received : List Input) :
    inputs (received.map receive) = received := by
  induction received with
  | nil =>
      rfl
  | cons first rest inductionHypothesis =>
      exact congrArg (first :: ·) inductionHypothesis

@[simp]
theorem map_map_receive (change : Input → Other) (received : List Input) :
    (received.map receive).map (map change) =
      (received.map change).map receive := by
  rw [List.map_map, List.map_map]
  rfl

end Occurrence

namespace Worker

variable (step : Input → EStateM Fault State Answer)
  (restart : State → Worker State)

def occur (worker : Worker State) :
    Occurrence Input → Worker State
  | .receive input => (worker.serve step input).1
  | .restart => restart worker.state

/-- The worker after a whole history of inputs and restarts. -/
def after (worker : Worker State)
    (history : List (Occurrence Input)) : Worker State :=
  history.foldl (occur step restart) worker

section History

variable {step} {restart}

@[simp]
theorem after_nil (worker : Worker State) :
    worker.after step restart [] = worker := rfl

@[simp]
theorem after_cons
    (worker : Worker State) (first : Occurrence Input)
    (rest : List (Occurrence Input)) :
    worker.after step restart (first :: rest) =
      (worker.occur step restart first).after step restart rest := rfl

theorem after_append
    (worker : Worker State) (earlier later : List (Occurrence Input)) :
    worker.after step restart (earlier ++ later) =
      (worker.after step restart earlier).after step restart later :=
  List.foldl_append

@[simp]
theorem serve_stopped (current : State) (input : Input) :
    serve step (.stopped current) input = (.stopped current, none) :=
  rfl

theorem serve_ok
    {current next : State} {input : Input} {answer : Answer}
    (stepped : step input current = .ok answer next) :
    serve step (.serving current) input =
      (.serving next, some answer) := by
  simp only [serve, stepped]

theorem serve_error
    {current stuck : State} {input : Input} {fault : Fault}
    (stepped : step input current = .error fault stuck) :
    serve step (.serving current) input = (.stopped stuck, none) := by
  simp only [serve, stepped]

/-- An answer comes from an answered step of a serving worker. -/
theorem serve_eq_some
    {worker next : Worker State} {input : Input} {answer : Answer}
    (served : serve step worker input = (next, some answer)) :
    ∃ current reached,
      worker = .serving current ∧ next = .serving reached ∧
        step input current = .ok answer reached := by
  cases worker with
  | stopped current =>
      simp [serve] at served
  | serving current =>
      cases stepped : step input current with
      | error fault stuck =>
          simp [serve, stepped] at served
      | ok found reached =>
          simp only [serve, stepped, Prod.mk.injEq,
            Option.some.injEq] at served
          obtain ⟨rfl, rfl⟩ := served
          exact ⟨current, reached, rfl, rfl, stepped⟩

/-- A stopped worker answers nothing, however long it is asked. -/
theorem after_receive_stopped
    (current : State) (inputs : List Input) :
    (Worker.stopped current).after step restart
        (inputs.map Occurrence.receive) =
      .stopped current := by
  induction inputs with
  | nil =>
      rfl
  | cons input rest inductionHypothesis =>
      simpa [occur] using inductionHypothesis

theorem after_receive_of_answered
    {inputs : List Input} {start finish : State}
    (served : Answered step inputs start finish) :
    (Worker.serving start).after step restart
        (inputs.map Occurrence.receive) =
      .serving finish := by
  induction inputs generalizing start with
  | nil =>
      rw [answered_nil] at served
      simp [served]
  | cons input rest inductionHypothesis =>
      obtain ⟨answer, middle, stepped, tail⟩ :=
        answered_cons.mp served
      rw [List.map_cons, after_cons, occur, serve_ok stepped]
      exact inductionHypothesis tail

/-- What every occurrence of a history preserves, the history preserves. -/
theorem after_preserves
    (Known : Worker State → Prop)
    {history : List (Occurrence Input)}
    (each :
      ∀ occurrence ∈ history, ∀ worker,
        Known worker → Known (worker.occur step restart occurrence))
    {worker : Worker State} (initially : Known worker) :
    Known (worker.after step restart history) := by
  induction history generalizing worker with
  | nil =>
      exact initially
  | cons first rest inductionHypothesis =>
      exact inductionHypothesis
        (fun next member => each next (List.mem_cons_of_mem _ member))
        (each first List.mem_cons_self worker initially)

/-- What is known of a worker: `Alive` while it serves, `Left` once it is
stopped. -/
def Holds (Alive Left : State → Prop) : Worker State → Prop
  | .serving current => Alive current
  | .stopped current => Left current

theorem Holds.left {Alive Left : State → Prop}
    (weaken : ∀ state, Alive state → Left state)
    {worker : Worker State} (known : worker.Holds Alive Left) :
    Left worker.state := by
  cases worker with
  | serving current => exact weaken current known
  | stopped current => exact known

/-- One input keeps what answered steps keep and what faults leave. -/
theorem serve_holds
    {Alive Left : State → Prop}
    (onAnswer :
      ∀ input before answer next,
        Alive before →
        step input before = .ok answer next →
          Alive next)
    (onFault :
      ∀ input before fault stuck,
        Alive before →
        step input before = .error fault stuck →
          Left stuck)
    {worker : Worker State} (known : worker.Holds Alive Left)
    (input : Input) :
    (worker.serve step input).1.Holds Alive Left := by
  cases worker with
  | stopped left =>
      exact known
  | serving before =>
      cases stepped : step input before with
      | ok answer next =>
          rw [serve_ok stepped]
          exact onAnswer _ _ _ _ known stepped
      | error fault stuck =>
          rw [serve_error stepped]
          exact onFault _ _ _ _ known stepped

/-- A history keeps what answered steps keep, what faults leave, and what a
restart rebuilds from it. -/
theorem after_holds
    {Alive Left : State → Prop}
    (weaken : ∀ state, Alive state → Left state)
    (onAnswer :
      ∀ input before answer next,
        Alive before →
        step input before = .ok answer next →
          Alive next)
    (onFault :
      ∀ input before fault stuck,
        Alive before →
        step input before = .error fault stuck →
          Left stuck)
    (onRestart :
      ∀ state, Left state → (restart state).Holds Alive Left)
    {worker : Worker State}
    (initially : worker.Holds Alive Left)
    (history : List (Occurrence Input)) :
    (worker.after step restart history).Holds Alive Left := by
  apply after_preserves (Holds Alive Left) _ initially
  intro occurrence _ current known
  cases occurrence with
  | restart =>
      exact onRestart _ (known.left weaken)
  | receive input =>
      exact serve_holds onAnswer onFault known input

end History

end Worker

end Foundation
