import Mathlib.Data.List.Basic

/-!
# Machines and what they hide

A machine takes events and puts out what they show.  It hides another machine
behind a view of its state when every event is, seen through the view, either
nothing or a step of the other machine.  What is seen of a run then depends on
the events that show alone.
-/

namespace Foundation

variable {State View Event Shown Output Heard : Type}

structure Machine (State Event Output : Type) where
  next : State → Event → State
  output : State → Event → List Output

namespace Machine

variable (machine : Machine State Event Output)

/-- The state after a sequence of events. -/
def after (start : State) (events : List Event) : State :=
  events.foldl machine.next start

/-- Everything that a sequence of events puts out, in order. -/
def outputs : State → List Event → List Output
  | _, [] => []
  | state, event :: rest =>
      machine.output state event ++ outputs (machine.next state event) rest

variable {machine}

@[simp]
theorem after_nil (start : State) : machine.after start [] = start := rfl

@[simp]
theorem after_cons (start : State) (event : Event) (rest : List Event) :
    machine.after start (event :: rest) =
      machine.after (machine.next start event) rest := rfl

@[simp]
theorem outputs_cons (start : State) (event : Event) (rest : List Event) :
    machine.outputs start (event :: rest) =
      machine.output start event ++
        machine.outputs (machine.next start event) rest := rfl

/-- What every event keeps, a sequence of events keeps. -/
theorem after_keeps
    {Known : State → Prop}
    (keeps : ∀ state event, Known state → Known (machine.next state event))
    {start : State} (initially : Known start) (events : List Event) :
    Known (machine.after start events) := by
  induction events generalizing start with
  | nil =>
      exact initially
  | cons event rest inductionHypothesis =>
      exact inductionHypothesis (keeps start event initially)

/-- A sequence of events puts out nothing when none of them does where it
occurs. -/
theorem outputs_eq_nil_iff {start : State} {events : List Event} :
    machine.outputs start events = [] ↔
      ∀ before event rest,
        events = before ++ event :: rest →
          machine.output (machine.after start before) event = [] := by
  constructor
  · intro nothing before event rest split
    subst split
    induction before generalizing start with
    | nil =>
        rw [List.nil_append, outputs_cons, List.append_eq_nil_iff] at nothing
        exact nothing.1
    | cons first before inductionHypothesis =>
        rw [List.cons_append, outputs_cons, List.append_eq_nil_iff] at nothing
        exact inductionHypothesis nothing.2
  · intro silent
    induction events generalizing start with
    | nil =>
        rfl
    | cons first events inductionHypothesis =>
        have here := silent [] first events rfl
        have later : machine.outputs (machine.next start first) events = [] := by
          apply inductionHypothesis
          intro before event rest split
          exact silent (first :: before) event rest (congrArg _ split)
        rw [outputs_cons, later, List.append_nil]
        exact here

end Machine

/-- As long as `Known` holds, what `view` sees of the machine, and what
`heard` keeps of its outputs, is the machine `alone` on the events that `shown`
translates; the others show nothing. -/
structure Hides (machine : Machine State Event Output)
    (alone : Machine View Shown Heard) (shown : Event → Option Shown)
    (heard : Output → Option Heard) (view : State → View)
    (Known : State → Prop) : Prop where
  keeps :
    ∀ state event, Known state → Known (machine.next state event)
  silent :
    ∀ state event,
      Known state → shown event = none →
        view (machine.next state event) = view state ∧
          (machine.output state event).filterMap heard = []
  follows :
    ∀ state event step,
      Known state → shown event = some step →
        view (machine.next state event) = alone.next (view state) step ∧
          (machine.output state event).filterMap heard =
            alone.output (view state) step

namespace Hides

variable {machine : Machine State Event Output}
  {alone : Machine View Shown Heard} {shown : Event → Option Shown}
  {heard : Output → Option Heard} {view : State → View}
  {Known : State → Prop}

/-- View and outputs of a run are those of the events that show, alone. -/
theorem run
    (hides : Hides machine alone shown heard view Known)
    {start : State} (known : Known start) (events : List Event) :
    view (machine.after start events) =
        alone.after (view start) (events.filterMap shown) ∧
      (machine.outputs start events).filterMap heard =
        alone.outputs (view start) (events.filterMap shown) := by
  induction events generalizing start with
  | nil =>
      exact ⟨rfl, rfl⟩
  | cons event rest inductionHypothesis =>
      have later :=
        inductionHypothesis (hides.keeps start event known)
      rw [Machine.after_cons, Machine.outputs_cons,
        List.filterMap_append]
      cases translated : shown event with
      | none =>
          obtain ⟨sameView, nothing⟩ :=
            hides.silent start event known translated
          rw [sameView] at later
          rw [List.filterMap_cons_none translated, nothing,
            List.nil_append]
          exact later
      | some step =>
          obtain ⟨nextView, same⟩ :=
            hides.follows start event step known translated
          rw [nextView] at later
          rw [List.filterMap_cons_some translated, Machine.after_cons,
            Machine.outputs_cons, same, later.2]
          exact ⟨later.1, rfl⟩

end Hides

end Foundation
