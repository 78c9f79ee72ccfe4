import Fuelmint.Foundation.Actions
import Mathlib.Algebra.Order.Group.Multiset

/-!
# Runs of a fallible state machine

A step function takes an input and a state, and either answers and moves to a
new state or ends with a fault.  `EStateM` keeps the state at the point of the
fault, so a handler that aborts half way is a step like any other.

A run serves a list of inputs one after the other and is answered when every
input is.  This module packages the inductions over runs: invariants,
simulations between two machines, observations along a run, and balance laws
for a quantity that only moves between a few places.
-/

namespace Foundation

variable {Input Fault State Answer Item : Type}

/-- Serve the inputs in order and collect the answers; the first fault ends
the run. -/
def runAll (step : Input → EStateM Fault State Answer) :
    List Input → EStateM Fault State (List Answer)
  | [] => pure []
  | input :: rest => do
      let answer ← step input
      let answers ← runAll step rest
      return answer :: answers

section Runs

variable {step : Input → EStateM Fault State Answer}

@[simp]
theorem runAll_nil (start : State) :
    runAll step [] start = .ok [] start := rfl

theorem runAll_cons_ok
    {input : Input} {rest : List Input} {start finish : State}
    {answers : List Answer} :
    runAll step (input :: rest) start = .ok answers finish ↔
      ∃ answer middle later,
        step input start = .ok answer middle ∧
          runAll step rest middle = .ok later finish ∧
          answers = answer :: later := by
  rw [runAll, bind_ok_iff]
  constructor
  · intro parts
    obtain ⟨answer, middle, stepped, tail⟩ := parts
    obtain ⟨later, served, collected⟩ := wrap_ok_iff.mp tail
    exact ⟨answer, middle, later, stepped, served, collected⟩
  · intro parts
    obtain ⟨answer, middle, later, stepped, served, collected⟩ := parts
    exact ⟨answer, middle, stepped,
      wrap_ok_iff.mpr ⟨later, served, collected⟩⟩

theorem runAll_append_ok
    {before after : List Input} {start finish : State}
    {answers : List Answer} :
    runAll step (before ++ after) start = .ok answers finish ↔
      ∃ earlier middle later,
        runAll step before start = .ok earlier middle ∧
          runAll step after middle = .ok later finish ∧
          answers = earlier ++ later := by
  induction before generalizing start answers with
  | nil =>
      simp only [List.nil_append, runAll_nil,
        EStateM.Result.ok.injEq]
      constructor
      · intro served
        exact ⟨[], start, answers, ⟨rfl, rfl⟩, served, rfl⟩
      · rintro ⟨_, _, later, ⟨rfl, rfl⟩, served, rfl⟩
        exact served
  | cons input rest inductionHypothesis =>
      simp only [List.cons_append, runAll_cons_ok]
      constructor
      · rintro ⟨answer, next, tail, stepped, served, rfl⟩
        obtain ⟨earlier, middle, later, left, right, rfl⟩ :=
          inductionHypothesis.mp served
        exact ⟨answer :: earlier, middle, later,
          ⟨answer, next, earlier, stepped, left, rfl⟩, right, rfl⟩
      · rintro ⟨_, middle, later,
          ⟨answer, next, earlier, stepped, left, rfl⟩, right, rfl⟩
        exact ⟨answer, next, earlier ++ later, stepped,
          inductionHypothesis.mpr
            ⟨earlier, middle, later, left, right, rfl⟩, rfl⟩

theorem runAll_map
    {Request : Type} (translate : Request → Input)
    (requests : List Request) :
    runAll step (requests.map translate) =
      runAll (fun request => step (translate request)) requests := by
  induction requests with
  | nil =>
      rfl
  | cons request rest inductionHypothesis =>
      simp only [List.map_cons, runAll, inductionHypothesis]

/-- The run from `start` over `inputs` is answered and ends in `finish`. -/
def Answered (step : Input → EStateM Fault State Answer)
    (inputs : List Input) (start finish : State) : Prop :=
  ∃ answers, runAll step inputs start = .ok answers finish

@[simp]
theorem answered_nil {start finish : State} :
    Answered step [] start finish ↔ finish = start := by
  simp [Answered, eq_comm]

theorem answered_cons
    {input : Input} {rest : List Input} {start finish : State} :
    Answered step (input :: rest) start finish ↔
      ∃ answer middle,
        step input start = .ok answer middle ∧
          Answered step rest middle finish := by
  simp only [Answered, runAll_cons_ok]
  constructor
  · rintro ⟨_, answer, middle, later, stepped, served, rfl⟩
    exact ⟨answer, middle, stepped, later, served⟩
  · rintro ⟨answer, middle, stepped, later, served⟩
    exact ⟨_, answer, middle, later, stepped, served, rfl⟩

theorem answered_append
    {before after : List Input} {start finish : State} :
    Answered step (before ++ after) start finish ↔
      ∃ middle,
        Answered step before start middle ∧
          Answered step after middle finish := by
  simp only [Answered, runAll_append_ok]
  constructor
  · rintro ⟨_, earlier, middle, later, left, right, rfl⟩
    exact ⟨middle, ⟨earlier, left⟩, later, right⟩
  · rintro ⟨middle, ⟨earlier, left⟩, later, right⟩
    exact ⟨_, earlier, middle, later, left, right, rfl⟩

theorem answered_concat
    {before : List Input} {input : Input} {start finish : State} :
    Answered step (before ++ [input]) start finish ↔
      ∃ middle answer,
        Answered step before start middle ∧
          step input middle = .ok answer finish := by
  simp only [answered_append, answered_cons, answered_nil]
  constructor
  · rintro ⟨middle, served, answer, _, stepped, rfl⟩
    exact ⟨middle, answer, served, stepped⟩
  · rintro ⟨middle, answer, served, stepped⟩
    exact ⟨middle, served, answer, finish, stepped, rfl⟩

theorem answered_unique
    {inputs : List Input} {start finish other : State}
    (served : Answered step inputs start finish)
    (again : Answered step inputs start other) :
    finish = other := by
  obtain ⟨answers, first⟩ := served
  obtain ⟨answers', second⟩ := again
  rw [first] at second
  cases second
  rfl

/-- What every step on the given inputs preserves, the whole run preserves. -/
theorem Answered.invariant
    (Invariant : State → Prop) {inputs : List Input}
    (preserved :
      ∀ input ∈ inputs, ∀ before answer after,
        Invariant before →
        step input before = .ok answer after →
          Invariant after)
    {start finish : State}
    (initially : Invariant start)
    (served : Answered step inputs start finish) :
    Invariant finish := by
  induction inputs generalizing start with
  | nil =>
      rw [answered_nil] at served
      rwa [served]
  | cons input rest inductionHypothesis =>
      obtain ⟨answer, middle, stepped, later⟩ :=
        answered_cons.mp served
      exact inductionHypothesis
        (fun next member => preserved next (List.mem_cons_of_mem _ member))
        (preserved input List.mem_cons_self _ _ _ initially stepped)
        later

/-- A run fails at its first failing step, after an answered run. -/
theorem exists_step_of_runAll_error
    {inputs : List Input} {start stuck : State} {fault : Fault}
    (failed : runAll step inputs start = .error fault stuck) :
    ∃ before input after middle,
      inputs = before ++ input :: after ∧
        Answered step before start middle ∧
        step input middle = .error fault stuck := by
  induction inputs generalizing start with
  | nil =>
      cases failed
  | cons input rest inductionHypothesis =>
      cases stepped : step input start with
      | error found left =>
          rw [runAll, bind_of_error stepped] at failed
          cases failed
          exact ⟨[], input, rest, start, rfl, answered_nil.mpr rfl,
            stepped⟩
      | ok answer next =>
          rw [runAll, bind_of_ok stepped] at failed
          obtain ⟨before, chosen, after, middle, rfl, served, refused⟩ :=
            inductionHypothesis (of_wrap_error failed)
          exact ⟨input :: before, chosen, after, middle, rfl,
            answered_cons.mpr ⟨answer, next, stepped, served⟩, refused⟩

end Runs

section TwoMachines

variable {OtherFault OtherState OtherAnswer : Type}
  {step : Input → EStateM Fault State Answer}
  {other : Input → EStateM OtherFault OtherState OtherAnswer}
  {Related : State → OtherState → Prop}

/-- Forward simulation: when every answered step of the first machine is
answered by the second with an agreeing answer, so is every answered run. -/
theorem runAll_simulation
    (Agree : Answer → OtherAnswer → Prop) {inputs : List Input}
    (forward :
      ∀ input ∈ inputs, ∀ before before' answer after,
        Related before before' →
        step input before = .ok answer after →
          ∃ answer' after',
            other input before' = .ok answer' after' ∧
              Agree answer answer' ∧ Related after after')
    {start finish : State} {start' : OtherState}
    {answers : List Answer}
    (initially : Related start start')
    (served : runAll step inputs start = .ok answers finish) :
    ∃ answers' finish',
      runAll other inputs start' = .ok answers' finish' ∧
        List.Forall₂ Agree answers answers' ∧
          Related finish finish' := by
  induction inputs generalizing start start' answers with
  | nil =>
      simp only [runAll_nil, EStateM.Result.ok.injEq] at served
      obtain ⟨rfl, rfl⟩ := served
      exact ⟨[], start', rfl, List.Forall₂.nil, initially⟩
  | cons input rest inductionHypothesis =>
      obtain ⟨answer, middle, later, stepped, tail, rfl⟩ :=
        runAll_cons_ok.mp served
      obtain ⟨answer', middle', stepped', agree, related⟩ :=
        forward input List.mem_cons_self _ _ _ _ initially stepped
      obtain ⟨later', finish', tail', agreeTail, relatedTail⟩ :=
        inductionHypothesis
          (fun next member =>
            forward next (List.mem_cons_of_mem _ member))
          related tail
      exact ⟨answer' :: later', finish',
        runAll_cons_ok.mpr
          ⟨answer', middle', later', stepped', tail', rfl⟩,
        List.Forall₂.cons agree agreeTail, relatedTail⟩

/-- Lockstep: a relation that two answered steps on the same input preserve
holds at the end of two answered runs. -/
theorem runAll_lockstep
    {inputs : List Input}
    (together :
      ∀ input ∈ inputs, ∀ before before' answer answer' after after',
        Related before before' →
        step input before = .ok answer after →
        other input before' = .ok answer' after' →
          Related after after')
    {start finish : State} {start' finish' : OtherState}
    (initially : Related start start')
    (served : Answered step inputs start finish)
    (served' : Answered other inputs start' finish') :
    Related finish finish' := by
  induction inputs generalizing start start' with
  | nil =>
      rw [answered_nil] at served served'
      rw [served, served']
      exact initially
  | cons input rest inductionHypothesis =>
      obtain ⟨answer, middle, stepped, tail⟩ :=
        answered_cons.mp served
      obtain ⟨answer', middle', stepped', tail'⟩ :=
        answered_cons.mp served'
      exact inductionHypothesis
        (fun next member =>
          together next (List.mem_cons_of_mem _ member))
        (together input List.mem_cons_self _ _ _ _ _ _
          initially stepped stepped')
        tail tail'

/-- The same, with what two answered steps say of their answers. -/
theorem runAll_lockstep_answers
    (Agree : Answer → OtherAnswer → Prop) {inputs : List Input}
    (together :
      ∀ input ∈ inputs, ∀ before before' answer answer' after after',
        Related before before' →
        step input before = .ok answer after →
        other input before' = .ok answer' after' →
          Agree answer answer' ∧ Related after after')
    {start finish : State} {start' finish' : OtherState}
    {answers : List Answer} {answers' : List OtherAnswer}
    (initially : Related start start')
    (served : runAll step inputs start = .ok answers finish)
    (served' : runAll other inputs start' = .ok answers' finish') :
    List.Forall₂ Agree answers answers' := by
  induction inputs generalizing start start' answers answers' with
  | nil =>
      simp only [runAll_nil, EStateM.Result.ok.injEq] at served served'
      rw [← served.1, ← served'.1]
      exact List.Forall₂.nil
  | cons input rest inductionHypothesis =>
      obtain ⟨answer, middle, later, stepped, tail, rfl⟩ :=
        runAll_cons_ok.mp served
      obtain ⟨answer', middle', later', stepped', tail', rfl⟩ :=
        runAll_cons_ok.mp served'
      obtain ⟨agree, related⟩ :=
        together input List.mem_cons_self _ _ _ _ _ _
          initially stepped stepped'
      have agreeLater :=
        inductionHypothesis
          (fun next member =>
            together next (List.mem_cons_of_mem _ member))
          related tail tail'
      exact List.Forall₂.cons agree agreeLater

end TwoMachines

/-! ## Observations along a run -/

/-- An observer reads a list of items off one answered step. -/
abbrev Observer (Input State Answer Item : Type) :=
  Input → State → Answer → State → List Item

/-- What an observer reads along a run, in the order of the steps. -/
def trace (step : Input → EStateM Fault State Answer)
    (observe : Observer Input State Answer Item) :
    List Input → State → List Item
  | [], _ => []
  | input :: rest, state =>
      match step input state with
      | .ok answer next =>
          observe input state answer next ++
            trace step observe rest next
      | .error _ _ => []

section Trace

variable {step : Input → EStateM Fault State Answer}
  {observe : Observer Input State Answer Item}

@[simp]
theorem trace_nil (state : State) :
    trace step observe [] state = [] := rfl

theorem trace_cons
    {input : Input} {rest : List Input} {state next : State}
    {answer : Answer}
    (stepped : step input state = .ok answer next) :
    trace step observe (input :: rest) state =
      observe input state answer next ++
        trace step observe rest next := by
  simp only [trace, stepped]

theorem trace_append
    {before after : List Input} {start middle : State}
    (served : Answered step before start middle) :
    trace step observe (before ++ after) start =
      trace step observe before start ++
        trace step observe after middle := by
  induction before generalizing start with
  | nil =>
      rw [answered_nil] at served
      simp [served]
  | cons input rest inductionHypothesis =>
      obtain ⟨answer, next, stepped, tail⟩ := answered_cons.mp served
      rw [List.cons_append, trace_cons stepped, trace_cons stepped,
        inductionHypothesis tail, List.append_assoc]

/-- What is seen along a run, around one of its steps. -/
theorem trace_split
    {before after : List Input} {input : Input}
    {start reached next : State} {answer : Answer}
    (served : Answered step before start reached)
    (stepped : step input reached = .ok answer next) :
    trace step observe (before ++ input :: after) start =
      trace step observe before start ++
        (observe input reached answer next ++
          trace step observe after next) := by
  rw [trace_append served, trace_cons stepped]

/-- Two observers at once see, as a bag, what they see one by one. -/
theorem coe_trace_both
    (first second : Observer Input State Answer Item)
    (inputs : List Input) (state : State) :
    (trace step
        (fun input before answer after =>
          first input before answer after ++
            second input before answer after)
        inputs state : Multiset Item) =
      trace step first inputs state + trace step second inputs state := by
  induction inputs generalizing state with
  | nil =>
      rfl
  | cons input rest inductionHypothesis =>
      cases stepped : step input state with
      | error fault stuck =>
          simp [trace, stepped]
      | ok answer next =>
          have later := inductionHypothesis next
          rw [trace_cons stepped, trace_cons stepped, trace_cons stepped,
            ← Multiset.coe_add, later]
          simp only [← Multiset.coe_add]
          exact add_add_add_comm _ _ _ _

/-- An item seen along an answered run was read off one of its steps. -/
theorem exists_step_of_mem_trace
    {inputs : List Input} {start finish : State} {item : Item}
    (served : Answered step inputs start finish)
    (seen : item ∈ trace step observe inputs start) :
    ∃ before input after reached answer next,
      inputs = before ++ input :: after ∧
        Answered step before start reached ∧
        step input reached = .ok answer next ∧
        Answered step after next finish ∧
        item ∈ observe input reached answer next := by
  induction inputs generalizing start with
  | nil =>
      simp at seen
  | cons input rest inductionHypothesis =>
      obtain ⟨answer, next, stepped, tail⟩ := answered_cons.mp served
      rw [trace_cons stepped, List.mem_append] at seen
      rcases seen with here | later
      · exact ⟨[], input, rest, start, answer, next, rfl,
          answered_nil.mpr rfl, stepped, tail, here⟩
      · obtain ⟨before, chosen, after, reached, answer', next',
          rfl, prior, stepped', following, member⟩ :=
            inductionHypothesis tail later
        exact ⟨input :: before, chosen, after, reached, answer', next',
          rfl, answered_cons.mpr ⟨answer, next, stepped, prior⟩,
          stepped', following, member⟩

/-- Balance along a run: when every step moves items between what the state
holds, what comes in and what goes out, so does the run. -/
theorem trace_balance
    (content : State → Multiset Item)
    {incoming outgoing : Observer Input State Answer Item}
    {inputs : List Input}
    (balanced :
      ∀ input ∈ inputs, ∀ before answer after,
        step input before = .ok answer after →
          content before + incoming input before answer after =
            outgoing input before answer after + content after)
    {start finish : State}
    (served : Answered step inputs start finish) :
    content start + (trace step incoming inputs start : Multiset Item) =
      trace step outgoing inputs start + content finish := by
  induction inputs generalizing start with
  | nil =>
      rw [answered_nil] at served
      simp [served]
  | cons input rest inductionHypothesis =>
      obtain ⟨answer, middle, stepped, tail⟩ :=
        answered_cons.mp served
      have here :=
        balanced input List.mem_cons_self _ _ _ stepped
      have later :=
        inductionHypothesis
          (fun next member =>
            balanced next (List.mem_cons_of_mem _ member))
          tail
      rw [trace_cons stepped, trace_cons stepped, ← Multiset.coe_add,
        ← Multiset.coe_add]
      calc
        content start +
              (incoming input start answer middle +
                trace step incoming rest middle) =
            outgoing input start answer middle +
              (content middle + trace step incoming rest middle) := by
          rw [← add_assoc, here, add_assoc]
        _ = outgoing input start answer middle +
                trace step outgoing rest middle +
              content finish := by
          rw [later, add_assoc]

end Trace

end Foundation
