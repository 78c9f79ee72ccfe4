import Fuelmint.Foundation.Supervision

/-!
# Machines that consult a hidden part

What a machine does may depend on a large state in a small way: a decision,
one Boolean a step.  A run of the large machine comes with the verdicts it
met, and a small machine that is told the verdicts can follow it.
-/

namespace Foundation

variable {Input State Small : Type}

/-- The inputs of a run, each with the verdict it met. -/
def withVerdicts (next : State → Input → State)
    (verdict : State → Input → Bool) :
    State → List Input → List (Input × Bool)
  | _, [] => []
  | state, input :: rest =>
      (input, verdict state input) ::
        withVerdicts next verdict (next state input) rest

section Verdicts

variable {next : State → Input → State}
  {verdict : State → Input → Bool}

theorem withVerdicts_concat
    (state : State) (inputs : List Input) (input : Input) :
    withVerdicts next verdict state (inputs ++ [input]) =
      withVerdicts next verdict state inputs ++
        [(input, verdict (inputs.foldl next state) input)] := by
  induction inputs generalizing state with
  | nil =>
      rfl
  | cons first rest inductionHypothesis =>
      simp only [List.cons_append, withVerdicts, inductionHypothesis,
        List.foldl_cons]

/-- A relation that the small machine keeps step by step, it keeps over the
whole run. -/
theorem related_withVerdicts
    (Related : State → Small → Prop)
    {follow : Small → Input × Bool → Small}
    (keeps :
      ∀ state small input,
        Related state small →
          Related (next state input)
            (follow small (input, verdict state input)))
    {state : State} {small : Small} (inputs : List Input)
    (initially : Related state small) :
    Related (inputs.foldl next state)
      ((withVerdicts next verdict state inputs).foldl follow small) := by
  induction inputs generalizing state small with
  | nil =>
      exact initially
  | cons input rest inductionHypothesis =>
      simp only [withVerdicts, List.foldl_cons]
      exact inductionHypothesis (keeps state small input initially)

end Verdicts

namespace Worker

variable {Fault Answer : Type}
  {step : Input → EStateM Fault State Answer}
  {restart : State → Worker State}

/-- A worker that still serves after some inputs has answered them all. -/
theorem answered_of_serving
    {inputs : List Input} {start finish : State}
    (reached :
      (Worker.serving start).after step restart
          (inputs.map Occurrence.receive) =
        .serving finish) :
    Answered step inputs start finish := by
  induction inputs generalizing start with
  | nil =>
      cases reached
      exact answered_nil.mpr rfl
  | cons input rest inductionHypothesis =>
      rw [List.map_cons, after_cons, occur] at reached
      cases stepped : step input start with
      | ok answer middle =>
          rw [serve_ok stepped] at reached
          exact answered_cons.mpr
            ⟨answer, middle, stepped, inductionHypothesis reached⟩
      | error fault stuck =>
          rw [serve_error stepped, after_receive_stopped] at reached
          cases reached

end Worker

end Foundation
