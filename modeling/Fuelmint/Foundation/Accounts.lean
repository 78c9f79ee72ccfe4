import Fuelmint.Foundation.Supervision

/-!
# Accounts over a history

A flow says what one step moves; its total is what a whole history moved.
When every step balances what is held, what comes in and what goes out, so
does the history.  For a supervised worker the steps are its occurrences, so
that panics and restarts are entries of the account like any other.
-/

namespace Foundation

variable {Input State Amount : Type}

section Totals

variable [AddCommMonoid Amount]

/-- What a flow adds up to from a state on. -/
def total (next : State → Input → State)
    (flow : State → Input → Amount) : State → List Input → Amount
  | _, [] => 0
  | state, input :: rest =>
      flow state input + total next flow (next state input) rest

variable {next : State → Input → State}

@[simp]
theorem total_nil (flow : State → Input → Amount) (state : State) :
    total next flow state [] = 0 := rfl

theorem total_cons
    (flow : State → Input → Amount) (state : State) (input : Input)
    (rest : List Input) :
    total next flow state (input :: rest) =
      flow state input + total next flow (next state input) rest := rfl

/-- The balance of a history, for steps that balance in known states. -/
theorem total_balance
    (content : State → Amount) {incoming outgoing : State → Input → Amount}
    {Known : State → Prop}
    (kept : ∀ state input, Known state → Known (next state input))
    (balanced :
      ∀ state input, Known state →
        content state + incoming state input =
          outgoing state input + content (next state input))
    {state : State} (known : Known state) (inputs : List Input) :
    content state + total next incoming state inputs =
      total next outgoing state inputs +
        content (inputs.foldl next state) := by
  induction inputs generalizing state with
  | nil =>
      simp
  | cons input rest inductionHypothesis =>
      have here := balanced state input known
      have later := inductionHypothesis (kept state input known)
      rw [total_cons, total_cons, List.foldl_cons]
      calc
        content state +
              (incoming state input +
                total next incoming (next state input) rest) =
            outgoing state input +
              (content (next state input) +
                total next incoming (next state input) rest) := by
          rw [← add_assoc, here, add_assoc]
        _ = outgoing state input +
                total next outgoing (next state input) rest +
              content (rest.foldl next (next state input)) := by
          rw [later, add_assoc]

end Totals

namespace Worker

variable {Fault Answer Item : Type}

/-- What an observer reads off one occurrence: nothing but answered inputs
shows anything. -/
def observed (step : Input → EStateM Fault State Answer)
    (observe : Observer Input State Answer Item) :
    Worker State → Occurrence Input → Multiset Item
  | .serving before, .receive input =>
      match step input before with
      | .ok answer after => observe input before answer after
      | .error _ _ => 0
  | _, _ => 0

section Observed

variable {step : Input → EStateM Fault State Answer}
  {observe : Observer Input State Answer Item}

@[simp]
theorem observed_stopped
    (left : State) (occurrence : Occurrence Input) :
    observed step observe (.stopped left) occurrence = 0 := by
  cases occurrence <;> rfl

end Observed

end Worker

end Foundation
