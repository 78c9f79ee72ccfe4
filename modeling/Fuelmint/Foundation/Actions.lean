/-!
# Fallible actions on a state

One equation for each primitive of `EStateM`, so that a program is run by
rewriting; what an answered sequence of actions says; and frames, the parts of
the state that an action leaves as they were however it ends.
-/

namespace Foundation

variable {Fault State Answer Other Seen : Type}

/-! ## Running a program -/

theorem get_apply (state : State) :
    (get : EStateM Fault State State) state = .ok state state := rfl

section Bind

variable {action : EStateM Fault State Answer}
  {next : Answer → EStateM Fault State Other}
  {state middle finish : State}

theorem bind_apply :
    (action >>= next) state =
      match action state with
      | .ok answer middle => next answer middle
      | .error fault stuck => .error fault stuck := rfl

theorem bind_of_ok {answer : Answer}
    (answered : action state = .ok answer middle) :
    (action >>= next) state = next answer middle := by
  rw [bind_apply, answered]

theorem bind_of_error {fault : Fault}
    (failed : action state = .error fault middle) :
    (action >>= next) state = .error fault middle := by
  rw [bind_apply, failed]

theorem bind_ok_iff {result : Other} :
    (action >>= next) state = .ok result finish ↔
      ∃ answer middle,
        action state = .ok answer middle ∧
          next answer middle = .ok result finish := by
  constructor
  · intro answered
    cases outcome : action state with
    | error fault stuck =>
        rw [bind_of_error outcome] at answered
        cases answered
    | ok answer middle =>
        rw [bind_of_ok outcome] at answered
        exact ⟨answer, middle, rfl, answered⟩
  · intro parts
    obtain ⟨answer, middle, first, second⟩ := parts
    rw [bind_of_ok first]
    exact second

/-- An action whose answer is only wrapped. -/
theorem wrap_ok_iff {wrap : Answer → Other} {result : Other} :
    (do return wrap (← action) : EStateM Fault State Other) state =
        .ok result finish ↔
      ∃ answer, action state = .ok answer finish ∧
        result = wrap answer := by
  rw [bind_ok_iff]
  constructor
  · intro parts
    obtain ⟨answer, middle, first, wrapped⟩ := parts
    cases wrapped
    exact ⟨answer, first, rfl⟩
  · intro parts
    obtain ⟨answer, first, wrapped⟩ := parts
    subst wrapped
    exact ⟨answer, finish, first, rfl⟩

theorem of_wrap_error {wrap : Answer → Other} {fault : Fault}
    (failed :
      (do return wrap (← action) : EStateM Fault State Other) state =
        .error fault finish) :
    action state = .error fault finish := by
  cases outcome : action state with
  | ok answer middle =>
      rw [bind_of_ok outcome] at failed
      cases failed
  | error found stuck =>
      rw [bind_of_error outcome] at failed
      cases failed
      rfl

end Bind

/-- A sequence without a state succeeds when both parts do. -/
theorem except_bind_ok_iff
    {attempt : Except Fault Answer} {next : Answer → Except Fault Other}
    {result : Other} :
    (attempt >>= next) = .ok result ↔
      ∃ answer, attempt = .ok answer ∧ next answer = .ok result := by
  cases attempt with
  | error fault =>
      constructor
      · intro failed
        cases failed
      · rintro ⟨_, failed, _⟩
        cases failed
  | ok answer =>
      constructor
      · intro succeeded
        exact ⟨answer, rfl, succeeded⟩
      · rintro ⟨found, same, succeeded⟩
        cases same
        exact succeeded

/-- Rewording the faults leaves the successes. -/
theorem except_mapError_ok_iff
    {reword : Fault → Other} {attempt : Except Fault Answer}
    {answer : Answer} :
    attempt.mapError reword = .ok answer ↔ attempt = .ok answer := by
  cases attempt with
  | error fault =>
      constructor
      · intro failed
        cases failed
      · intro failed
        cases failed
  | ok found =>
      constructor
      · intro succeeded
        cases succeeded
        rfl
      · intro succeeded
        cases succeeded
        rfl

/-! ## Frames -/

/-- The state an action ends in, whichever way it ends. -/
def finalState : EStateM.Result Fault State Answer → State
  | .ok _ state => state
  | .error _ state => state

/-- Wrapping the answer of an action leaves the state it ends in. -/
theorem finalState_wrap
    (wrap : Answer → Other) (action : EStateM Fault State Answer)
    (state : State) :
    finalState
        ((do return wrap (← action) : EStateM Fault State Other) state) =
      finalState (action state) := by
  cases outcome : action state with
  | ok answer middle =>
      rw [bind_of_ok outcome]
      rfl
  | error fault stuck =>
      rw [bind_of_error outcome]
      rfl

def Frames (observe : State → Seen)
    (action : EStateM Fault State Answer) : Prop :=
  ∀ state, observe (finalState (action state)) = observe state

namespace Frames

variable {observe : State → Seen}

theorem pure (answer : Answer) :
    Frames observe (Pure.pure answer : EStateM Fault State Answer) := by
  intro state
  rfl

theorem throw (fault : Fault) :
    Frames observe
      (MonadExcept.throw fault : EStateM Fault State Answer) := by
  intro state
  rfl

theorem update
    {change : State → State}
    (unchanged : ∀ state, observe (change state) = observe state) :
    Frames observe (modify change : EStateM Fault State PUnit) := by
  intro state
  exact unchanged state

theorem bind
    {action : EStateM Fault State Answer}
    {next : Answer → EStateM Fault State Other}
    (first : Frames observe action)
    (later : ∀ answer, Frames observe (next answer)) :
    Frames observe (action >>= next) := by
  intro state
  have here := first state
  cases outcome : action state with
  | error fault stuck =>
      rw [outcome] at here
      rw [bind_of_error outcome]
      exact here
  | ok answer middle =>
      rw [outcome] at here
      rw [bind_of_ok outcome]
      exact (later answer middle).trans here

/-- Reading the state: the rest is asked for at that state only. -/
theorem get_bind
    {next : State → EStateM Fault State Other}
    (later :
      ∀ state, observe (finalState (next state state)) = observe state) :
    Frames observe (MonadState.get >>= next) := by
  intro state
  exact later state

/-- Writing a state in which the part is as it was, then framing it. -/
theorem set_bind
    {state written : State} {next : PUnit → EStateM Fault State Other}
    (unchanged : observe written = observe state)
    (later : Frames observe (next ⟨⟩)) :
    observe
        (finalState
          ((MonadStateOf.set written >>= next :
            EStateM Fault State Other) state)) =
      observe state := by
  rw [← unchanged]
  exact later written

end Frames

end Foundation
