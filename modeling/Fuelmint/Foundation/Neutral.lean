import Fuelmint.Foundation.Runs

/-!
# Neutral inputs

An input is neutral when answering it leaves the state as it was.  Neutral
inputs may be mixed into a run, or taken out of it, at any place: the others
find the states they would find alone, and get the answers they would get
alone.
-/

namespace Foundation

variable {Input Fault State Answer : Type}

/-- Answering an input that is not kept changes nothing. -/
def Neutral (step : Input → EStateM Fault State Answer)
    (kept : Input → Bool) : Prop :=
  ∀ input before answer after,
    kept input = false →
    step input before = .ok answer after →
      after = before

/-- The answers to the kept inputs. -/
def keptAnswers (kept : Input → Bool) :
    List Input → List Answer → List Answer
  | input :: inputs, answer :: answers =>
      if kept input then
        answer :: keptAnswers kept inputs answers
      else
        keptAnswers kept inputs answers
  | _, _ => []

namespace Neutral

variable {step : Input → EStateM Fault State Answer}
  {kept : Input → Bool}

/-- A run is, for the kept inputs, the run of the kept inputs alone. -/
theorem runAll_filter
    (neutral : Neutral step kept)
    {inputs : List Input} {start finish : State}
    {answers : List Answer}
    (served : runAll step inputs start = .ok answers finish) :
    runAll step (inputs.filter kept) start =
      .ok (keptAnswers kept inputs answers) finish := by
  induction inputs generalizing start answers with
  | nil =>
      simp only [runAll_nil, EStateM.Result.ok.injEq] at served
      obtain ⟨rfl, rfl⟩ := served
      rfl
  | cons input rest inductionHypothesis =>
      obtain ⟨answer, middle, later, stepped, tail, rfl⟩ :=
        runAll_cons_ok.mp served
      have alone := inductionHypothesis tail
      by_cases keep : kept input = true
      · rw [List.filter_cons_of_pos keep]
        simp only [keptAnswers, if_pos keep]
        exact runAll_cons_ok.mpr
          ⟨answer, middle, _, stepped, alone, rfl⟩
      · have dropped : kept input = false := by
          simpa using keep
        have unchanged : middle = start :=
          neutral input start answer middle dropped stepped
        rw [List.filter_cons_of_neg keep]
        simp only [keptAnswers, if_neg keep]
        rw [← unchanged]
        exact alone

theorem answered_filter
    (neutral : Neutral step kept)
    {inputs : List Input} {start finish : State}
    (served : Answered step inputs start finish) :
    Answered step (inputs.filter kept) start finish := by
  obtain ⟨answers, run⟩ := served
  exact ⟨_, neutral.runAll_filter run⟩

/-- A run is answered exactly when its kept inputs are, and each neutral input
is answered in the state that the kept inputs before it lead to. -/
theorem answered_iff
    (neutral : Neutral step kept)
    {inputs : List Input} {start finish : State} :
    Answered step inputs start finish ↔
      Answered step (inputs.filter kept) start finish ∧
        ∀ before input after reached,
          inputs = before ++ input :: after →
          kept input = false →
          Answered step (before.filter kept) start reached →
            ∃ answer next, step input reached = .ok answer next := by
  constructor
  · intro served
    refine ⟨neutral.answered_filter served, ?_⟩
    intro before input after reached split _ alone
    rw [split] at served
    obtain ⟨middle, earlier, later⟩ := answered_append.mp served
    have same : middle = reached :=
      answered_unique (neutral.answered_filter earlier) alone
    subst same
    obtain ⟨answer, next, stepped, _⟩ := answered_cons.mp later
    exact ⟨answer, next, stepped⟩
  · rintro ⟨alone, each⟩
    induction inputs generalizing start with
    | nil =>
        exact alone
    | cons input rest inductionHypothesis =>
        by_cases keep : kept input = true
        · rw [List.filter_cons_of_pos keep] at alone
          obtain ⟨answer, middle, stepped, tail⟩ :=
            answered_cons.mp alone
          refine answered_cons.mpr ⟨answer, middle, stepped, ?_⟩
          apply inductionHypothesis tail
          intro before other after reached split dropped toReached
          refine each (input :: before) other after reached ?_ dropped ?_
          · rw [split]
            rfl
          · rw [List.filter_cons_of_pos keep]
            exact answered_cons.mpr ⟨answer, middle, stepped, toReached⟩
        · have dropped : kept input = false := by
            simpa using keep
          obtain ⟨answer, next, stepped⟩ :=
            each [] input rest start rfl dropped (answered_nil.mpr rfl)
          have unchanged : next = start :=
            neutral input start answer next dropped stepped
          subst unchanged
          refine answered_cons.mpr ⟨answer, _, stepped, ?_⟩
          rw [List.filter_cons_of_neg keep] at alone
          apply inductionHypothesis alone
          intro before other after reached split otherDropped toReached
          refine
            each (input :: before) other after reached ?_ otherDropped ?_
          · rw [split]
            rfl
          · rw [List.filter_cons_of_neg keep]
            exact toReached

/-- Leaving out any of the neutral inputs of an answered run leaves it
answered, with the same end. -/
theorem answered_of_sublist
    (neutral : Neutral step kept)
    {inputs fewer : List Input} {start finish : State}
    (inside : fewer.Sublist inputs)
    (sameKept : fewer.filter kept = inputs.filter kept)
    (served : Answered step inputs start finish) :
    Answered step fewer start finish := by
  induction inside generalizing start with
  | slnil =>
      exact served
  | @cons fewer rest input inside inductionHypothesis =>
      obtain ⟨answer, middle, stepped, tail⟩ := answered_cons.mp served
      have fits := (inside.filter kept).length_le
      by_cases keep : kept input = true
      · rw [List.filter_cons_of_pos keep] at sameKept
        have sameLength := congrArg List.length sameKept
        rw [List.length_cons] at sameLength
        omega
      · have dropped : kept input = false := by
          simpa using keep
        have unchanged : middle = start :=
          neutral input start answer middle dropped stepped
        subst unchanged
        rw [List.filter_cons_of_neg keep] at sameKept
        exact inductionHypothesis sameKept tail
  | @cons_cons fewer rest input inside inductionHypothesis =>
      obtain ⟨answer, middle, stepped, tail⟩ := answered_cons.mp served
      refine answered_cons.mpr ⟨answer, middle, stepped, ?_⟩
      apply inductionHypothesis _ tail
      by_cases keep : kept input = true
      · rw [List.filter_cons_of_pos keep, List.filter_cons_of_pos keep]
          at sameKept
        exact List.tail_eq_of_cons_eq sameKept
      · rw [List.filter_cons_of_neg keep, List.filter_cons_of_neg keep]
          at sameKept
        exact sameKept

end Neutral

end Foundation
