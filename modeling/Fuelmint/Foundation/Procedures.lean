import Mathlib.Data.List.Basic

/-!
# Procedures that call their environment

A procedure makes calls, one at a time, and goes on with the replies; what the
replies are is up to the environment.  What can be seen of it is a trace of
exchanges, of a run that is still going on or has come to its result.

`Meets` is the judgement about both: what every trace so far satisfies, and
what a complete one satisfies together with the result.  Its rules follow the
construction of the procedure.
-/

namespace Foundation

/-- Calls go out, each gets a reply of its type, and a result comes last. -/
inductive Procedure (Call : Type) (Reply : Call → Type) (Result : Type) where
  | done (result : Result)
  | call (name : Call) (next : Reply name → Procedure Call Reply Result)

/-- The calls that were made, each with its reply. -/
abbrev Exchanges (Call : Type) (Reply : Call → Type) :=
  List ((name : Call) × Reply name)

variable {Call : Type} {Reply : Call → Type} {Result Other Item : Type}

namespace Procedure

def bind : Procedure Call Reply Result →
    (Result → Procedure Call Reply Other) → Procedure Call Reply Other
  | .done result, next => next result
  | .call name reply, next =>
      .call name fun answer => (reply answer).bind next

@[simp]
theorem done_bind (result : Result)
    (next : Result → Procedure Call Reply Other) :
    (Procedure.done result).bind next = next result := rfl

instance : Monad (Procedure Call Reply) where
  pure := .done
  bind := .bind

/-- Make one call and return the reply. -/
def perform (name : Call) : Procedure Call Reply (Reply name) :=
  .call name .done

/-- Do the same for each item, in order. -/
def forEach (body : Item → Procedure Call Reply Unit) :
    List Item → Procedure Call Reply Unit
  | [] => .done ()
  | item :: rest => (body item).bind fun _ => forEach body rest

/-- Try each item, in order, up to the first failure. -/
def tryEach (attempt : Item → Procedure Call Reply (Except String Unit)) :
    List Item → Procedure Call Reply (Except String Unit)
  | [] => .done (.ok ())
  | item :: rest =>
      (attempt item).bind fun outcome =>
        match outcome with
        | .ok () => tryEach attempt rest
        | .error message => .done (.error message)

/-- The trace can be seen of the procedure; a result comes with a complete
one. -/
inductive Observes : Procedure Call Reply Result →
    Exchanges Call Reply → Option Result → Prop
  | pending (procedure : Procedure Call Reply Result) :
      Observes procedure [] none
  | done (result : Result) : Observes (.done result) [] (some result)
  | reply {name : Call} {next : Reply name → Procedure Call Reply Result}
      {answer : Reply name} {later : Exchanges Call Reply}
      {outcome : Option Result} :
      Observes (next answer) later outcome →
        Observes (.call name next) (⟨name, answer⟩ :: later) outcome

/-- The run in an environment that answers by what it has seen so far. -/
def run (environment : Exchanges Call Reply → (name : Call) → Reply name) :
    Procedure Call Reply Result → Exchanges Call Reply →
      Exchanges Call Reply × Result
  | .done result, _ => ([], result)
  | .call name next, past =>
      let answer := environment past name
      let rest :=
        (next answer).run environment (past ++ [⟨name, answer⟩])
      (⟨name, answer⟩ :: rest.1, rest.2)

/-- Where every call is answered, the procedure comes to a result. -/
theorem observes_run
    (environment : Exchanges Call Reply → (name : Call) → Reply name)
    (procedure : Procedure Call Reply Result)
    (past : Exchanges Call Reply) :
    procedure.Observes (procedure.run environment past).1
      (some (procedure.run environment past).2) := by
  induction procedure generalizing past with
  | done result =>
      exact Observes.done result
  | call name next inductionHypothesis =>
      exact Observes.reply (inductionHypothesis _ _)

/-- A trace so far is the beginning of a complete one, as long as every call
has a possible reply. -/
theorem Observes.exists_complete [∀ name, Nonempty (Reply name)]
    {procedure : Procedure Call Reply Result}
    {trace : Exchanges Call Reply} {outcome : Option Result}
    (observed : procedure.Observes trace outcome) :
    ∃ complete result,
      trace <+: complete ∧ procedure.Observes complete (some result) ∧
        ∀ found, outcome = some found →
          found = result ∧ complete = trace := by
  induction observed with
  | pending procedure =>
      let anyReply : Exchanges Call Reply → (name : Call) → Reply name :=
        fun _ name => Classical.choice inferInstance
      refine ⟨_, _, List.nil_prefix, observes_run anyReply procedure [], ?_⟩
      intro found impossible
      cases impossible
  | done result =>
      refine ⟨[], result, List.nil_prefix, Observes.done result, ?_⟩
      intro found same
      exact ⟨(Option.some.inj same).symm, rfl⟩
  | reply later inductionHypothesis =>
      obtain ⟨complete, result, begins, observed, ended⟩ :=
        inductionHypothesis
      refine ⟨_ :: complete, result, List.cons_prefix_cons.mpr ⟨rfl, begins⟩,
        Observes.reply observed, ?_⟩
      intro found same
      obtain ⟨sameResult, sameTrace⟩ := ended found same
      exact ⟨sameResult, congrArg (_ :: ·) sameTrace⟩

/-- Every trace so far satisfies `During`, every complete one `After`. -/
def Meets (procedure : Procedure Call Reply Result)
    (During : Exchanges Call Reply → Prop)
    (After : Result → Exchanges Call Reply → Prop) : Prop :=
  ∀ trace outcome, procedure.Observes trace outcome →
    match outcome with
    | none => During trace
    | some result => After result trace

section Rules

variable {During : Exchanges Call Reply → Prop}
  {After : Result → Exchanges Call Reply → Prop}

theorem Meets.during
    {procedure : Procedure Call Reply Result}
    (meets : procedure.Meets During After) {trace : Exchanges Call Reply}
    (observed : procedure.Observes trace none) : During trace :=
  meets trace none observed

theorem Meets.after
    {procedure : Procedure Call Reply Result}
    (meets : procedure.Meets During After) {trace : Exchanges Call Reply}
    {result : Result} (observed : procedure.Observes trace (some result)) :
    After result trace :=
  meets trace (some result) observed

theorem Meets.done {result : Result}
    (before : During []) (after : After result []) :
    (Procedure.done result : Procedure Call Reply Result).Meets
      During After := by
  intro trace outcome observed
  cases observed with
  | pending => exact before
  | done => exact after

/-- A call is covered reply by reply. -/
theorem Meets.call
    {name : Call} {next : Reply name → Procedure Call Reply Result}
    (before : During [])
    (each :
      ∀ answer,
        (next answer).Meets
          (fun later => During (⟨name, answer⟩ :: later))
          (fun result later => After result (⟨name, answer⟩ :: later))) :
    (Procedure.call name next).Meets During After := by
  intro trace outcome observed
  cases observed with
  | pending => exact before
  | reply rest => exact each _ _ _ rest

theorem Meets.perform
    {name : Call} {After : Reply name → Exchanges Call Reply → Prop}
    (before : During [])
    (each : ∀ answer, During [⟨name, answer⟩])
    (after : ∀ answer, After answer [⟨name, answer⟩]) :
    (Procedure.perform name : Procedure Call Reply (Reply name)).Meets
      During After := by
  apply Meets.call before
  intro answer
  exact Meets.done (each answer) (after answer)

/-- Sequencing: what the first part leaves, the second part starts from. -/
theorem Meets.bind
    {Middle : Result → Exchanges Call Reply → Prop}
    {Final : Other → Exchanges Call Reply → Prop}
    {first : Procedure Call Reply Result}
    {next : Result → Procedure Call Reply Other}
    (meets : first.Meets During Middle)
    (each :
      ∀ result earlier, Middle result earlier →
        (next result).Meets
          (fun later => During (earlier ++ later))
          (fun final later => Final final (earlier ++ later))) :
    (first.bind next).Meets During Final := by
  induction first generalizing During Middle Final with
  | done result =>
      have left : Middle result [] := meets.after (Observes.done result)
      exact each result [] left
  | call name reply inductionHypothesis =>
      refine Meets.call (meets.during (Observes.pending _)) ?_
      intro answer
      have rest :
          (reply answer).Meets
            (fun later => During (⟨name, answer⟩ :: later))
            (fun result later => Middle result (⟨name, answer⟩ :: later)) := by
        intro trace outcome observed
        exact meets _ outcome (Observes.reply observed)
      refine inductionHypothesis answer rest ?_
      intro result earlier left
      exact each result (⟨name, answer⟩ :: earlier) left

theorem Meets.weaken
    {procedure : Procedure Call Reply Result}
    {During' : Exchanges Call Reply → Prop}
    {After' : Result → Exchanges Call Reply → Prop}
    (meets : procedure.Meets During After)
    (during : ∀ trace, During trace → During' trace)
    (after : ∀ result trace, After result trace → After' result trace) :
    procedure.Meets During' After' := by
  intro trace outcome observed
  have known := meets trace outcome observed
  cases outcome with
  | none => exact during trace known
  | some result => exact after result trace known

theorem Meets.and
    {procedure : Procedure Call Reply Result}
    {During' : Exchanges Call Reply → Prop}
    {After' : Result → Exchanges Call Reply → Prop}
    (left : procedure.Meets During After)
    (right : procedure.Meets During' After') :
    procedure.Meets (fun trace => During trace ∧ During' trace)
      (fun result trace => After result trace ∧ After' result trace) := by
  intro trace outcome observed
  have first := left trace outcome observed
  have second := right trace outcome observed
  cases outcome with
  | none => exact ⟨first, second⟩
  | some result => exact ⟨first, second⟩

/-- Only the result of the last part matters for what is returned. -/
theorem Meets.returns_bind {Returned : Other → Prop}
    (first : Procedure Call Reply Result)
    {next : Result → Procedure Call Reply Other}
    (each :
      ∀ result,
        (next result).Meets (fun _ => True)
          (fun final _ => Returned final)) :
    (first.bind next).Meets (fun _ => True)
      (fun final _ => Returned final) := by
  have anything :
      first.Meets (fun _ => True) (fun _ _ => True) := by
    intro trace outcome observed
    cases outcome <;> trivial
  exact Meets.bind anything fun result _ _ => each result

/-- A loop that stops at its first failure: `Done` says what the items tried so
far have left, `Failed` what the one that failed adds. -/
theorem Meets.tryEach
    {attempt : Item → Procedure Call Reply (Except String Unit)}
    {items : List Item}
    (Done : List Item → Exchanges Call Reply → Prop)
    (Failed : String → List Item → Item → Exchanges Call Reply → Prop)
    (initially : Done [] [])
    (doneDuring :
      ∀ before after trace, items = before ++ after →
        Done before trace → During trace)
    (failedDuring :
      ∀ message before item after trace, items = before ++ item :: after →
        Failed message before item trace → During trace)
    (each :
      ∀ before item after earlier,
        items = before ++ item :: after →
        Done before earlier →
          (attempt item).Meets
            (fun later => During (earlier ++ later))
            (fun outcome later =>
              match outcome with
              | .ok () => Done (before ++ [item]) (earlier ++ later)
              | .error message =>
                  Failed message before item (earlier ++ later))) :
    (Procedure.tryEach attempt items).Meets During
      (fun outcome trace =>
        match outcome with
        | .ok () => Done items trace
        | .error message =>
            ∃ before item after,
              items = before ++ item :: after ∧
                Failed message before item trace) := by
  have fromHere :
      ∀ rest before earlier,
        items = before ++ rest → Done before earlier →
          (Procedure.tryEach attempt rest).Meets
            (fun later => During (earlier ++ later))
            (fun outcome later =>
              match outcome with
              | .ok () => Done items (earlier ++ later)
              | .error message =>
                  ∃ before item after,
                    items = before ++ item :: after ∧
                      Failed message before item (earlier ++ later)) := by
    intro rest
    induction rest with
    | nil =>
        intro before earlier split known
        have all : before = items := by
          rw [split, List.append_nil]
        subst all
        apply Meets.done
        · rw [List.append_nil]
          exact doneDuring before [] earlier split known
        · simpa using known
    | cons item rest inductionHypothesis =>
        intro before earlier split known
        refine Meets.bind (each before item rest earlier split known) ?_
        intro outcome tried left
        cases outcome with
        | ok _ =>
            have later :=
              inductionHypothesis (before ++ [item]) (earlier ++ tried)
                (by simp [split]) left
            simpa only [List.append_assoc] using later
        | error message =>
            apply Meets.done
            · rw [List.append_nil]
              exact failedDuring message before item rest _ split left
            · refine ⟨before, item, rest, split, ?_⟩
              rw [List.append_nil]
              exact left
  simpa using fromHere items [] [] rfl initially

end Rules

/-! ## What a procedure emits -/

section Emits

/-- The items that `pick` reads off the trace are at every time the first ones
of the list, and all of them at the end. -/
def Emits (pick : (name : Call) × Reply name → Option Item)
    (procedure : Procedure Call Reply Result) (items : List Item) : Prop :=
  procedure.Meets
    (fun trace => trace.filterMap pick <+: items)
    (fun _ trace => trace.filterMap pick = items)

variable {pick : (name : Call) × Reply name → Option Item}

theorem Emits.nil {result : Result} :
    Emits pick (.done result : Procedure Call Reply Result) [] :=
  Meets.done (List.prefix_refl []) rfl

theorem Emits.bind
    {first : Procedure Call Reply Result}
    {next : Result → Procedure Call Reply Other} {items others : List Item}
    (emits : Emits pick first items)
    (each : ∀ result, Emits pick (next result) others) :
    Emits pick (first.bind next) (items ++ others) := by
  have widened :
      first.Meets
        (fun trace => trace.filterMap pick <+: items ++ others)
        (fun _ trace => trace.filterMap pick = items) :=
    Meets.weaken emits
      (fun _ early => early.trans (List.prefix_append items others))
      (fun _ _ complete => complete)
  refine Meets.bind widened ?_
  intro result earlier complete
  refine Meets.weaken (each result) ?_ ?_
  · intro later early
    rw [List.filterMap_append, complete]
    exact (List.prefix_append_right_inj items).mpr early
  · intro final later whole
    rw [List.filterMap_append, complete, whole]

/-- A loop whose body emits one item emits them all, in order. -/
theorem Emits.forEach
    {Source : Type} {body : Source → Procedure Call Reply Unit}
    {emitted : Source → List Item}
    (each : ∀ source, Emits pick (body source) (emitted source))
    (sources : List Source) :
    Emits pick (Procedure.forEach body sources)
      (sources.flatMap emitted) := by
  induction sources with
  | nil =>
      exact Emits.nil
  | cons source rest inductionHypothesis =>
      rw [List.flatMap_cons]
      exact Emits.bind (each source) fun _ => inductionHypothesis

end Emits

end Procedure

/-! ## Deferred calls -/

/-- How a function ends: it hands back a result, panics, takes the whole
process with it, or is gone with a process that something else brought down. -/
inductive Ending (Result : Type) where
  | returned (result : Result)
  | panicked (message : String)
  | exited (code : Nat)
  | crashed (message : String)
  deriving DecidableEq

/-- The function itself comes to its end, so that its deferred calls run. -/
def Ending.unwinds : Ending Result → Bool
  | .returned _ | .panicked _ => true
  | .exited _ | .crashed _ => false

namespace Procedure

/-- The rest of a function after deferred calls were registered.  They run when
it returns or panics; the end of the process does not wait for them. -/
def deferring (deferred : Procedure Call Reply (Ending Unit))
    (body : Procedure Call Reply (Ending Result)) :
    Procedure Call Reply (Ending Result) :=
  body.bind fun ending =>
    if ending.unwinds then
      deferred.bind fun cleanup =>
        match cleanup with
        | .returned () => .done ending
        | .panicked message => .done (.panicked message)
        | .exited code => .done (.exited code)
        | .crashed message => .done (.crashed message)
    else
      .done ending

/-- A body that only ends with the process never gets to its deferred
calls. -/
theorem Meets.deferring_of_gone
    {During : Exchanges Call Reply → Prop}
    {After : Ending Result → Exchanges Call Reply → Prop}
    {body : Procedure Call Reply (Ending Result)}
    (deferred : Procedure Call Reply (Ending Unit))
    (during : ∀ ending trace, After ending trace → During trace)
    (meets : body.Meets During After)
    (gone :
      ∀ ending trace, After ending trace → ending.unwinds = false) :
    (Procedure.deferring deferred body).Meets During After := by
  refine Meets.bind meets ?_
  intro ending earlier left
  have never : ending.unwinds = false := gone ending earlier left
  simp only [never, Bool.false_eq_true, if_false]
  apply Meets.done
  · rw [List.append_nil]
    exact during _ earlier left
  · rw [List.append_nil]
    exact left

end Procedure

end Foundation
