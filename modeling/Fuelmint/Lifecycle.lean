import Fuelmint.Foundation.Procedures

/-!
# Start and stop of the sub-services

The task of the service starts its sub-services in the order of their list,
waits for the first reason to stop, and stops them in the same order.  Replies
come from the services, the signals and the watcher, in whatever way.
-/

namespace Fuelmint

open Foundation

variable {Service : Type}

/-- What the task awaits, and what it logs. -/
inductive TaskCall (Service : Type) where
  | startAndAwait (service : Service)
  /-- `select_all` of the stops of the services, the shutdown signal and the
  watcher. -/
  | selectAll (services : List Service)
  | stopAndAwait (service : Service)
  | logError (message : String)

@[reducible]
def TaskCall.Reply : TaskCall Service → Type
  | .startAndAwait _ => Except String Unit
  | .selectAll _ => Except String Unit
  | .stopAndAwait _ => Except String Unit
  | .logError _ => Unit

abbrev TaskAction (Service Result : Type) :=
  Procedure (TaskCall Service) TaskCall.Reply Result

def TaskCall.perform (name : TaskCall Service) :
    TaskAction Service name.Reply :=
  Procedure.perform name

namespace Task

/-- `service.start_and_await().await?` for each service. -/
def intoTask (services : List Service) :
    TaskAction Service (Except String Unit) :=
  .tryEach (fun service => (TaskCall.startAndAwait service).perform) services

/-- An error is logged and forgotten. -/
def logged (explanation : String) :
    Except String Unit → TaskAction Service Unit
  | .ok () => pure ()
  | .error err => (TaskCall.logError (explanation ++ err)).perform

def stop (service : Service) : TaskAction Service Unit := do
  let result ← (TaskCall.stopAndAwait service).perform
  logged "Got and error during awaiting for stop of the service: " result

/-- The result is `should_continue`. -/
def run (services : List Service) :
    TaskAction Service (Except String Bool) := do
  let result ← (TaskCall.selectAll services).perform
  logged "Got an error during listen for shutdown: " result
  Procedure.forEach stop services
  return .ok false

/-- The task of the service from its start on. -/
def lifecycle (services : List Service) :
    TaskAction Service (Except String Bool) := do
  match ← intoTask services with
  | .ok () => run services
  | .error err => return .error err

end Task

/-- The services of the node.  GraphQL should be shut down first, so it is
started first. -/
inductive SubService where
  | graphQL
  | txpool
  deriving DecidableEq

def subServices : List SubService := [.graphQL, .txpool]

/-! ## The steps of a trace -/

inductive TaskStep (Service : Type) where
  | started (service : Service)
  | startFailed (service : Service)
  | awaited
  | stopped (service : Service)
  deriving DecidableEq

abbrev TaskExchange (Service : Type) :=
  (name : TaskCall Service) × name.Reply

def TaskExchange.step : TaskExchange Service → Option (TaskStep Service)
  | ⟨.startAndAwait service, .ok ()⟩ => some (.started service)
  | ⟨.startAndAwait service, .error _⟩ => some (.startFailed service)
  | ⟨.selectAll _, _⟩ => some .awaited
  | ⟨.stopAndAwait service, _⟩ => some (.stopped service)
  | ⟨.logError _, _⟩ => none

def steps (trace : List (TaskExchange Service)) :
    List (TaskStep Service) :=
  trace.filterMap TaskExchange.step

theorem steps_append (earlier later : List (TaskExchange Service)) :
    steps (earlier ++ later) = steps earlier ++ steps later :=
  List.filterMap_append

/-! ## Starting -/

/-- All of these services are started, in order. -/
def AllStarted (services : List Service)
    (trace : List (TaskExchange Service)) : Prop :=
  steps trace = services.map .started

/-- One more start was tried and failed. -/
def StartFailed (before : List Service) (failing : Service)
    (trace : List (TaskExchange Service)) : Prop :=
  steps trace = before.map .started ++ [.startFailed failing]

/-- Some start of the list failed, after those before it. -/
def Aborted (services : List Service)
    (trace : List (TaskExchange Service)) : Prop :=
  ∃ before failing after,
    services = before ++ failing :: after ∧
      StartFailed before failing trace

theorem intoTask_meets (services : List Service) :
    (Task.intoTask services).Meets
      (fun trace =>
        steps trace <+: services.map .started ∨ Aborted services trace)
      (fun outcome trace =>
        match outcome with
        | .ok () => AllStarted services trace
        | .error _ => Aborted services trace) := by
  refine
    Procedure.Meets.tryEach AllStarted (fun _ => StartFailed)
      rfl ?_ ?_ ?_
  · intro before after trace split started
    left
    rw [started, split, List.map_append]
    exact List.prefix_append _ _
  · intro message before failing after trace split failed
    exact Or.inr ⟨before, failing, after, split, failed⟩
  · intro before service after earlier split started
    have early :
        ∀ earlier' : List Service,
          earlier' <+: services →
            earlier'.map TaskStep.started <+:
              services.map TaskStep.started :=
      fun _ shorter => shorter.map TaskStep.started
    have more : before ++ [service] <+: services := by
      rw [split, List.append_cons before service after]
      exact List.prefix_append _ after
    have succeeds :
        AllStarted (before ++ [service])
          (earlier ++ [⟨.startAndAwait service, .ok ()⟩]) := by
      unfold AllStarted
      rw [steps_append, started, List.map_append]
      rfl
    have fails :
        ∀ message,
          StartFailed before service
            (earlier ++ [⟨.startAndAwait service, .error message⟩]) := by
      intro message
      unfold StartFailed
      rw [steps_append, started]
      rfl
    apply Procedure.Meets.perform
    · left
      rw [List.append_nil, started, split, List.map_append]
      exact List.prefix_append _ _
    · intro reply
      cases reply with
      | ok _ =>
          left
          rw [succeeds]
          exact early _ more
      | error message =>
          exact Or.inr ⟨before, service, after, split, fails message⟩
    · intro reply
      cases reply with
      | ok _ => exact succeeds
      | error message => exact fails message

/-! ## Stopping -/

theorem logged_emits (explanation : String) (result : Except String Unit) :
    Procedure.Emits TaskExchange.step
      (Task.logged explanation result : TaskAction Service Unit) [] := by
  cases result with
  | ok _ =>
      exact Procedure.Emits.nil
  | error err =>
      apply Procedure.Meets.perform
      · exact List.prefix_refl []
      · intro _
        exact List.prefix_refl []
      · intro _
        rfl

theorem stop_emits (service : Service) :
    Procedure.Emits TaskExchange.step (Task.stop service)
      [.stopped service] := by
  have stopped :
      Procedure.Emits TaskExchange.step
        (TaskCall.stopAndAwait service).perform [.stopped service] := by
    apply Procedure.Meets.perform
    · exact List.nil_prefix
    · intro _
      exact List.prefix_refl _
    · intro _
      rfl
  exact stopped.bind fun result => logged_emits _ result

theorem run_emits (services : List Service) :
    Procedure.Emits TaskExchange.step (Task.run services)
      (.awaited :: services.map .stopped) := by
  have waited :
      Procedure.Emits TaskExchange.step
        (TaskCall.selectAll services).perform [.awaited] := by
    apply Procedure.Meets.perform
    · exact List.nil_prefix
    · intro _
      exact List.prefix_refl _
    · intro _
      rfl
  have stopped :
      Procedure.Emits TaskExchange.step
        (Procedure.forEach Task.stop services)
        (services.map .stopped) := by
    have each := Procedure.Emits.forEach stop_emits services
    rwa [← List.map_eq_flatMap] at each
  have ending :
      Procedure.Emits TaskExchange.step
        (do
          Procedure.forEach Task.stop services
          return .ok false : TaskAction Service (Except String Bool))
        (services.map .stopped) := by
    rw [← List.append_nil (services.map TaskStep.stopped)]
    exact stopped.bind fun _ => Procedure.Emits.nil
  exact waited.bind fun result =>
    (logged_emits _ result).bind fun _ => ending

/-- Whatever the replies, `run` waits once, stops every service in the order
of the list, and does not ask to be run again. -/
theorem run_meets (services : List Service) :
    (Task.run services).Meets
      (fun trace => steps trace <+: .awaited :: services.map .stopped)
      (fun outcome trace =>
        steps trace = .awaited :: services.map .stopped ∧
          outcome = .ok false) := by
  have result :
      (Task.run services).Meets (fun _ => True)
        (fun outcome _ => outcome = .ok false) := by
    apply Procedure.Meets.returns_bind
    intro _
    apply Procedure.Meets.returns_bind
    intro _
    apply Procedure.Meets.returns_bind
    intro _
    exact Procedure.Meets.done trivial rfl
  exact
    ((run_emits services).and result).weaken
      (fun _ early => early.1) (fun _ _ complete => complete)

/-! ## The whole life -/

/-- What a run of the task looks like at each moment and at its end: the starts
in order, and after them one wait and all the stops in order; or the starts up
to one that failed, and nothing else: the task asks no service to stop. -/
theorem services_start_and_stop_in_order
    (services : List Service) {trace : List (TaskExchange Service)}
    {outcome : Option (Except String Bool)}
    (observed : (Task.lifecycle services).Observes trace outcome) :
    (outcome = none →
        steps trace <+:
            services.map .started ++ .awaited :: services.map .stopped ∨
          Aborted services trace) ∧
      (∀ shouldContinue,
        outcome = some (.ok shouldContinue) →
          shouldContinue = false ∧
            steps trace =
              services.map .started ++ .awaited :: services.map .stopped) ∧
      ∀ message,
        outcome = some (.error message) → Aborted services trace := by
  have meets :
      (Task.lifecycle services).Meets
        (fun trace =>
          steps trace <+:
              services.map .started ++ .awaited :: services.map .stopped ∨
            Aborted services trace)
        (fun outcome trace =>
          match outcome with
          | .ok shouldContinue =>
              shouldContinue = false ∧
                steps trace =
                  services.map .started ++
                    .awaited :: services.map .stopped
          | .error _ => Aborted services trace) := by
    have started :
        (Task.intoTask services).Meets
          (fun trace =>
            steps trace <+:
                services.map .started ++
                  .awaited :: services.map .stopped ∨
              Aborted services trace)
          (fun outcome trace =>
            match outcome with
            | .ok () => AllStarted services trace
            | .error _ => Aborted services trace) := by
      refine (intoTask_meets services).weaken ?_ fun _ _ left => left
      rintro trace (early | aborted)
      · exact Or.inl (early.trans (List.prefix_append _ _))
      · exact Or.inr aborted
    refine started.bind ?_
    intro result earlier left
    cases result with
    | error message =>
        apply Procedure.Meets.done
        · rw [List.append_nil]
          exact Or.inr left
        · rw [List.append_nil]
          exact left
    | ok _ =>
        refine (run_meets services).weaken ?_ ?_
        · intro later early
          left
          rw [steps_append, left]
          exact (List.prefix_append_right_inj _).mpr early
        · rintro final later ⟨whole, rfl⟩
          refine ⟨rfl, ?_⟩
          rw [steps_append, left, whole]
  refine ⟨?_, ?_, ?_⟩
  · rintro rfl
    exact meets.during observed
  · rintro shouldContinue rfl
    exact meets.after observed
  · rintro message rfl
    exact meets.after observed

/-- A shutdown in which GraphQL fails to stop. -/
def failingStop (_past : List (TaskExchange SubService)) :
    (name : TaskCall SubService) → name.Reply
  | .startAndAwait _ => .ok ()
  | .selectAll _ => .ok ()
  | .stopAndAwait .graphQL => .error "panicked"
  | .stopAndAwait .txpool => .ok ()
  | .logError _ => ()

theorem services_start_and_stop_in_order_failingStop :
    steps ((Task.lifecycle subServices).run failingStop []).1 =
      [.started .graphQL, .started .txpool, .awaited, .stopped .graphQL,
        .stopped .txpool] :=
  ((services_start_and_stop_in_order subServices
    (Procedure.observes_run failingStop (Task.lifecycle subServices)
      [])).2.1 false rfl).2

end Fuelmint
