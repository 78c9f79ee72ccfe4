import Fuelmint.LocalTestnet

/-!
# Deliveries that stop the worker

`deliver_tx` unwraps twice: the decoding of the bytes and the verdict of the
pool.  One worker serves all requests, so a delivery that fails either way is
the last thing it does.
-/

namespace Fuelmint

open Foundation

variable {T : Types} {F : FuelCore T}

/-- The bytes decode and the pool takes the transaction. -/
def Accepted (F : FuelCore T) (world : World T) (bytes : Bytes) : Prop :=
  ∃ tx inserted pool,
    F.fromBytes bytes = some tx ∧
      F.insert world.app.txPool world.database world.pool tx =
        (.ok inserted, pool)

/-- The delivery is answered by a worker that goes on serving, with code 0
exactly for an accepted transaction, and a refusal changes nothing. -/
def DeliverySafe (F : FuelCore T) (world : World T)
    (now : Tai64) (bytes : Bytes) : Prop :=
  ∃ answer next,
    (Worker.serving world).serve (serveRequest F)
        (now, .deliverTx bytes) =
      (.serving next, some (.deliverTx answer)) ∧
    (answer.code = 0 ↔ Accepted F world bytes) ∧
    (answer.code ≠ 0 →
      next.pool = world.pool ∧ next.database = world.database ∧
        next.app.currentState = world.app.currentState ∧
        next.app.committedState = world.app.committedState)

/-- No delivery of the run, wherever it comes, stops the application. -/
def NoBytesStop (F : FuelCore T) (start : World T)
    (requests : List TimedRequest) : Prop :=
  ∀ before now bytes after world,
    requests = before ++ (now, .deliverTx bytes) :: after →
    Answered (serveRequest F) before start world →
      DeliverySafe F world now bytes

theorem deliverTx_answered_iff
    {world : World T} {now : Tai64} {bytes : Bytes} :
    (∃ answer next,
      App.call F now (.deliverTx bytes) world = .ok answer next) ↔
        Accepted F world bytes := by
  constructor
  · rintro ⟨answer, next, answered⟩
    have transition := call_ok.mp answered
    cases transition with
    | deliverTx decoded insertion =>
        exact ⟨_, _, _, decoded, insertion⟩
    | unhandled default => cases default
  · rintro ⟨tx, inserted, pool, decoded, insertion⟩
    exact ⟨_, _, call_ok.mpr (Transition.deliverTx decoded insertion)⟩

/-- A single delivery is safe exactly when it is accepted. -/
theorem deliverySafe_iff
    {world : World T} {now : Tai64} {bytes : Bytes} :
    DeliverySafe F world now bytes ↔ Accepted F world bytes := by
  constructor
  · rintro ⟨answer, next, served, _, _⟩
    obtain ⟨current, reached, currentEq, _, answered⟩ :=
      Worker.serve_eq_some served
    cases currentEq
    exact deliverTx_answered_iff.mp ⟨_, _, answered⟩
  · intro accepted
    obtain ⟨tx, inserted, pool, decoded, insertion⟩ := accepted
    have answered :
        serveRequest F (now, .deliverTx bytes) world =
          .ok (.deliverTx { data := F.toJson tx })
            (world.setPool pool) :=
      serveRequest_ok.mpr (Transition.deliverTx decoded insertion)
    refine ⟨_, _, Worker.serve_ok answered, ?_, ?_⟩
    · exact iff_of_true rfl
        ⟨tx, inserted, pool, decoded, insertion⟩
    · intro refused
      exact absurd rfl refused

/-- A delivery that is not accepted stops the worker wherever it comes in a
run: nothing is answered from then on until a restart. -/
theorem unaccepted_stops_worker
    {start world : World T} {before : List TimedRequest}
    (served : Answered (serveRequest F) before start world)
    {now : Tai64} {bytes : Bytes}
    (unaccepted : ¬ Accepted F world bytes)
    (restart : World T → Worker (World T))
    (later : List TimedRequest) :
    ∃ stuck,
      (Worker.serving start).after (serveRequest F) restart
          ((before ++ (now, .deliverTx bytes) :: later).map
            Occurrence.receive) =
        .stopped stuck := by
  have reached :
      (Worker.serving start).after (serveRequest F) restart
          (before.map Occurrence.receive) =
        .serving world :=
    Worker.after_receive_of_answered served
  rw [List.map_append, Worker.after_append, reached, List.map_cons,
    Worker.after_cons, Worker.occur]
  cases outcome : App.call F now (.deliverTx bytes) world with
  | ok answer next =>
      exact absurd
        (deliverTx_answered_iff.mp ⟨answer, next, outcome⟩) unaccepted
  | error panic stuck =>
      have stopped :
          (Worker.serving world).serve (serveRequest F)
              (now, .deliverTx bytes) =
            (.stopped stuck, none) :=
        Worker.serve_error outcome
      refine ⟨stuck, ?_⟩
      rw [stopped]
      exact Worker.after_receive_stopped stuck later

/-- No transaction bytes stop the application in a run exactly when every
delivery of the run decodes and is accepted by the pool it meets. -/
theorem noBytesStop_iff
    (F : FuelCore T) (start : World T) (requests : List TimedRequest) :
    NoBytesStop F start requests ↔
      ∀ before now bytes after world,
        requests = before ++ (now, .deliverTx bytes) :: after →
        Answered (serveRequest F) before start world →
          Accepted F world bytes := by
  constructor
  · intro safe before now bytes after world split served
    exact deliverySafe_iff.mp
      (safe before now bytes after world split served)
  · intro accepted before now bytes after world split served
    exact deliverySafe_iff.mpr
      (accepted before now bytes after world split served)

open LocalTestnet in
/-- Bytes that do not decode and a transaction that is already pooled both
stop the small chain in its first block. -/
theorem bytes_stop_application :
    ¬ NoBytesStop core firstNode.world
        [(1, .beginBlock 1), (2, .checkTx []), (3, .deliverTx [])] ∧
      ¬ NoBytesStop core firstNode.world
        [(1, .beginBlock 1), (2, .deliverTx [1, 1, 4, 7]),
          (3, .deliverTx [1, 1, 4, 7])] := by
  constructor
  · intro safe
    obtain ⟨answer, next, served, _⟩ :=
      safe [(1, .beginBlock 1), (2, .checkTx [])] 3 [] [] _ rfl
        ⟨_, rfl⟩
    cases served
  · intro safe
    obtain ⟨answer, next, served, _⟩ :=
      safe [(1, .beginBlock 1), (2, .deliverTx [1, 1, 4, 7])] 3
        [1, 1, 4, 7] [] _ rfl ⟨_, rfl⟩
    cases served

end Fuelmint
