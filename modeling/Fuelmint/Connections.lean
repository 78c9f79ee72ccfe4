import Fuelmint.CommittedState
import Fuelmint.Foundation.Neutral

/-!
# Four connections and one application

`exec` splits the application into a consensus, a mempool, a snapshot and an
info service.  One worker behind them serves the requests of all four in the
order in which they come, and load shedding may turn away requests of the
mempool and of the info service.  Blocks are made on the consensus connection
alone; this module says what the traffic on the others can do to them.
-/

namespace Fuelmint

open Foundation

variable {T : Types} {F : FuelCore T}

inductive Connection where
  | consensus
  | mempool
  | snapshot
  | info
  deriving DecidableEq

/-- The service that a request is handed to.  The server answers Flush by
itself. -/
def Request.connection? : Request → Option Connection
  | .initChain | .beginBlock _ | .deliverTx _ | .endBlock _ | .commit =>
      some .consensus
  | .checkTx _ => some .mempool
  | .listSnapshots | .offerSnapshot | .loadSnapshotChunk
  | .applySnapshotChunk => some .snapshot
  | .info | .query _ _ | .echo _ | .setOption _ _ => some .info
  | .flush => none

/-- The services that `exec` puts behind `load_shed`. -/
def Connection.loadShed : Connection → Bool
  | .mempool | .info => true
  | .consensus | .snapshot => false

def isConsensus (timed : TimedRequest) : Bool :=
  timed.2.connection? == some .consensus

def isShed (timed : TimedRequest) : Bool :=
  (timed.2.connection?.map Connection.loadShed).getD false

/-- The requests that get to the worker: some of those that arrive, and all of
those that are never turned away. -/
structure Admitted (arrived admitted : List TimedRequest) : Prop where
  sublist : admitted.Sublist arrived
  unshed :
    (admitted.filter fun timed => !isShed timed) =
      arrived.filter fun timed => !isShed timed

/-! ## Traffic besides consensus -/

/-- Outside consensus, an answered request changes nothing. -/
theorem neutral_serveRequest (F : FuelCore T) :
    Neutral (serveRequest F) isConsensus := by
  intro timed before answer after other answered
  obtain ⟨now, request⟩ := timed
  have transition := serveRequest_ok.mp answered
  cases transition with
  | info => rfl
  | unhandled => rfl
  | deliverTx => simp [isConsensus, Request.connection?] at other
  | endBlock => simp [isConsensus, Request.connection?] at other
  | commit => simp [isConsensus, Request.connection?] at other

/-- Outside consensus, only Info can go unanswered: at a negative height. -/
theorem answered_of_not_consensus
    {now : Tai64} {request : Request} {world : World T}
    (other : isConsensus (now, request) = false)
    (nonneg :
      request = .info → 0 ≤ world.app.currentState.blockHeight) :
    ∃ answer next,
      serveRequest F (now, request) world = .ok answer next := by
  cases request with
  | info =>
      obtain ⟨reported, converted⟩ :=
        Option.isSome_iff_exists.mp
          ((Height.tryFrom_isSome_iff _).mpr (nonneg rfl))
      exact ⟨_, _, serveRequest_ok.mpr (Transition.info converted)⟩
  | initChain => simp [isConsensus, Request.connection?] at other
  | beginBlock height =>
      simp [isConsensus, Request.connection?] at other
  | deliverTx tx => simp [isConsensus, Request.connection?] at other
  | endBlock height =>
      simp [isConsensus, Request.connection?] at other
  | commit => simp [isConsensus, Request.connection?] at other
  | _ =>
      exact ⟨_, _, serveRequest_ok.mpr (Transition.unhandled rfl)⟩

theorem nonneg_of_answered_info
    {now : Tai64} {world next : World T} {answer : Response}
    (answered : serveRequest F (now, .info) world = .ok answer next) :
    0 ≤ world.app.currentState.blockHeight := by
  have transition := serveRequest_ok.mp answered
  cases transition with
  | info converted => exact (Height.tryFrom_eq_some converted).1
  | unhandled default => cases default

/-- The consensus requests have all the EndBlocks of a log. -/
theorem endedHeight_filter_isConsensus
    (initial : Int64) (requests : List TimedRequest) :
    endedHeight initial (requests.filter isConsensus) =
      endedHeight initial requests := by
  have sameHeights :
      (requests.filter isConsensus).filterMap
          (fun timed => timed.2.endBlockHeight?) =
        requests.filterMap fun timed => timed.2.endBlockHeight? := by
    rw [List.filterMap_filter]
    apply List.filterMap_congr
    intro timed _
    obtain ⟨now, request⟩ := timed
    cases request <;>
      simp [isConsensus, Request.connection?, Request.endBlockHeight?]
  unfold endedHeight lastEndBlockHeight?
  rw [sameHeights]

/-- What is admitted has all the consensus requests that arrived. -/
theorem Admitted.filter_isConsensus
    {arrived admitted : List TimedRequest}
    (admits : Admitted arrived admitted) :
    admitted.filter isConsensus = arrived.filter isConsensus := by
  have unshed : ∀ requests : List TimedRequest,
      requests.filter isConsensus =
        (requests.filter fun timed => !isShed timed).filter
          isConsensus := by
    intro requests
    rw [List.filter_filter]
    apply List.filter_congr
    intro timed _
    obtain ⟨now, request⟩ := timed
    cases request <;>
      simp [isConsensus, isShed, Request.connection?,
        Connection.loadShed]
  rw [unshed admitted, unshed arrived, admits.unshed]

/-! ## Consensus alone -/

/-- A run is answered exactly when its consensus requests are and no Info in
it finds a negative height. -/
theorem answered_iff_consensus
    {requests : List TimedRequest} {start finish : World T} :
    Answered (serveRequest F) requests start finish ↔
      Answered (serveRequest F) (requests.filter isConsensus)
          start finish ∧
        ∀ before now after,
          requests = before ++ (now, .info) :: after →
            0 ≤ endedHeight start.app.currentState.blockHeight before := by
  have reachedHeight :
      ∀ {before : List TimedRequest} {reached : World T},
        Answered (serveRequest F) (before.filter isConsensus)
            start reached →
          reached.app.currentState.blockHeight =
            endedHeight start.app.currentState.blockHeight before := by
    intro before reached served
    have state := currentState_of_answered served
    rw [endedHeight_filter_isConsensus] at state
    rw [state]
  rw [(neutral_serveRequest F).answered_iff]
  constructor
  · rintro ⟨alone, each⟩
    refine ⟨alone, ?_⟩
    intro before now after split
    have other : ¬ isConsensus (now, Request.info) = true := by
      simp [isConsensus, Request.connection?]
    have consensus :
        requests.filter isConsensus =
          before.filter isConsensus ++ after.filter isConsensus := by
      rw [split, List.filter_append, List.filter_cons_of_neg other]
    rw [consensus] at alone
    obtain ⟨reached, toReached, _⟩ := answered_append.mp alone
    obtain ⟨answer, next, answered⟩ :=
      each before (now, .info) after reached split rfl toReached
    have nonneg := nonneg_of_answered_info answered
    rwa [reachedHeight toReached] at nonneg
  · rintro ⟨alone, nonneg⟩
    refine ⟨alone, ?_⟩
    intro before timed after reached split other toReached
    obtain ⟨now, request⟩ := timed
    apply answered_of_not_consensus other
    intro info
    subst info
    rw [reachedHeight toReached]
    exact nonneg before now after split

/-- The other connections do not disturb consensus.  Its requests get the
answers they would get alone and lead to the same world, and so it is whatever
is turned away by load shedding; only an Info at a negative height stops the
run. -/
theorem consensus_undisturbed
    (F : FuelCore T) (requests : List TimedRequest)
    (start finish : World T) :
    (Answered (serveRequest F) requests start finish ↔
      Answered (serveRequest F) (requests.filter isConsensus)
          start finish ∧
        ∀ before now after,
          requests = before ++ (now, .info) :: after →
            0 ≤ endedHeight start.app.currentState.blockHeight
              before) ∧
      ∀ answers,
        runAll (serveRequest F) requests start = .ok answers finish →
          runAll (serveRequest F) (requests.filter isConsensus) start =
              .ok (keptAnswers isConsensus requests answers) finish ∧
            ∀ admitted,
              Admitted requests admitted →
                ∃ answers',
                  runAll (serveRequest F) admitted start =
                      .ok answers' finish ∧
                    keptAnswers isConsensus admitted answers' =
                      keptAnswers isConsensus requests answers := by
  refine ⟨answered_iff_consensus, ?_⟩
  intro answers served
  have neutral := neutral_serveRequest F
  have alone := neutral.runAll_filter served
  refine ⟨alone, ?_⟩
  intro admitted admits
  obtain ⟨answers', served'⟩ :=
    neutral.answered_of_sublist admits.sublist
      admits.filter_isConsensus ⟨answers, served⟩
  have alone' := neutral.runAll_filter served'
  rw [admits.filter_isConsensus, alone] at alone'
  refine ⟨answers', served', ?_⟩
  simp only [EStateM.Result.ok.injEq, and_true] at alone'
  exact alone'.symm

end Fuelmint
