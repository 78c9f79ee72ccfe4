import Fuelmint.LocalTestnet
import Fuelmint.RequestLog

/-!
# What Info reports

`App` keeps two copies of the state: `current_state`, which `EndBlock` writes,
and `committed_state`, which `Commit` copies from it.  `Info` reads the
current one.  This module computes both copies from the requests of a run and
says exactly when the difference shows.
-/

namespace Fuelmint

open Foundation

variable {T : Types} {F : FuelCore T}

/-! ## The two copies of the state -/

theorem currentState_of_answered
    {requests : List TimedRequest} {start world : World T}
    (served : Answered (serveRequest F) requests start world) :
    world.app.currentState =
      { blockHeight :=
          endedHeight start.app.currentState.blockHeight requests
        appHash := start.app.currentState.appHash } := by
  induction requests using List.reverseRecOn generalizing world with
  | nil =>
      rw [answered_nil] at served
      rw [served]
      rfl
  | append_singleton before timed inductionHypothesis =>
      obtain ⟨middle, answer, earlier, stepped⟩ :=
        answered_concat.mp served
      have last := (serveRequest_ok.mp stepped).currentState_eq
      rw [inductionHypothesis earlier] at last
      rw [last, endedHeight_concat]

/-- The committed state is the current state of the last Commit. -/
theorem committedState_of_answered
    {requests : List TimedRequest} {start world : World T}
    (fresh : start.app.committedState = start.app.currentState)
    (served : Answered (serveRequest F) requests start world) :
    world.app.committedState =
      { blockHeight :=
          endedHeight start.app.currentState.blockHeight
            (throughLastCommit requests)
        appHash := start.app.currentState.appHash } := by
  induction requests using List.reverseRecOn generalizing world with
  | nil =>
      rw [answered_nil] at served
      rw [served, fresh]
      rfl
  | append_singleton before timed inductionHypothesis =>
      obtain ⟨middle, answer, earlier, stepped⟩ :=
        answered_concat.mp served
      have last := (serveRequest_ok.mp stepped).committedState_eq
      by_cases committing : timed.2.isCommit = true
      · have whole :
            throughLastCommit (before ++ [timed]) = before ++ [timed] :=
          List.rdropWhile_concat_neg _ _ _ (by simp [committing])
        have silent : timed.2.endBlockHeight? = none := by
          obtain ⟨now, request⟩ := timed
          cases request <;> first | rfl | cases committing
        rw [if_pos committing, currentState_of_answered earlier] at last
        rw [last, whole, endedHeight_concat, silent]
        rfl
      · have shorter :
            throughLastCommit (before ++ [timed]) =
              throughLastCommit before :=
          List.rdropWhile_concat_pos _ _ _ (by simp [committing])
        rw [if_neg committing, inductionHypothesis earlier] at last
        rw [last, shorter]

/-! ## Info -/

/-- Any Info after the requests reports height and app hash of the state that
the last completed Commit left, the initial state if there was none.  The
values are compared: after an EndBlock at the committed height once more, what
is reported is that state all the same. -/
def InfoReportsCommitted (F : FuelCore T) (start : World T)
    (requests : List TimedRequest) : Prop :=
  ∀ committed world now answer after,
    Answered (serveRequest F) (throughLastCommit requests)
        start committed →
    Answered (serveRequest F) requests start world →
    App.call F now .info world = .ok (.info answer) after →
      Height.tryFrom committed.app.committedState.blockHeight =
          some answer.lastBlockHeight ∧
        answer.lastBlockAppHash = committed.app.committedState.appHash

theorem info_answer
    {now : Tai64} {world after : World T} {answer : Response.Info}
    (asked : App.call F now .info world = .ok (.info answer) after) :
    Height.tryFrom world.app.currentState.blockHeight =
        some answer.lastBlockHeight ∧
      answer.lastBlockAppHash = world.app.currentState.appHash := by
  have transition := call_ok.mp asked
  cases transition with
  | info converted => exact ⟨converted, rfl⟩
  | unhandled default => cases default

/-- The state that the last completed Commit of a run left. -/
theorem committedState_throughLastCommit
    {requests : List TimedRequest} {start committed : World T}
    (fresh : start.app.committedState = start.app.currentState)
    (toCommit :
      Answered (serveRequest F) (throughLastCommit requests)
        start committed) :
    committed.app.committedState =
      { blockHeight :=
          endedHeight start.app.currentState.blockHeight
            (throughLastCommit requests)
        appHash := start.app.currentState.appHash } := by
  have atCommit := committedState_of_answered fresh toCommit
  rwa [throughLastCommit_idem] at atCommit

/-- The height after a run is the committed one exactly when its last EndBlock
since the Commit, if any, carried that height. -/
theorem endedHeight_eq_committed_iff
    (initial : Int64) (requests : List TimedRequest) :
    endedHeight initial requests =
        endedHeight initial (throughLastCommit requests) ↔
      ∀ height,
        lastEndBlockHeight? (sinceLastCommit requests) = some height →
          height = endedHeight initial (throughLastCommit requests) := by
  rw [endedHeight_split]
  cases latest : lastEndBlockHeight? (sinceLastCommit requests) with
  | none =>
      simp [endedHeight, latest]
  | some height =>
      simp [endedHeight, latest]

/-- Info reports the committed state exactly when no EndBlock came after the
last Commit, or the latest of them carried the committed height again. -/
theorem infoReportsCommitted_iff
    {requests : List TimedRequest} {start world after : World T}
    {now : Tai64} {answer : Response.Info}
    (fresh : start.app.committedState = start.app.currentState)
    (served : Answered (serveRequest F) requests start world)
    (asked : App.call F now .info world = .ok (.info answer) after) :
    InfoReportsCommitted F start requests ↔
      ∀ height,
        lastEndBlockHeight? (sinceLastCommit requests) = some height →
          height =
            endedHeight start.app.currentState.blockHeight
              (throughLastCommit requests) := by
  have current := currentState_of_answered served
  rw [← endedHeight_eq_committed_iff]
  constructor
  · intro reports
    have split := served
    rw [← throughLastCommit_append_since requests] at split
    obtain ⟨committed, toCommit, _⟩ := answered_append.mp split
    obtain ⟨reported, _⟩ := info_answer asked
    have sameHeight := (reports committed world now answer after
      toCommit served asked).1
    rw [committedState_throughLastCommit fresh toCommit] at sameHeight
    rw [current] at reported
    exact Height.tryFrom_injective reported sameHeight
  · intro unchanged committed world' now' answer' after'
      toCommit served' asked'
    have same : world = world' := answered_unique served served'
    subst same
    obtain ⟨reported, reportedHash⟩ := info_answer asked'
    rw [current] at reported reportedHash
    rw [committedState_throughLastCommit fresh toCommit, ← unchanged]
    exact ⟨reported, reportedHash⟩

/-- Five requests on the small chain: one block that is committed, then an
EndBlock whose Commit is still to come. -/
def pendingBlockRun : List TimedRequest :=
  [(1, .beginBlock 1), (2, .endBlock 1), (3, .commit),
    (4, .beginBlock 2), (5, .endBlock 2)]

open LocalTestnet in
/-- An Info between EndBlock(2) and its Commit reports height 2. -/
theorem info_reports_pending_block :
    ¬ InfoReportsCommitted core firstNode.world pendingBlockRun := by
  intro reports
  have reported :=
    (reports _ _ 6 _ _ ⟨_, rfl⟩ ⟨_, rfl⟩ rfl).1
  revert reported
  decide

open LocalTestnet in
theorem infoReportsCommitted_after_commit :
    InfoReportsCommitted core firstNode.world
      [(1, .beginBlock 1), (2, .endBlock 1), (3, .commit)] :=
  (infoReportsCommitted_iff rfl ⟨_, rfl⟩
    (rfl : App.call core 4 .info _ = .ok (.info _) _)).mpr (by
      intro height pending
      cases pending)

end Fuelmint
