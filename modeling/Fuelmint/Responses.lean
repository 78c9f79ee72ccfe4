import Fuelmint.Connections
import Fuelmint.ReplicaAgreement

/-!
# What the answers say about the chain

Tendermint compares what the instances of an application answer.  This
application answers from the request and from the height in its current state:
no answer depends on the pool or on a block, and the app hash is never set.
So instances may hold different chains and still answer alike.
-/

namespace Fuelmint

open Foundation

variable {T : Types} {F : FuelCore T}

/-- Two worlds with the same two copies of the state. -/
structure SameStates (left right : World T) : Prop where
  current : left.app.currentState = right.app.currentState
  committed : left.app.committedState = right.app.committedState

theorem SameStates.step
    {now now' : Tai64} {request : Request}
    {left right left' right' : World T} {answer answer' : Response}
    (same : SameStates left right)
    (stepped : Transition F now request left answer left')
    (stepped' : Transition F now' request right answer' right') :
    SameStates left' right' := by
  constructor
  · rw [stepped.currentState_eq, stepped'.currentState_eq, same.current]
  · rw [stepped.committedState_eq, stepped'.committedState_eq,
      same.current, same.committed]

/-- With the same current state, a request has one answer. -/
theorem SameStates.answer_eq
    {now now' : Tai64} {request : Request}
    {left right left' right' : World T} {answer answer' : Response}
    (same : SameStates left right)
    (stepped : Transition F now request left answer left')
    (stepped' : Transition F now' request right answer' right') :
    answer = answer' := by
  cases stepped with
  | info converted =>
      cases stepped' with
      | unhandled default => cases default
      | info converted' =>
          rw [same.current, converted'] at converted
          cases converted
          rw [same.current]
  | deliverTx decoded insertion =>
      cases stepped' with
      | unhandled default => cases default
      | deliverTx decoded' insertion' =>
          rw [decoded] at decoded'
          cases decoded'
          rfl
  | endBlock produced =>
      cases stepped' with
      | unhandled default => cases default
      | endBlock produced' => rfl
  | commit =>
      cases stepped' with
      | unhandled default => cases default
      | commit => rfl
  | unhandled default =>
      cases stepped' with
      | unhandled default' =>
          rw [default] at default'
          exact Option.some.inj default'
      | _ => cases default

theorem Booted.sameStates
    {config config' : Config T} {world world' : World T}
    (booted : Booted F config world) (booted' : Booted F config' world') :
    SameStates world world' := by
  constructor
  · rw [booted.currentState_eq, booted'.currentState_eq]
  · rw [booted.app, booted'.app]
    rfl

/-- Any two nodes that answer the same requests give the same answers: started
with any flags on any databases, with any clocks, whatever chains they hold. -/
theorem answers_reveal_nothing
    {environment environment' : Option String}
    {command command' : Command} {database database' : Database T}
    {left right : Node T}
    (started : exec F environment command database = .ok left)
    (started' : exec F environment' command' database' = .ok right)
    {requests : List SharedRequest} {answers answers' : List Response}
    {left' right' : World T}
    (served :
      runAll (serveRequest F) (requests.map SharedRequest.left)
          left.world =
        .ok answers left')
    (served' :
      runAll (serveRequest F) (requests.map SharedRequest.right)
          right.world =
        .ok answers' right') :
    answers = answers' := by
  obtain ⟨_, _, booted, _, _⟩ := exec_booted started
  obtain ⟨_, _, booted', _, _⟩ := exec_booted started'
  rw [runAll_map] at served served'
  have agree :
      List.Forall₂ (fun answer answer' : Response => answer = answer')
        answers answers' := by
    refine
      runAll_lockstep_answers _ ?_ (booted.sameStates booted')
        served served'
    intro shared _ before before' answer answer' after after' same
      stepped stepped'
    have transition := serveRequest_ok.mp stepped
    have transition' := serveRequest_ok.mp stepped'
    exact
      ⟨same.answer_eq transition transition',
        same.step transition transition'⟩
  exact List.forall₂_eq_eq_eq ▸ agree

/-! ## Replicas under different traffic -/

/-- Two instances of a chain that answer the same consensus requests agree,
each of them among requests of its own on the other connections: on the
heights of their blocks, on both copies of the state, and on pool and database
when recipient and block times agree. -/
theorem replicas_agree_despite_traffic
    (genesis : GenesisLaws F) (reads : GenesisReads F)
    (heights : HeightLaws F) (producer : ProducerReads F)
    {fresh : Database T} (empty : ∀ height, ¬ fresh.Stores height)
    {left right : Replica F fresh} (peers : Peers left right)
    {requests : List SharedRequest}
    {leftLog rightLog : List TimedRequest} {left' right' : World T}
    (leftConsensus :
      leftLog.filter isConsensus = requests.map SharedRequest.left)
    (rightConsensus :
      rightLog.filter isConsensus = requests.map SharedRequest.right)
    (leftServed :
      Answered (serveRequest F) leftLog left.node.world left')
    (rightServed :
      Answered (serveRequest F) rightLog right.node.world right') :
    SameHeights left'.database right'.database ∧
      SameStates left' right' ∧
      (left.recipient = right.recipient →
        (∀ shared ∈ requests, shared.SameBlockTime) →
          left'.toShared = right'.toShared) := by
  have neutral := neutral_serveRequest F
  have leftAlone := neutral.answered_filter leftServed
  have rightAlone := neutral.answered_filter rightServed
  rw [leftConsensus] at leftAlone
  rw [rightConsensus] at rightAlone
  have served :
      ServedByBoth F requests left.node.world right.node.world
        left' right' :=
    ⟨leftAlone, rightAlone⟩
  refine ⟨?_, ?_, ?_⟩
  · refine
      served.lockstep
        (fun left right => SameHeights left.database right.database)
        ?_ (peers.sameHeights genesis empty)
    intro shared _ before before' answer answer' after after' same
      stepped stepped'
    exact same.step heights stepped stepped'
  · obtain ⟨_, leftBooted, _⟩ := left.boot
    obtain ⟨_, rightBooted, _⟩ := right.boot
    refine
      served.lockstep SameStates ?_ (leftBooted.sameStates rightBooted)
    intro shared _ before before' answer answer' after after' same
      stepped stepped'
    exact same.step stepped stepped'
  · intro sameRecipient sameTimes
    have inStep : InStep F left' right' := by
      refine
        served.lockstep (InStep F) ?_
          (peers.inStep reads producer sameRecipient)
      intro shared member before before' answer answer' after after' same
        stepped stepped'
      exact same.step (sameTimes shared member) stepped stepped'
    exact inStep.shared

section TwoOperators

open LocalTestnet

/-- The first block at two clocks, and an Info after it. -/
def divergingBlock : List SharedRequest :=
  [(1, 5, .beginBlock 1), (2, 6, .deliverTx [1, 1, 4, 7]),
    (3, 7, .endBlock 1), (4, 8, .commit), (9, 9, .info)]

/-- Two instances with different consensus keys mint to different addresses,
and answer alike. -/
theorem answers_reveal_nothing_diverging :
    ∃ answers left' right',
      runAll (serveRequest core)
          (divergingBlock.map SharedRequest.left)
          defaultReplica.node.world =
        .ok answers left' ∧
      runAll (serveRequest core)
          (divergingBlock.map SharedRequest.right)
          keyedReplica.node.world =
        .ok answers right' ∧
      ¬ (left'.database.getBlock 1).map Block.transactions =
        (right'.database.getBlock 1).map Block.transactions := by
  obtain ⟨answers, left', served, leftWorld⟩ :
      ∃ answers left',
        runAll (serveRequest core)
            (divergingBlock.map SharedRequest.left)
            defaultReplica.node.world =
          .ok answers left' ∧
        (left'.database.getBlock 1).map Block.transactions =
          some [coinbase 101 1 4, transfer 1 1 4 7] :=
    ⟨_, _, rfl, rfl⟩
  obtain ⟨answers', right', served', rightWorld⟩ :
      ∃ answers' right',
        runAll (serveRequest core)
            (divergingBlock.map SharedRequest.right)
            keyedReplica.node.world =
          .ok answers' right' ∧
        (right'.database.getBlock 1).map Block.transactions =
          some [coinbase 103 1 4, transfer 1 1 4 7] :=
    ⟨_, _, rfl, rfl⟩
  have same : answers = answers' :=
    answers_reveal_nothing defaultReplica.started keyedReplica.started
      served served'
  subst same
  refine ⟨answers, left', right', served, served', ?_⟩
  rw [leftWorld, rightWorld]
  decide

/-- The requests of one instance: its own Info and CheckTx in between. -/
def busyLog : List TimedRequest :=
  [(1, .info), (1, .beginBlock 1), (1, .checkTx [9]),
    (2, .deliverTx [1, 1, 4, 7]), (2, .info), (7, .endBlock 1),
    (7, .query "" []), (8, .commit)]

theorem replicas_agree_despite_traffic_busy :
    ∃ left' right',
      Answered (serveRequest core) busyLog flaggedReplica.node.world
          left' ∧
        Answered (serveRequest core)
            (sharedBlock.map SharedRequest.right)
            otherFlaggedReplica.node.world right' ∧
        left'.database.IsLatest 1 ∧
        SameHeights left'.database right'.database ∧
        SameStates left' right' := by
  have peers : Peers flaggedReplica otherFlaggedReplica :=
    ⟨rfl, rfl, rfl⟩
  have leftConsensus :
      busyLog.filter isConsensus = sharedBlock.map SharedRequest.left :=
    rfl
  have rightConsensus :
      (sharedBlock.map SharedRequest.right).filter isConsensus =
        sharedBlock.map SharedRequest.right :=
    rfl
  have leftServed :
      Answered (serveRequest core) busyLog flaggedReplica.node.world _ :=
    ⟨_, rfl⟩
  have rightServed :
      Answered (serveRequest core)
        (sharedBlock.map SharedRequest.right)
        otherFlaggedReplica.node.world _ :=
    ⟨_, rfl⟩
  obtain ⟨sameHeights, sameStates, _⟩ :=
    replicas_agree_despite_traffic core_genesisLaws core_genesisReads
      core_heightLaws core_producerReads freshDatabase_empty peers
      leftConsensus rightConsensus leftServed rightServed
  exact ⟨_, _, leftServed, rightServed, by decide, sameHeights, sameStates⟩

end TwoOperators

end Fuelmint
