import Fuelmint.ChainGrowth
import Fuelmint.RequestLog

/-!
# Replicas

Two instances that serve the same requests on the same chain.  What is local
to an instance reaches its blocks in two places: the address the fees are
minted to, and the clock that the producer reads because `end_block` gives it
no block time.
-/

namespace Fuelmint

open Foundation

variable {T : Types} {F : FuelCore T}

/-- An instance of the node, started on the given database. -/
structure Replica (F : FuelCore T) (fresh : Database T) where
  environment : Option String
  command : Command
  node : Node T
  started : exec F environment command fresh = .ok node

namespace Replica

variable {fresh : Database T}

def config (replica : Replica F fresh) : Config T :=
  replica.node.world.app.config

/-- The address the fees of its blocks go to. -/
def recipient (replica : Replica F fresh) : T.Address :=
  replica.config.blockProducer.coinbaseRecipient

theorem boot (replica : Replica F fresh) :
    replica.command.getConfig F replica.environment =
        .ok replica.config ∧
      Booted F replica.config replica.node.world ∧
      F.maybeInitializeState replica.config fresh =
        .ok replica.node.world.database := by
  obtain ⟨config, configured, booted, initialization, _⟩ :=
    exec_booted replica.started
  have same : replica.config = config := booted.config_eq
  rw [same]
  exact ⟨configured, booted, initialization⟩

end Replica

/-- The settings that the operators of a chain agree on. -/
structure Peers {fresh : Database T} (left right : Replica F fresh) :
    Prop where
  chainConf : left.config.chainConf = right.config.chainConf
  utxoValidation :
    left.command.utxoValidation = right.command.utxoValidation
  minGasPrice : left.command.minGasPrice = right.command.minGasPrice

/-- Both instances answer the requests, and end in these worlds. -/
structure ServedByBoth (F : FuelCore T) (requests : List SharedRequest)
    (left right left' right' : World T) : Prop where
  left :
    Answered (serveRequest F) (requests.map SharedRequest.left) left left'
  right :
    Answered (serveRequest F) (requests.map SharedRequest.right)
      right right'

/-- After requests that both answer, the instances hold the same block at
every height and the same state. -/
def ReplicasAgree {fresh : Database T} (left right : Replica F fresh)
    (requests : List SharedRequest) : Prop :=
  ∀ left' right',
    ServedByBoth F requests left.node.world right.node.world left' right' →
      (∀ height,
        left'.database.getBlock height = right'.database.getBlock height) ∧
        left'.database.ledger = right'.database.ledger

/-- What two answered steps on one request preserve, two answered runs
preserve. -/
theorem ServedByBoth.lockstep
    (Related : World T → World T → Prop)
    {requests : List SharedRequest}
    (together :
      ∀ shared ∈ requests, ∀ left right answer answer' left' right',
        Related left right →
        Transition F shared.1 shared.2.2 left answer left' →
        Transition F shared.2.1 shared.2.2 right answer' right' →
          Related left' right')
    {left right left' right' : World T}
    (initially : Related left right)
    (served : ServedByBoth F requests left right left' right') :
    Related left' right' := by
  obtain ⟨leftServed, rightServed⟩ := served
  unfold Answered at leftServed rightServed
  rw [runAll_map] at leftServed rightServed
  refine runAll_lockstep ?_ initially leftServed rightServed
  intro shared member before before' answer answer' after after'
    related stepped stepped'
  exact together shared member _ _ _ _ _ _ related
    (serveRequest_ok.mp stepped) (serveRequest_ok.mp stepped')

/-! ## The heights agree whatever is local -/

def SameHeights (left right : Database T) : Prop :=
  ∀ height, left.Stores height ↔ right.Stores height

theorem Produced.stores_outcome_iff
    (laws : HeightLaws F) {now : Tai64} {height : Int64}
    {world : World T} (produced : Produced F now height world)
    (other : BlockHeight) :
    produced.outcome.database.Stores other ↔
      other = BlockHeight.ofRequest height ∨
        world.database.Stores other := by
  obtain ⟨_, _, stored⟩ := produced.height_spec laws
  rw [← stored]
  exact DbTransaction.stores_applyTo

theorem SameHeights.step
    (laws : HeightLaws F) {now now' : Tai64} {request : Request}
    {left right left' right' : World T} {answer answer' : Response}
    (same : SameHeights left.database right.database)
    (stepped : Transition F now request left answer left')
    (stepped' : Transition F now' request right answer' right') :
    SameHeights left'.database right'.database := by
  intro other
  rcases stepped.database_cases with
    ⟨noEndBlock, unchanged⟩ | ⟨height, produced, endBlock, reached⟩
  · rcases stepped'.database_cases with
      ⟨_, unchanged'⟩ | ⟨height', _, endBlock', _⟩
    · rw [unchanged, unchanged']
      exact same other
    · rw [endBlock'] at noEndBlock
      cases noEndBlock
  · rcases stepped'.database_cases with
      ⟨noEndBlock', _⟩ | ⟨height', produced', endBlock', reached'⟩
    · rw [endBlock] at noEndBlock'
      cases noEndBlock'
    · have sameHeight : height' = height := by
        rw [endBlock] at endBlock'
        cases endBlock'
        rfl
      subst sameHeight
      rw [reached, reached', produced.stores_outcome_iff laws,
        produced'.stores_outcome_iff laws, same other]

theorem Peers.sameHeights
    (genesis : GenesisLaws F) {fresh : Database T}
    (empty : ∀ height, ¬ fresh.Stores height)
    {left right : Replica F fresh} (peers : Peers left right) :
    SameHeights left.node.world.database right.node.world.database := by
  obtain ⟨_, _, leftInitialized⟩ := left.boot
  obtain ⟨_, _, rightInitialized⟩ := right.boot
  have leftCovers := Covers.genesis genesis empty leftInitialized
  have rightCovers := Covers.genesis genesis empty rightInitialized
  intro height
  rw [leftCovers.stores_iff, rightCovers.stores_iff, peers.chainConf]

/-! ## The stores agree when recipient and block times do -/

/-- Two instances in the same state, as far as their requests can tell. -/
structure InStep (F : FuelCore T) (left right : World T) : Prop where
  production :
    F.produceAndExecuteBlock left.app.producer =
      F.produceAndExecuteBlock right.app.producer
  chainConf : left.app.config.chainConf = right.app.config.chainConf
  txPool : left.app.txPool = right.app.txPool
  shared : left.toShared = right.toShared

theorem InStep.database {left right : World T}
    (inStep : InStep F left right) : left.database = right.database :=
  congrArg Shared.database inStep.shared

theorem InStep.pool {left right : World T}
    (inStep : InStep F left right) : left.pool = right.pool :=
  congrArg Shared.pool inStep.shared

/-- At the same time, the same stores give the same block. -/
theorem InStep.outcome
    {now : Tai64} {height : Int64} {left right : World T}
    (inStep : InStep F left right)
    (produced : Produced F now height left)
    (produced' : Produced F now height right) :
    produced.outcome.toShared = produced'.outcome.toShared := by
  have production := produced.production
  rw [inStep.production, inStep.shared, inStep.chainConf,
    produced'.production] at production
  have sameUncommitted :
      produced'.uncommitted = produced.uncommitted :=
    Except.ok.inj (Prod.mk.inj production).1
  have samePool : produced'.selectedPool = produced.selectedPool :=
    (Prod.mk.inj production).2
  rw [produced.outcome_toShared, produced'.outcome_toShared]
  unfold Produced.removal Produced.skipped
  rw [sameUncommitted, samePool, inStep.database]

/-- The same request leaves both in the same state, provided that they read
the same time for a block. -/
theorem InStep.step
    {shared : SharedRequest} {left right left' right' : World T}
    {answer answer' : Response}
    (inStep : InStep F left right)
    (sameTime : shared.SameBlockTime)
    (stepped : Transition F shared.1 shared.2.2 left answer left')
    (stepped' : Transition F shared.2.1 shared.2.2 right answer' right') :
    InStep F left' right' := by
  obtain ⟨now, now', request⟩ := shared
  obtain ⟨config, producer, txPool⟩ := stepped.app_eq
  obtain ⟨config', producer', txPool'⟩ := stepped'.app_eq
  have sameStores : left'.toShared = right'.toShared := by
    cases stepped with
    | info =>
        cases stepped' with
        | info => exact inStep.shared
        | unhandled default => cases default
    | deliverTx decoded insertion =>
        cases stepped' with
        | unhandled default => cases default
        | deliverTx decoded' insertion' =>
            rw [decoded] at decoded'
            cases decoded'
            rw [inStep.txPool, inStep.database, inStep.pool,
              insertion'] at insertion
            cases insertion
            change (⟨_, left.database⟩ : Shared T) = ⟨_, right.database⟩
            rw [inStep.database]
    | endBlock produced =>
        cases stepped' with
        | unhandled default => cases default
        | endBlock produced' =>
            have same : now = now' := sameTime rfl
            subst same
            exact inStep.outcome produced produced'
    | commit =>
        cases stepped' with
        | commit => exact inStep.shared
        | unhandled default => cases default
    | unhandled default =>
        cases stepped' with
        | unhandled => exact inStep.shared
        | _ => cases default
  exact
    { production := by rw [producer, producer', inStep.production]
      chainConf := by rw [config, config', inStep.chainConf]
      txPool := by rw [txPool, txPool', inStep.txPool]
      shared := sameStores }

theorem Peers.inStep
    (reads : GenesisReads F) (producer : ProducerReads F)
    {fresh : Database T} {left right : Replica F fresh}
    (peers : Peers left right)
    (sameRecipient : left.recipient = right.recipient) :
    InStep F left.node.world right.node.world := by
  obtain ⟨configured, booted, initialized⟩ := left.boot
  obtain ⟨configured', booted', initialized'⟩ := right.boot
  obtain ⟨_, validation, _, pool, producerValidation, _⟩ :=
    Command.getConfig_spec configured
  obtain ⟨_, validation', _, pool', producerValidation', _⟩ :=
    Command.getConfig_spec configured'
  have sameDatabase :
      left.node.world.database = right.node.world.database := by
    rw [reads.initialization fresh peers.chainConf,
      initialized'] at initialized
    exact (Except.ok.inj initialized).symm
  refine
    { production := ?_
      chainConf := peers.chainConf
      txPool := ?_
      shared := ?_ }
  · rw [booted.app, booted'.app]
    apply producer.sameInputs
    · change left.config.blockProducer.utxoValidation =
        right.config.blockProducer.utxoValidation
      rw [producerValidation, producerValidation', peers.utxoValidation]
    · exact sameRecipient
    · exact peers.chainConf
    · change left.config.utxoValidation = right.config.utxoValidation
      rw [validation, validation', peers.utxoValidation]
    · exact sameRecipient
    · rfl
  · rw [booted.app, booted'.app]
    change left.config.txpool = right.config.txpool
    rw [pool, pool', peers.chainConf, peers.minGasPrice,
      peers.utxoValidation]
  · change
      (⟨left.node.world.pool, left.node.world.database⟩ : Shared T) =
        ⟨right.node.world.pool, right.node.world.database⟩
    rw [booted.pool, booted'.pool, sameDatabase]

/-- An explicit fee recipient makes the consensus keys irrelevant. -/
theorem Replica.recipient_eq_of_flag
    {fresh : Database T} {left right : Replica F fresh}
    (address : String)
    (leftFlag : left.command.coinbaseRecipient = some address)
    (rightFlag : right.command.coinbaseRecipient = some address) :
    left.recipient = right.recipient := by
  obtain ⟨_, _, _, _, _, leftResolved⟩ :=
    Command.getConfig_spec left.boot.1
  obtain ⟨_, _, _, _, _, rightResolved⟩ :=
    Command.getConfig_spec right.boot.1
  rw [leftFlag, resolveCoinbaseRecipient_some] at leftResolved
  rw [rightFlag, resolveCoinbaseRecipient_some, leftResolved]
    at rightResolved
  exact Except.ok.inj rightResolved

/-- Two instances always hold blocks at the same heights.  They hold the same
blocks, the same state and the same pool when they pay the same recipient and
read the same time for each block. -/
theorem replicas_agree
    (genesis : GenesisLaws F) (reads : GenesisReads F)
    (heights : HeightLaws F) (producer : ProducerReads F)
    {fresh : Database T} (empty : ∀ height, ¬ fresh.Stores height)
    {left right : Replica F fresh} (peers : Peers left right)
    {requests : List SharedRequest} {left' right' : World T}
    (served :
      ServedByBoth F requests left.node.world right.node.world
        left' right') :
    SameHeights left'.database right'.database ∧
      (left.recipient = right.recipient →
        (∀ shared ∈ requests, shared.SameBlockTime) →
          left'.toShared = right'.toShared) := by
  constructor
  · refine
      served.lockstep
        (fun left right => SameHeights left.database right.database)
        ?_ (peers.sameHeights genesis empty)
    intro shared _ _ _ _ _ _ _ same stepped stepped'
    exact same.step heights stepped stepped'
  · intro sameRecipient sameTimes
    have inStep : InStep F left' right' := by
      refine
        served.lockstep (InStep F) ?_
          (peers.inStep reads producer sameRecipient)
      intro shared member _ _ _ _ _ _ related stepped stepped'
      exact related.step (sameTimes shared member) stepped stepped'
    exact inStep.shared

section TwoOperators

open LocalTestnet

/-- The instance with the default flags. -/
def defaultReplica : Replica core freshDatabase where
  environment := none
  command := command
  node := firstNode
  started := rfl

/-- The configuration of an instance with a key of its own. -/
def keyedCommand (recipient : Option String) : Command :=
  { command with
    consensusKey := some "key"
    coinbaseRecipient := recipient }

def keyedConfig (recipient : Nat) : Config types :=
  { config with
    blockProducer.coinbaseRecipient := recipient
    consensusKey := some 3 }

/-- A key of its own, and fees for the address of that key. -/
def keyedReplica : Replica core freshDatabase where
  environment := none
  command := keyedCommand none
  node := {
    world := bootWorld core (keyedConfig 103) genesisDatabase
    services := initSubServices (keyedConfig 103) }
  started := rfl

/-- A key of its own, but the fees go where the flag says. -/
def flaggedReplica : Replica core freshDatabase where
  environment := none
  command := keyedCommand (some "fees")
  node := {
    world := bootWorld core (keyedConfig 4) genesisDatabase
    services := initSubServices (keyedConfig 4) }
  started := rfl

/-- The default key, found in the environment, and the same flag. -/
def otherFlaggedReplica : Replica core freshDatabase where
  environment := some "a"
  command := { command with coinbaseRecipient := some "fees" }
  node := {
    world :=
      bootWorld core
        { config with blockProducer.coinbaseRecipient := 4 }
        genesisDatabase
    services :=
      initSubServices
        { config with blockProducer.coinbaseRecipient := 4 } }
  started := rfl

/-- Clocks that differ by one tick change the header of block 1, and another
consensus key changes its mint. -/
theorem replicas_diverge :
    ¬ ReplicasAgree defaultReplica defaultReplica [(1, 2, .endBlock 1)] ∧
      Peers defaultReplica keyedReplica ∧
      ¬ ReplicasAgree defaultReplica keyedReplica
        [(1, 1, .endBlock 1)] := by
  refine ⟨?_, ⟨rfl, rfl, rfl⟩, ?_⟩
  · intro agree
    have sameBlock := (agree _ _ ⟨⟨_, rfl⟩, ⟨_, rfl⟩⟩).1 1
    have sameTime :=
      congrArg (fun found => found.map fun block => block.header.time)
        sameBlock
    revert sameTime
    decide
  · intro agree
    have sameBlock := (agree _ _ ⟨⟨_, rfl⟩, ⟨_, rfl⟩⟩).1 1
    have sameMint :=
      congrArg (fun found => found.map Block.transactions) sameBlock
    revert sameMint
    decide

/-- One block with a transaction, at clocks that agree only for the block. -/
def sharedBlock : List SharedRequest :=
  [(1, 5, .beginBlock 1), (2, 6, .deliverTx [1, 1, 4, 7]),
    (7, 7, .endBlock 1), (8, 9, .commit)]

theorem replicas_agree_sharedBlock :
    ∃ left' right',
      ServedByBoth core sharedBlock flaggedReplica.node.world
          otherFlaggedReplica.node.world left' right' ∧
        left'.database.IsLatest 1 ∧
        left'.toShared = right'.toShared := by
  have served :
      ServedByBoth core sharedBlock flaggedReplica.node.world
        otherFlaggedReplica.node.world _ _ :=
    ⟨⟨_, rfl⟩, ⟨_, rfl⟩⟩
  refine ⟨_, _, served, by decide, ?_⟩
  have sameTimes : ∀ shared ∈ sharedBlock, shared.SameBlockTime := by
    intro shared member
    simp only [sharedBlock, List.mem_cons, List.not_mem_nil,
      or_false] at member
    rcases member with rfl | rfl | rfl | rfl
    all_goals
      intro ends
      first
        | rfl
        | cases ends
  have sameRecipient :
      flaggedReplica.recipient = otherFlaggedReplica.recipient :=
    Replica.recipient_eq_of_flag "fees" rfl rfl
  have peers : Peers flaggedReplica otherFlaggedReplica :=
    ⟨rfl, rfl, rfl⟩
  exact
    (replicas_agree core_genesisLaws core_genesisReads core_heightLaws
      core_producerReads freshDatabase_empty peers served).2
      sameRecipient sameTimes

end TwoOperators

end Fuelmint
