import Fuelmint.Service
import Mathlib.Data.List.Perm.Basic

/-!
# Documented behaviour of fuel-core

Each structure collects what one part of fuel-core is relied on for.  The
theorems about the application take the structures they need as hypotheses.
-/

namespace Fuelmint

variable {T : Types}

/-- `maybe_initialize_state` stores a genesis block at the height of the chain
configuration exactly when the database has no block. -/
structure GenesisLaws (F : FuelCore T) : Prop where
  fresh :
    ∀ {config : Config T} {database initialized : Database T},
      (∀ height, ¬ database.Stores height) →
      F.maybeInitializeState config database = .ok initialized →
        ∃ genesis : Block T,
          genesis.header.height = config.chainConf.genesisHeight ∧
            genesis.header.daHeight = 0 ∧
            F.userTransactions genesis = [] ∧
            ∀ height,
              initialized.getBlock height =
                if height = config.chainConf.genesisHeight then
                  some genesis
                else
                  none
  existing :
    ∀ (config : Config T) {database : Database T} {height : BlockHeight},
      database.Stores height →
        F.maybeInitializeState config database = .ok database

theorem GenesisLaws.stores_genesis {F : FuelCore T}
    (genesis : GenesisLaws F) {config : Config T}
    {fresh initialized : Database T}
    (empty : ∀ height, ¬ fresh.Stores height)
    (initialization :
      F.maybeInitializeState config fresh = .ok initialized) :
    initialized.Stores config.chainConf.genesisHeight := by
  obtain ⟨first, _, _, _, blocks⟩ := genesis.fresh empty initialization
  have found := blocks config.chainConf.genesisHeight
  rw [if_pos rfl] at found
  exact Database.stores_of_getBlock found

/-- A restart on a database with a block always succeeds: the configuration
comes out as before and the database is kept as it is. -/
theorem restart_of_stores {F : FuelCore T}
    (genesis : GenesisLaws F) {environment : Option String}
    {command : Command} {config : Config T}
    (configured : command.getConfig F environment = .ok config)
    {left : World T} {height : BlockHeight}
    (stored : left.database.Stores height) :
    restart F environment command left =
      .serving (bootWorld F config left.database) := by
  have started :
      exec F environment command left.database =
        .ok {
          world := bootWorld F config left.database
          services := initSubServices config } :=
    exec_ok.mpr
      ⟨config, left.database, configured,
        genesis.existing config stored, rfl⟩
  simp only [restart, started]

/-- The producer reserves height 0 for genesis, needs a block at the height
before, and produces a block of the height asked for. -/
structure HeightLaws (F : FuelCore T) : Prop where
  produced :
    ∀ {producer : Producer T} {shared : Shared T} {now : Tai64}
      {height : BlockHeight} {blockTime : Option Tai64}
      {maxGas : UInt64} {uncommitted : UncommittedResult T}
      {rest : T.Pool},
      F.produceAndExecuteBlock producer shared now height blockTime
          maxGas = (.ok uncommitted, rest) →
        height ≠ 0 ∧ shared.database.Stores (height - 1) ∧
          uncommitted.dbTransaction.block.header.height = height

/-- The producer asks its relayer for at least the DA height of the block
before, and stores the answer unless it is lower.  `lowDaHeight` is its error
for that: no answer of the relayer would have been high enough. -/
structure RelayerLaws (F : FuelCore T)
    (lowDaHeight : (answer asked : DaBlockHeight) → String) : Prop where
  produced :
    ∀ {producer : Producer T} {shared : Shared T} {now : Tai64}
      {height : BlockHeight} {blockTime : Option Tai64}
      {maxGas : UInt64} {uncommitted : UncommittedResult T}
      {rest : T.Pool} {previous : Block T},
      F.produceAndExecuteBlock producer shared now height blockTime
          maxGas = (.ok uncommitted, rest) →
      shared.database.getBlock (height - 1) = some previous →
        producer.relayer previous.header.daHeight =
            .ok uncommitted.dbTransaction.block.header.daHeight ∧
          previous.header.daHeight ≤
            uncommitted.dbTransaction.block.header.daHeight
  refused :
    ∀ {producer : Producer T} {shared : Shared T} {now : Tai64}
      {height : BlockHeight} {blockTime : Option Tai64}
      {maxGas : UInt64} {answer asked : DaBlockHeight} {rest : T.Pool},
      F.produceAndExecuteBlock producer shared now height blockTime
          maxGas = (.error (lowDaHeight answer asked), rest) →
        ∃ previous,
          shared.database.getBlock (height - 1) = some previous ∧
            ∀ best, producer.relayer previous.header.daHeight = .ok best →
              best < previous.header.daHeight

/-- The producer has no other error than those of its checks of the height and
of the DA height, and the ones of the executor. -/
structure ProductionLaws (F : FuelCore T) (executorFails : String → Bool) :
    Prop where
  refused :
    ∀ {producer : Producer T} {shared : Shared T} {now : Tai64}
      {height : BlockHeight} {blockTime : Option Tai64}
      {maxGas : UInt64} {message : String} {rest : T.Pool},
      F.produceAndExecuteBlock producer shared now height blockTime
          maxGas = (.error message, rest) →
        height = 0 ∨ ¬ shared.database.Stores (height - 1) ∨
          (∃ previous,
            shared.database.getBlock (height - 1) = some previous ∧
              ∀ best, producer.relayer previous.header.daHeight = .ok best →
                best < previous.header.daHeight) ∨
          executorFails message = true

/-- The pool holds a bag of transactions.  An insertion brings in one and no
other, a refused insertion changes nothing, and a removal brings in nothing.
All of them may take out more than they report. -/
structure PoolLaws (F : FuelCore T) : Prop where
  empty : F.contents F.emptyPool = []
  inserted :
    ∀ {config : TxPoolConfig T} {database : Database T}
      {pool next : T.Pool} {tx : T.Tx} {insertion : InsertionResult T},
      F.insert config database pool tx = (.ok insertion, next) →
        (F.contents next : Multiset T.Tx) ≤ F.contents pool + {tx}
  refused :
    ∀ {config : TxPoolConfig T} {database : Database T}
      {pool next : T.Pool} {tx : T.Tx} {message : String},
      F.insert config database pool tx = (.error message, next) →
        next = pool
  removed :
    ∀ (pool : T.Pool) (ids : List T.TxId),
      (F.contents (F.removeTxs pool ids).2 : Multiset T.Tx) ≤
        F.contents pool

/-- `remove_txs` leaves no transaction with one of the given ids. -/
structure RemovalLaws (F : FuelCore T) : Prop where
  removed :
    ∀ (pool : T.Pool) (ids : List T.TxId) {tx : T.Tx},
      tx ∈ F.contents (F.removeTxs pool ids).2 → F.id tx ∉ ids

/-- The transactions selected for a block leave the pool.  Others may leave
with them: those that depend on a selected one and are not selected. -/
structure SelectionLaws (F : FuelCore T) : Prop where
  selected :
    ∀ (pool : T.Pool) (maxGas : UInt64),
      ((F.selectTransactions pool maxGas).1 : Multiset T.Tx) +
          F.contents (F.selectTransactions pool maxGas).2 ≤
        F.contents pool

/-- A selection goes by decreasing gas price. -/
structure PriceOrderLaws (F : FuelCore T) : Prop where
  byPrice :
    ∀ (pool : T.Pool) (maxGas : UInt64),
      (F.selectTransactions pool maxGas).1.Pairwise
        fun earlier later => F.gasPrice later ≤ F.gasPrice earlier

/-- A selection puts a transaction after those of the pool it depends on. -/
structure DependencyOrderLaws (F : FuelCore T) : Prop where
  afterDependencies :
    ∀ {pool : T.Pool} {maxGas : UInt64} {tx dependency : T.Tx},
      tx ∈ (F.selectTransactions pool maxGas).1 →
      dependency ∈ F.contents pool →
      F.dependsOn tx dependency = true →
        [dependency, tx].Sublist (F.selectTransactions pool maxGas).1

/-- The executor includes or skips each transaction that was selected.  The
pool is left as the selection leaves it. -/
structure ExecutionLaws (F : FuelCore T) : Prop where
  produced :
    ∀ {producer : Producer T} {shared : Shared T} {now : Tai64}
      {height : BlockHeight} {blockTime : Option Tai64}
      {maxGas : UInt64} {uncommitted : UncommittedResult T}
      {rest : T.Pool},
      F.produceAndExecuteBlock producer shared now height blockTime
          maxGas = (.ok uncommitted, rest) →
        rest = (F.selectTransactions shared.pool maxGas).2 ∧
          (F.userTransactions uncommitted.dbTransaction.block ++
              uncommitted.result.skippedTransactions.map Prod.fst).Perm
            (F.selectTransactions shared.pool maxGas).1

/-- The executor runs the selection in its order. -/
structure ExecutionOrderLaws (F : FuelCore T) : Prop where
  inOrder :
    ∀ {producer : Producer T} {shared : Shared T} {now : Tai64}
      {height : BlockHeight} {blockTime : Option Tai64}
      {maxGas : UInt64} {uncommitted : UncommittedResult T}
      {rest : T.Pool},
      F.produceAndExecuteBlock producer shared now height blockTime
          maxGas = (.ok uncommitted, rest) →
        (F.userTransactions uncommitted.dbTransaction.block).Sublist
          (F.selectTransactions shared.pool maxGas).1

/-- A production that fails puts nothing into the pool.  It may have selected
before it failed. -/
structure FailedProductionLaws (F : FuelCore T) : Prop where
  failed :
    ∀ {producer : Producer T} {shared : Shared T} {now : Tai64}
      {height : BlockHeight} {blockTime : Option Tai64}
      {maxGas : UInt64} {message : String} {rest : T.Pool},
      F.produceAndExecuteBlock producer shared now height blockTime
          maxGas = (.error message, rest) →
        (F.contents rest : Multiset T.Tx) ≤ F.contents shared.pool

/-- What a block includes, what it skips and what it leaves in the pool was in
the pool. -/
theorem production_le {F : FuelCore T}
    (selection : SelectionLaws F) (execution : ExecutionLaws F)
    {producer : Producer T} {shared : Shared T} {now : Tai64}
    {height : BlockHeight} {blockTime : Option Tai64}
    {maxGas : UInt64} {uncommitted : UncommittedResult T} {rest : T.Pool}
    (produced :
      F.produceAndExecuteBlock producer shared now height blockTime
        maxGas = (.ok uncommitted, rest)) :
    (F.userTransactions uncommitted.dbTransaction.block :
          Multiset T.Tx) +
        (uncommitted.result.skippedTransactions.map Prod.fst :
          List T.Tx) +
        F.contents rest ≤
      F.contents shared.pool := by
  obtain ⟨left, executed⟩ := execution.produced produced
  have ran :
      (F.userTransactions uncommitted.dbTransaction.block :
            Multiset T.Tx) +
          (uncommitted.result.skippedTransactions.map Prod.fst :
            List T.Tx) =
        (F.selectTransactions shared.pool maxGas).1 :=
    Multiset.coe_eq_coe.mpr executed
  rw [ran, left]
  exact selection.selected shared.pool maxGas

/-- Dry runs and the debugger work on a fork they never commit, a consensus
module built from nothing refuses to produce, the block mutation produces only
through the consensus module, and a disabled gossip service is silent. -/
structure GraphQLLaws (F : FuelCore T) : Prop where
  dryRun :
    ∀ (producer : Producer T) (shared : Shared T) (tx : T.Tx)
      (height : Option BlockHeight) (utxoValidation : Option Bool),
      (F.dryRunTx producer shared tx height utxoValidation).2 = shared
  debugger :
    ∀ (context : GraphQLContext T) (shared : Shared T)
      (sessions : T.DapSessions) (request : T.DapRequest),
      (F.dapMutation context shared sessions request).2 = shared
  refuses :
    ∀ (shared : Shared T) (start : Option Tai64) (count : UInt64),
      ∃ message,
        F.manuallyProduceBlocks (PoAAdapter.new none) shared start
            count =
          (.error message, shared)
  producesThroughConsensus :
    ∀ (context : GraphQLContext T) (shared : Shared T)
      (start : Option Tai64) (count : UInt64),
      (F.manuallyProduceBlocks context.consensusModule shared start
          count).2 = shared →
        (F.produceBlocks context shared start count).2 = shared
  silent : ∀ poll, F.gossip P2PAdapter.new poll = []

/-- The initialisation reads the chain configuration only. -/
structure GenesisReads (F : FuelCore T) : Prop where
  initialization :
    ∀ {left right : Config T} (database : Database T),
      left.chainConf = right.chainConf →
        F.maybeInitializeState left database =
          F.maybeInitializeState right database

/-- Producer and executor read the chain configuration, the validation flag
and the fee recipient; the rest is in the shared stores and the clock. -/
structure ProducerReads (F : FuelCore T) : Prop where
  sameInputs :
    ∀ {left right : Producer T},
      left.config.utxoValidation = right.config.utxoValidation →
      left.config.coinbaseRecipient = right.config.coinbaseRecipient →
      left.executor.config.chainConf = right.executor.config.chainConf →
      left.executor.config.utxoValidation =
          right.executor.config.utxoValidation →
      left.executor.config.blockProducer.coinbaseRecipient =
          right.executor.config.blockProducer.coinbaseRecipient →
      left.relayer = right.relayer →
        F.produceAndExecuteBlock left = F.produceAndExecuteBlock right

end Fuelmint
