import Fuelmint.Primitives

/-!
# What the application uses of fuel-core

Everything in this module lives in crates the repository depends on.  The
types and operations are parameters of the development; only the records the
repository itself fills in or takes apart are spelled out.
-/

namespace Fuelmint

/-- Types of fuel-core that the application handles without looking inside. -/
structure Types where
  /-- Transactions, up to the fields that only execution fills in. -/
  Tx : Type
  TxId : Type
  /-- The transaction pool behind its mutex. -/
  Pool : Type
  /-- Everything the database holds besides the blocks: coins, contracts. -/
  Ledger : Type
  /-- The Merkle roots of a block header. -/
  Roots : Type
  Address : Type
  SecretKey : Type
  /-- The chain configuration apart from the fields read here. -/
  ConsensusParameters : Type
  Receipt : Type
  /-- The debugger mutations of the reused GraphQL schema. -/
  DapRequest : Type
  DapSessions : Type

/-! ## Blocks and the database -/

structure Header (T : Types) where
  height : BlockHeight
  time : Tai64
  daHeight : DaBlockHeight
  roots : T.Roots

structure Block (T : Types) where
  header : Header T
  transactions : List T.Tx

/-- The stored blocks by height, and the rest of the chain state. -/
structure Database (T : Types) where
  blocks : List (BlockHeight × Block T)
  ledger : T.Ledger

namespace Database

variable {T : Types}

def getBlock (database : Database T) (height : BlockHeight) :
    Option (Block T) :=
  database.blocks.lookup height

/-- Store a block under its own height, in place of any earlier one. -/
def store (database : Database T) (block : Block T) : Database T :=
  { database with
    blocks :=
      (block.header.height, block) ::
        database.blocks.filter fun entry =>
          entry.1 != block.header.height }

private theorem lookup_filter_ne {Value : Type}
    {height other : BlockHeight} (different : other ≠ height)
    (entries : List (BlockHeight × Value)) :
    (entries.filter fun entry => entry.1 != height).lookup other =
      entries.lookup other := by
  induction entries with
  | nil =>
      rfl
  | cons entry rest inductionHypothesis =>
      obtain ⟨key, value⟩ := entry
      by_cases same : key = height
      · subst key
        have skipped : (other == height) = false := by
          simpa using different
        simp [List.lookup_cons, skipped, inductionHypothesis]
      · simp [same, List.lookup_cons, inductionHypothesis]

@[simp]
theorem getBlock_store
    (database : Database T) (block : Block T) (height : BlockHeight) :
    (database.store block).getBlock height =
      if height = block.header.height then
        some block
      else
        database.getBlock height := by
  unfold getBlock store
  by_cases same : height = block.header.height
  · simp [same]
  · have missed : (height == block.header.height) = false := by
      simpa using same
    simp only [List.lookup_cons, missed, if_neg same]
    exact lookup_filter_ne same database.blocks

/-- A block is stored under this height. -/
def Stores (database : Database T) (height : BlockHeight) : Prop :=
  (database.getBlock height).isSome

instance (database : Database T) (height : BlockHeight) :
    Decidable (database.Stores height) :=
  inferInstanceAs
    (Decidable ((database.getBlock height).isSome = true))

theorem stores_of_getBlock
    {database : Database T} {height : BlockHeight} {block : Block T}
    (found : database.getBlock height = some block) :
    database.Stores height :=
  Option.isSome_iff_exists.mpr ⟨block, found⟩

theorem stores_store
    {database : Database T} {block : Block T} {height : BlockHeight} :
    (database.store block).Stores height ↔
      height = block.header.height ∨ database.Stores height := by
  unfold Stores
  rw [getBlock_store]
  by_cases same : height = block.header.height
  · simp [same]
  · simp [same]

/-- The height of the latest stored block. -/
def IsLatest (database : Database T) (height : BlockHeight) : Prop :=
  database.Stores height ∧
    ∀ other, database.Stores other → other ≤ height

theorem stores_iff_mem
    {database : Database T} {height : BlockHeight} :
    database.Stores height ↔
      ∃ entry ∈ database.blocks, entry.1 = height := by
  unfold Stores getBlock
  induction database.blocks with
  | nil =>
      simp
  | cons entry rest inductionHypothesis =>
      obtain ⟨key, block⟩ := entry
      by_cases same : height = key
      · simp [same]
      · have missed : (height == key) = false := by
          simpa using same
        simp only [List.lookup_cons, missed, inductionHypothesis,
          List.mem_cons, exists_eq_or_imp, Ne.symm same, false_or]

theorem isLatest_iff
    {database : Database T} {height : BlockHeight} :
    database.IsLatest height ↔
      database.Stores height ∧
        ∀ entry ∈ database.blocks, entry.1 ≤ height := by
  refine and_congr_right fun _ => ?_
  constructor
  · intro upper entry member
    exact upper entry.1 (stores_iff_mem.mpr ⟨entry, member, rfl⟩)
  · intro upper other stored
    obtain ⟨entry, member, rfl⟩ := stores_iff_mem.mp stored
    exact upper entry member

instance (database : Database T) (height : BlockHeight) :
    Decidable (database.IsLatest height) :=
  decidable_of_iff _ isLatest_iff.symm

end Database

/-- The changes of one block that are not committed yet. -/
structure DbTransaction (T : Types) where
  block : Block T
  ledger : T.Ledger

/-- Write the changes: the new block and the ledger it leads to. -/
def DbTransaction.applyTo {T : Types}
    (transaction : DbTransaction T) (database : Database T) : Database T :=
  { database.store transaction.block with
    ledger := transaction.ledger }

@[simp]
theorem DbTransaction.getBlock_applyTo {T : Types}
    (transaction : DbTransaction T) (database : Database T)
    (height : BlockHeight) :
    (transaction.applyTo database).getBlock height =
      if height = transaction.block.header.height then
        some transaction.block
      else
        database.getBlock height :=
  database.getBlock_store transaction.block height

theorem DbTransaction.stores_applyTo {T : Types}
    {transaction : DbTransaction T} {database : Database T}
    {height : BlockHeight} :
    (transaction.applyTo database).Stores height ↔
      height = transaction.block.header.height ∨
        database.Stores height :=
  Database.stores_store

/-! ## Configuration records -/

structure StateConfig where
  height : Option BlockHeight
  deriving DecidableEq

structure ChainConfig (T : Types) where
  initialState : Option StateConfig
  blockGasLimit : UInt64
  parameters : T.ConsensusParameters

/-- The height at which the chain configuration places its genesis block. -/
def ChainConfig.genesisHeight {T : Types}
    (chainConf : ChainConfig T) : BlockHeight :=
  (chainConf.initialState.bind StateConfig.height).getD 0

/-- When the node produces blocks by itself. -/
inductive Trigger where
  | instant
  | never
  deriving DecidableEq

structure VMConfig where
  backtrace : Bool
  deriving DecidableEq

structure TxPoolConfig (T : Types) where
  chainConfig : ChainConfig T
  minGasPrice : UInt64
  utxoValidation : Bool

structure ProducerConfig (T : Types) where
  utxoValidation : Bool
  coinbaseRecipient : T.Address
  metrics : Bool

structure Config (T : Types) where
  chainConf : ChainConfig T
  utxoValidation : Bool
  manualBlocksEnabled : Bool
  blockProduction : Trigger
  vm : VMConfig
  txpool : TxPoolConfig T
  blockProducer : ProducerConfig T
  consensusKey : Option T.SecretKey

/-! ## The services the application is wired to -/

/-- `wait_for_at_least` of the relayer trait. -/
abbrev RelayerTrait := DaBlockHeight → Except String DaBlockHeight

structure ExecutorAdapter (T : Types) where
  config : Config T

structure Producer (T : Types) where
  config : ProducerConfig T
  executor : ExecutorAdapter T
  relayer : RelayerTrait

/-- The consensus module of the GraphQL service. -/
structure PoAAdapter where
  sharedState : Option Unit
  deriving DecidableEq

def PoAAdapter.new (sharedState : Option Unit) : PoAAdapter where
  sharedState := sharedState

/-- The gossip side of the pool, built with or without the p2p feature. -/
inductive P2PAdapter where
  | disabled
  | service
  deriving DecidableEq

/-- `P2PAdapter::new` of a build without the p2p feature. -/
def P2PAdapter.new : P2PAdapter := .disabled

/-- The two stores that ABCI and GraphQL share. -/
structure Shared (T : Types) where
  pool : T.Pool
  database : Database T

/-- What the GraphQL service was built with. -/
structure GraphQLContext (T : Types) where
  manualBlocksEnabled : Bool
  utxoValidation : Bool
  producer : Producer T
  consensusModule : PoAAdapter

/-! ## Operations -/

structure InsertionResult (T : Types) where
  inserted : T.Tx
  removed : List T.Tx

structure ExecutionResult (T : Types) where
  skippedTransactions : List (T.Tx × String)

structure UncommittedResult (T : Types) where
  result : ExecutionResult T
  dbTransaction : DbTransaction T

structure TransactionApi (T : Types) where
  fromBytes : Bytes → Option T.Tx
  toJson : T.Tx → Bytes
  id : T.Tx → T.TxId
  isMint : T.Tx → Bool
  gasPrice : T.Tx → Nat
  /-- The first transaction spends an output of the second. -/
  dependsOn : T.Tx → T.Tx → Bool

structure TxPoolApi (T : Types) where
  emptyPool : T.Pool
  contents : T.Pool → List T.Tx
  /-- `insert` of a single transaction: its one result, and the pool after. -/
  insert :
    TxPoolConfig T → Database T → T.Pool → T.Tx →
      Except String (InsertionResult T) × T.Pool
  /-- What the producer is given for a block of so much gas, and the pool
  after. -/
  selectTransactions : T.Pool → (maxGas : UInt64) → List T.Tx × T.Pool
  removeTxs : T.Pool → List T.TxId → List T.Tx × T.Pool

structure ProducerApi (T : Types) where
  /-- The producer reads the shared stores and the local clock.  It selects
  from the pool, so the pool after the call comes with the result. -/
  produceAndExecuteBlock :
    Producer T → Shared T → (now : Tai64) →
      (height : BlockHeight) → (blockTime : Option Tai64) →
        (maxGas : UInt64) →
          Except String (UncommittedResult T) × T.Pool
  /-- The error, if any, with which writing the changes fails. -/
  commitError : Database T → DbTransaction T → Option String
  maybeInitializeState :
    Config T → Database T → Except String (Database T)

structure ConfigApi (T : Types) where
  parseChainConfig : String → Except String (ChainConfig T)
  parseAddress : String → Except String T.Address
  parseSecretKey : String → Except String T.SecretKey
  defaultConsensusDevKey : T.SecretKey
  defaultSecretKey : T.SecretKey
  publicKeyHash : T.SecretKey → T.Address

structure GraphQLApi (T : Types) where
  dryRunTx :
    Producer T → Shared T → T.Tx → Option BlockHeight → Option Bool →
      Except String (List T.Receipt) × Shared T
  dapMutation :
    GraphQLContext T → Shared T → T.DapSessions → T.DapRequest →
      T.DapSessions × Shared T
  manuallyProduceBlocks :
    PoAAdapter → Shared T → Option Tai64 → UInt64 →
      Except String Unit × Shared T
  produceBlocks :
    GraphQLContext T → Shared T → Option Tai64 → UInt64 →
      Except String UInt64 × Shared T
  /-- Transactions that arrive by gossip at the n-th poll. -/
  gossip : P2PAdapter → Nat → List T.Tx

/-- All of fuel-core that the repository calls. -/
structure FuelCore (T : Types) extends
  TransactionApi T, TxPoolApi T, ProducerApi T, ConfigApi T, GraphQLApi T

namespace FuelCore

variable {T : Types} (F : FuelCore T)

/-- The transactions of a block that users sent: all but the mints. -/
def userTransactions (block : Block T) : List T.Tx :=
  block.transactions.filter fun tx => !F.isMint tx

/-- `db_transaction.commit()`. -/
def commitTransaction (database : Database T)
    (transaction : DbTransaction T) : Except String (Database T) :=
  match F.commitError database transaction with
  | some failure => .error failure
  | none => .ok (transaction.applyTo database)

end FuelCore

end Fuelmint
