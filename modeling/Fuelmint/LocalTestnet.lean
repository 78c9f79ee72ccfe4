import Fuelmint.Assumptions
import Mathlib.Data.List.Sort

/-!
# A small executable fuel-core

Transactions spend coins, the pool lists them, the producer selects by gas
price as far as the gas goes and the executor skips what cannot run.  Like the
crate, the chain takes no transaction id twice, the mint of a block included.
The theorems about runs are applied to this instance.
-/

namespace Fuelmint.LocalTestnet

/-- What an id is the hash of: the data of a transfer, here its number, or the
fields of a mint. -/
inductive TransferId where
  | transfer (number : Nat)
  | mint (height recipient amount : Nat)
  deriving DecidableEq

/-- A coin of the chain configuration, or the output of a transaction. -/
inductive Coin where
  | genesis (number : Nat)
  | output (id : TransferId)
  deriving DecidableEq

/-- A transaction spends coins and has one output. -/
structure Transfer where
  id : TransferId
  gasPrice : Nat
  gas : Nat
  spends : List Coin
  deriving DecidableEq

/-- The coins spent and the ids used up to now. -/
structure Ledger where
  spent : List Coin
  used : List TransferId
  deriving DecidableEq

@[reducible]
def types : Types where
  Tx := Transfer
  TxId := TransferId
  Pool := List Transfer
  Ledger := Ledger
  Roots := Unit
  Address := Nat
  SecretKey := Nat
  ConsensusParameters := Unit
  Receipt := Transfer
  DapRequest := Unit
  DapSessions := Nat

/-- The coin exists and is not spent. -/
def Ledger.unspent (ledger : Ledger) (coin : Coin) : Bool :=
  !ledger.spent.contains coin &&
    match coin with
    | .genesis _ => true
    | .output id => ledger.used.contains id

def Ledger.run (ledger : Ledger) (tx : Transfer) : Ledger where
  spent := tx.spends ++ ledger.spent
  used := tx.id :: ledger.used

/-! ## Transactions -/

def isMint (tx : Transfer) : Bool :=
  match tx.id with
  | .mint .. => true
  | .transfer _ => false

def dependsOn (tx dependency : Transfer) : Bool :=
  tx.spends.contains (.output dependency.id)

def sharesInput (left right : Transfer) : Bool :=
  left.spends.any fun coin => right.spends.contains coin

/-- Numbers below 128 name the coins of the chain configuration, the others
the outputs of the transfers. -/
def coinOf (number : Nat) : Coin :=
  if number < 128 then
    .genesis number
  else
    .output (.transfer (number - 128))

/-- A transfer that spends one coin. -/
def transfer (number gasPrice gas coin : Nat) : Transfer where
  id := .transfer number
  gasPrice := gasPrice
  gas := gas
  spends := [coinOf coin]

/-- The mint that pays the fees of the block. -/
def coinbase (recipient height amount : Nat) : Transfer where
  id := .mint height recipient amount
  gasPrice := 0
  gas := 0
  spends := []

/-- Number, gas price, gas and the coin to spend, one byte each. -/
def fromBytes : Bytes → Option Transfer
  | [number, gasPrice, gas, coin] =>
      some (transfer number.toNat gasPrice.toNat gas.toNat coin.toNat)
  | _ => none

def toJson (tx : Transfer) : Bytes :=
  match tx.id with
  | .transfer number => [UInt8.ofNat number]
  | .mint height recipient amount =>
      [UInt8.ofNat height, UInt8.ofNat recipient, UInt8.ofNat amount]

/-! ## The pool -/

/-- The transactions that leave the pool and those that stay.  With a
transaction leave those that spend its output; the pool lists them later. -/
def purge (leaves : Transfer → Bool) (gone : List Coin) :
    List Transfer → List Transfer × List Transfer
  | [] => ([], [])
  | tx :: rest =>
      if leaves tx || tx.spends.any fun coin => gone.contains coin then
        let (removed, kept) := purge leaves (.output tx.id :: gone) rest
        (tx :: removed, kept)
      else
        let (removed, kept) := purge leaves gone rest
        (removed, tx :: kept)

/-- The coin is there to be spent: in the pool, or in the database. -/
def spendable (database : Database types) (pool : List Transfer)
    (coin : Coin) : Bool :=
  (pool.any fun pooled => coin == .output pooled.id) ||
    database.ledger.unspent coin

/-- A transaction evicts those that spend the same coin at no higher price,
and what depends on them. -/
def insert (config : TxPoolConfig types) (database : Database types)
    (pool : List Transfer) (tx : Transfer) :
    Except String (InsertionResult types) × List Transfer :=
  if isMint tx then
    (.error "mint transactions are not supported", pool)
  else if config.chainConfig.blockGasLimit.toNat < tx.gas then
    (.error "the gas is above the limit of a block", pool)
  else if tx.gasPrice < config.minGasPrice.toNat then
    (.error "the gas price is too low", pool)
  else if pool.any fun pooled => pooled.id == tx.id then
    (.error "the transaction is already in the pool", pool)
  else if config.utxoValidation &&
      tx.spends.any fun coin => !spendable database pool coin then
    (.error "an input is spent or unknown", pool)
  else if pool.any fun pooled =>
      sharesInput tx pooled && decide (tx.gasPrice < pooled.gasPrice) then
    (.error "an input is taken at a higher price", pool)
  else
    let (removed, kept) := purge (sharesInput tx) [] pool
    (.ok { inserted := tx, removed := removed }, kept ++ [tx])

def removeTxs (pool : List Transfer) (ids : List TransferId) :
    List Transfer × List Transfer :=
  purge (fun tx => ids.contains tx.id) [] pool

def byGasPrice (left right : Transfer) : Prop :=
  right.gasPrice ≤ left.gasPrice

instance : DecidableRel byGasPrice := fun left right =>
  inferInstanceAs (Decidable (right.gasPrice ≤ left.gasPrice))

/-- Take what fits the gas that is left, and pass over the others. -/
def takeGas (budget : Nat) : List Transfer → List Transfer
  | [] => []
  | tx :: rest =>
      if tx.gas ≤ budget then
        tx :: takeGas (budget - tx.gas) rest
      else
        takeGas budget rest

/-- The rest of the pool after a selection. -/
def leaveOut (selected pool : List Transfer) : List Transfer :=
  (purge (fun tx => selected.contains tx) [] pool).2

def selectTransactions (pool : List Transfer) (maxGas : UInt64) :
    List Transfer × List Transfer :=
  let selected := takeGas maxGas.toNat (pool.insertionSort byGasPrice)
  (selected, leaveOut selected pool)

/-! ## The producer -/

/-- What the executor includes rather than skips. -/
def runnable (utxoValidation : Bool) (ledger : Ledger)
    (tx : Transfer) : Bool :=
  !isMint tx && !ledger.used.contains tx.id &&
    (!utxoValidation || tx.spends.all ledger.unspent)

/-- Included and skipped transactions, and the ledger after them. -/
def execute (utxoValidation : Bool) (ledger : Ledger) :
    List Transfer →
      List Transfer × List (Transfer × String) × Ledger
  | [] => ([], [], ledger)
  | tx :: rest =>
      if runnable utxoValidation ledger tx then
        let (included, skipped, after) :=
          execute utxoValidation (ledger.run tx) rest
        (tx :: included, skipped, after)
      else
        let (included, skipped, after) :=
          execute utxoValidation ledger rest
        (included, (tx, "the transaction cannot run") :: skipped, after)

def fees (included : List Transfer) : Nat :=
  (included.map fun tx => tx.gasPrice * tx.gas).sum

def newHeader (producer : Producer types) (database : Database types)
    (height : BlockHeight) (time : Tai64) :
    Except String (Header types) :=
  if height = 0 then
    .error "height 0 is reserved for genesis"
  else
    match database.getBlock (height - 1) with
    | none => .error "the previous block is missing"
    | some previous =>
        match producer.relayer previous.header.daHeight with
        | .error message => .error message
        | .ok daHeight =>
            if daHeight < previous.header.daHeight then
              .error "the DA height went down"
            else
              .ok {
                height := height
                time := time
                daHeight := daHeight
                roots := () }

/-- Run the selected transactions and the mint of their fees. -/
def executeBlock (config : Config types) (ledger : Ledger)
    (header : Header types) (selected : List Transfer) :
    Except String (UncommittedResult types) :=
  let (included, skipped, after) :=
    execute config.utxoValidation ledger selected
  let mint :=
    coinbase config.blockProducer.coinbaseRecipient header.height.toNat
      (fees included)
  if after.used.contains mint.id then
    .error "the transaction id was already used"
  else
    .ok {
      result := { skippedTransactions := skipped }
      dbTransaction := {
        block := { header := header, transactions := mint :: included }
        ledger := after.run mint } }

/-- The pool is asked first, so a failure has selected as well. -/
def produceAndExecuteBlock
    (select : List Transfer → UInt64 → List Transfer × List Transfer)
    (producer : Producer types) (shared : Shared types) (now : Tai64)
    (height : BlockHeight) (blockTime : Option Tai64)
    (maxGas : UInt64) :
    Except String (UncommittedResult types) × List Transfer :=
  let (selected, rest) := select shared.pool maxGas
  (do
    let header ←
      newHeader producer shared.database height (blockTime.getD now)
    executeBlock producer.executor.config shared.database.ledger header
      selected,
    rest)

def maybeInitializeState (config : Config types)
    (database : Database types) : Except String (Database types) :=
  match database.blocks with
  | [] =>
      .ok (database.store {
        header := {
          height := config.chainConf.genesisHeight
          time := 0
          daHeight := 0
          roots := () }
        transactions := [] })
  | _ :: _ => .ok database

/-! ## GraphQL -/

def manuallyProduceBlocks (consensusModule : PoAAdapter)
    (shared : Shared types) (_start : Option Tai64) (_count : UInt64) :
    Except String Unit × Shared types :=
  match consensusModule.sharedState with
  | none => (.error "unable to produce blocks manually", shared)
  | some () => (.ok (), shared)

def produceBlocks (context : GraphQLContext types)
    (shared : Shared types) (start : Option Tai64) (count : UInt64) :
    Except String UInt64 × Shared types :=
  if context.manualBlocksEnabled then
    let (result, shared) :=
      manuallyProduceBlocks context.consensusModule shared start count
    (result.map fun _ => count, shared)
  else
    (.error "manual blocks must be enabled", shared)

/-- Chain configurations by name. -/
def parseChainConfig :
    String → Except String (ChainConfig types)
  | "local_testnet" =>
      .ok {
        initialState := none
        blockGasLimit := 10
        parameters := () }
  | "snapshot" =>
      .ok {
        initialState := some { height := some 7 }
        blockGasLimit := 10
        parameters := () }
  | _ => .error "unknown chain configuration"

/-- The small fuel-core over a way to select for a block. -/
def coreWith
    (select : List Transfer → UInt64 → List Transfer × List Transfer) :
    FuelCore types where
  fromBytes := fromBytes
  toJson := toJson
  id := Transfer.id
  isMint := isMint
  gasPrice := Transfer.gasPrice
  dependsOn := dependsOn
  emptyPool := []
  contents := id
  insert := insert
  selectTransactions := select
  removeTxs := removeTxs
  produceAndExecuteBlock := produceAndExecuteBlock select
  commitError := fun _ _ => none
  maybeInitializeState := maybeInitializeState
  parseChainConfig := parseChainConfig
  parseAddress := fun text => .ok text.length
  parseSecretKey := fun text => .ok text.length
  defaultConsensusDevKey := 1
  defaultSecretKey := 0
  publicKeyHash := fun key => 100 + key
  dryRunTx := fun _ shared tx _ _ => (.ok [tx], shared)
  dapMutation := fun _ shared sessions _ => (sessions + 1, shared)
  manuallyProduceBlocks := manuallyProduceBlocks
  produceBlocks := produceBlocks
  gossip := fun _ _ => []

def core : FuelCore types :=
  coreWith selectTransactions

/-- `fuelmint run --utxo-validation`. -/
def command : Command where
  chainConfig := "local_testnet"
  manualBlocksEnabled := false
  vmBacktrace := false
  utxoValidation := true
  minGasPrice := 0
  consensusKey := none
  consensusDevKey := true
  coinbaseRecipient := none
  metrics := false

def freshDatabase : Database types where
  blocks := []
  ledger := { spent := [], used := [] }

theorem freshDatabase_empty (height : BlockHeight) :
    ¬ freshDatabase.Stores height := by
  intro stored
  cases stored

/-- The configuration `get_config` makes of these flags. -/
def config : Config types where
  chainConf := {
    initialState := none
    blockGasLimit := 10
    parameters := () }
  utxoValidation := true
  manualBlocksEnabled := false
  blockProduction := .never
  vm := { backtrace := false }
  txpool := {
    chainConfig := {
      initialState := none
      blockGasLimit := 10
      parameters := () }
    minGasPrice := 0
    utxoValidation := true }
  blockProducer := {
    utxoValidation := true
    coinbaseRecipient := 101
    metrics := false }
  consensusKey := some 1

/-- The fresh database with its genesis block. -/
def genesisDatabase : Database types :=
  freshDatabase.store {
    header := { height := 0, time := 0, daHeight := 0, roots := () }
    transactions := [] }

/-- The node as it first starts. -/
def firstNode : Node types where
  world := bootWorld core config genesisDatabase
  services := initSubServices config

theorem exec_fresh :
    exec core none command freshDatabase = .ok firstNode := rfl

/-- The world the first node is in after these requests. -/
def worldAfter (requests : List TimedRequest) : World types :=
  Foundation.finalState
    (Foundation.runAll (serveRequest core) requests firstNode.world)

/-! ## The laws of the database -/

theorem core_genesisLaws : GenesisLaws core where
  fresh := by
    intro config database initialized noBlock initialization
    have empty : database.blocks = [] := by
      cases stored : database.blocks with
      | nil =>
          rfl
      | cons entry rest =>
          obtain ⟨height, block⟩ := entry
          have found : database.Stores height := by
            simp [Database.Stores, Database.getBlock, stored]
          exact absurd found (noBlock height)
    change maybeInitializeState config database = .ok initialized
      at initialization
    simp only [maybeInitializeState, empty] at initialization
    cases initialization
    let genesis : Block types := {
      header := {
        height := config.chainConf.genesisHeight
        time := 0
        daHeight := 0
        roots := () }
      transactions := [] }
    refine ⟨genesis, rfl, rfl, rfl, ?_⟩
    intro height
    rw [Database.getBlock_store]
    simp [Database.getBlock, empty, genesis]
  existing := by
    intro config database height stored
    change maybeInitializeState config database = .ok database
    cases entries : database.blocks with
    | nil =>
        simp [Database.Stores, Database.getBlock, entries] at stored
    | cons entry rest =>
        simp only [maybeInitializeState, entries]

theorem core_genesisReads : GenesisReads core where
  initialization := by
    intro left right database same
    change maybeInitializeState left database =
      maybeInitializeState right database
    simp only [maybeInitializeState, same]

/-! ## The laws of the producer -/

section Production

variable
  {select : List Transfer → UInt64 → List Transfer × List Transfer}
  {producer : Producer types} {shared : Shared types} {now : Tai64}
  {height : BlockHeight} {blockTime : Option Tai64} {maxGas : UInt64}
  {uncommitted : UncommittedResult types} {rest : List Transfer}
  {message : String}

theorem newHeader_ok
    {database : Database types} {time : Tai64} {header : Header types}
    (made : newHeader producer database height time = .ok header) :
    height ≠ 0 ∧ header.height = height ∧
      ∃ previous,
        database.getBlock (height - 1) = some previous ∧
          producer.relayer previous.header.daHeight =
            .ok header.daHeight ∧
          previous.header.daHeight ≤ header.daHeight := by
  unfold newHeader at made
  split at made
  case isTrue =>
      cases made
  case isFalse positive =>
      split at made
      case h_1 =>
          cases made
      case h_2 previous found =>
          split at made
          case h_1 =>
              cases made
          case h_2 daHeight answered =>
              split at made
              case isTrue =>
                  cases made
              case isFalse notLower =>
                  cases made
                  exact ⟨positive, rfl, previous, found, answered,
                    UInt64.not_lt.mp notLower⟩

/-- Above height 0 and with a block before it, the relayer had no answer or a
lower one. -/
theorem newHeader_error
    {database : Database types} {time : Tai64}
    (failed : newHeader producer database height time = .error message) :
    (height = 0 ∧ message = "height 0 is reserved for genesis") ∨
      (database.getBlock (height - 1) = none ∧
        message = "the previous block is missing") ∨
      ∃ previous,
        database.getBlock (height - 1) = some previous ∧
          ∀ best,
            producer.relayer previous.header.daHeight = .ok best →
              best < previous.header.daHeight := by
  unfold newHeader at failed
  split at failed
  case isTrue atGenesis =>
      cases failed
      exact Or.inl ⟨atGenesis, rfl⟩
  case isFalse =>
      right
      split at failed
      case h_1 missing =>
          cases failed
          exact Or.inl ⟨missing, rfl⟩
      case h_2 previous found =>
          right
          refine ⟨previous, found, ?_⟩
          intro best answered
          rw [answered] at failed
          dsimp only at failed
          split at failed
          case isTrue lower =>
              exact lower
          case isFalse =>
              cases failed

theorem executeBlock_ok
    {config : Config types} {ledger : Ledger} {header : Header types}
    {selected : List Transfer}
    (ran : executeBlock config ledger header selected = .ok uncommitted) :
    uncommitted.dbTransaction.block.header = header ∧
      uncommitted.dbTransaction.block.transactions =
        coinbase config.blockProducer.coinbaseRecipient
            header.height.toNat
            (fees (execute config.utxoValidation ledger selected).1) ::
          (execute config.utxoValidation ledger selected).1 ∧
      uncommitted.result.skippedTransactions =
        (execute config.utxoValidation ledger selected).2.1 := by
  unfold executeBlock at ran
  dsimp only at ran
  split at ran
  case isTrue =>
      cases ran
  case isFalse =>
      cases ran
      exact ⟨rfl, rfl, rfl⟩

/-- The one error of the executor. -/
def executorFails (message : String) : Bool :=
  message == "the transaction id was already used"

theorem executeBlock_error
    {config : Config types} {ledger : Ledger} {header : Header types}
    {selected : List Transfer}
    (failed :
      executeBlock config ledger header selected = .error message) :
    message = "the transaction id was already used" := by
  unfold executeBlock at failed
  dsimp only at failed
  split at failed
  case isTrue =>
      cases failed
      rfl
  case isFalse =>
      cases failed

/-- What a successful production tells. -/
theorem produceAndExecuteBlock_ok
    (produced :
      (coreWith select).produceAndExecuteBlock producer shared now height
        blockTime maxGas = (.ok uncommitted, rest)) :
    rest = (select shared.pool maxGas).2 ∧
      ∃ header,
        newHeader producer shared.database height (blockTime.getD now) =
            .ok header ∧
          executeBlock producer.executor.config shared.database.ledger
              header (select shared.pool maxGas).1 =
            .ok uncommitted := by
  obtain ⟨result, left⟩ := Prod.ext_iff.mp produced
  refine ⟨left.symm, ?_⟩
  change
    (newHeader producer shared.database height (blockTime.getD now) >>=
      fun header =>
        executeBlock producer.executor.config shared.database.ledger
          header (select shared.pool maxGas).1) =
      .ok uncommitted at result
  cases made :
      newHeader producer shared.database height (blockTime.getD now) with
  | error message =>
      rw [made] at result
      cases result
  | ok header =>
      rw [made] at result
      exact ⟨header, rfl, result⟩

/-- A failed production has selected.  The header could not be made, or the
executor failed. -/
theorem produceAndExecuteBlock_error
    (failed :
      (coreWith select).produceAndExecuteBlock producer shared now height
        blockTime maxGas = (.error message, rest)) :
    rest = (select shared.pool maxGas).2 ∧
      (newHeader producer shared.database height (blockTime.getD now) =
          .error message ∨
        message = "the transaction id was already used") := by
  obtain ⟨result, left⟩ := Prod.ext_iff.mp failed
  refine ⟨left.symm, ?_⟩
  change
    (newHeader producer shared.database height (blockTime.getD now) >>=
      fun header =>
        executeBlock producer.executor.config shared.database.ledger
          header (select shared.pool maxGas).1) =
      .error message at result
  cases made :
      newHeader producer shared.database height (blockTime.getD now) with
  | error failure =>
      rw [made] at result
      cases result
      exact Or.inl rfl
  | ok header =>
      rw [made] at result
      exact Or.inr (executeBlock_error result)

theorem heightLaws : HeightLaws (coreWith select) where
  produced := by
    intro producer shared now height blockTime maxGas uncommitted rest
      produced
    obtain ⟨_, header, made, ran⟩ := produceAndExecuteBlock_ok produced
    obtain ⟨positive, here, previous, found, _⟩ := newHeader_ok made
    obtain ⟨sameHeader, _, _⟩ := executeBlock_ok ran
    refine ⟨positive, Database.stores_of_getBlock found, ?_⟩
    rw [sameHeader, here]

theorem core_heightLaws : HeightLaws core :=
  heightLaws

/-- The error for a DA height that went down. -/
def lowDaHeight (_answer _asked : DaBlockHeight) : String :=
  "the DA height went down"

theorem core_relayerLaws : RelayerLaws core lowDaHeight where
  produced := by
    intro producer shared now height blockTime maxGas uncommitted rest
      previous produced found
    obtain ⟨_, header, made, ran⟩ := produceAndExecuteBlock_ok produced
    obtain ⟨_, _, other, foundOther, answered, atLeast⟩ :=
      newHeader_ok made
    obtain ⟨sameHeader, _, _⟩ := executeBlock_ok ran
    rw [found] at foundOther
    cases foundOther
    rw [sameHeader]
    exact ⟨answered, atLeast⟩
  refused := by
    intro producer shared now height blockTime maxGas answer asked rest
      failed
    rcases (produceAndExecuteBlock_error failed).2 with noHeader | taken
    · rcases newHeader_error noHeader with
        ⟨_, genesis⟩ | ⟨_, missing⟩ | lower
      · simp [lowDaHeight] at genesis
      · simp [lowDaHeight] at missing
      · exact lower
    · simp [lowDaHeight] at taken

theorem core_productionLaws : ProductionLaws core executorFails where
  refused := by
    intro producer shared now height blockTime maxGas message rest failed
    rcases (produceAndExecuteBlock_error failed).2 with noHeader | taken
    · rcases newHeader_error noHeader with
        ⟨atGenesis, _⟩ | ⟨missing, _⟩ | lower
      · exact Or.inl atGenesis
      · right
        left
        simp [Database.Stores, missing]
      · exact Or.inr (Or.inr (Or.inl lower))
    · right
      right
      right
      simp [executorFails, taken]

theorem core_producerReads : ProducerReads core where
  sameInputs := by
    intro left right _ _ _ validation recipient relayer
    funext shared now height blockTime maxGas
    change
      produceAndExecuteBlock selectTransactions left shared now height
          blockTime maxGas =
        produceAndExecuteBlock selectTransactions right shared now height
          blockTime maxGas
    simp only [produceAndExecuteBlock, newHeader, executeBlock,
      validation, recipient, relayer]

theorem execute_sublist
    (utxoValidation : Bool) (ledger : Ledger) (txs : List Transfer) :
    (execute utxoValidation ledger txs).1.Sublist txs := by
  induction txs generalizing ledger with
  | nil =>
      exact List.Sublist.refl []
  | cons tx rest inductionHypothesis =>
      unfold execute
      split
      · exact (inductionHypothesis (ledger.run tx)).cons_cons tx
      · exact (inductionHypothesis ledger).cons tx

theorem execute_perm
    (utxoValidation : Bool) (ledger : Ledger) (txs : List Transfer) :
    ((execute utxoValidation ledger txs).1 ++
      (execute utxoValidation ledger txs).2.1.map Prod.fst).Perm
        txs := by
  induction txs generalizing ledger with
  | nil =>
      exact List.Perm.refl []
  | cons tx rest inductionHypothesis =>
      unfold execute
      split
      · exact (inductionHypothesis (ledger.run tx)).cons tx
      · have tail := inductionHypothesis ledger
        exact List.perm_middle.trans (tail.cons tx)

theorem execute_not_mint
    (utxoValidation : Bool) (ledger : Ledger) (txs : List Transfer) :
    ∀ tx ∈ (execute utxoValidation ledger txs).1,
      isMint tx = false := by
  induction txs generalizing ledger with
  | nil =>
      simp [execute]
  | cons head rest inductionHypothesis =>
      unfold execute
      split
      case isTrue executed =>
          intro tx member
          rcases List.mem_cons.mp member with here | later
          · subst tx
            simp only [runnable, Bool.and_eq_true] at executed
            simpa using executed.1.1
          · exact inductionHypothesis (ledger.run head) tx later
      case isFalse =>
          exact inductionHypothesis ledger

/-- A block has its mint and what the executor included. -/
theorem userTransactions_produced
    {producer : Producer types} {shared : Shared types} {now : Tai64}
    {height : BlockHeight} {blockTime : Option Tai64} {maxGas : UInt64}
    {uncommitted : UncommittedResult types} {rest : List Transfer}
    (produced :
      produceAndExecuteBlock select producer shared now height blockTime
        maxGas = (.ok uncommitted, rest)) :
    (coreWith select).userTransactions uncommitted.dbTransaction.block =
        (execute producer.executor.config.utxoValidation
          shared.database.ledger (select shared.pool maxGas).1).1 ∧
      uncommitted.result.skippedTransactions =
        (execute producer.executor.config.utxoValidation
          shared.database.ledger (select shared.pool maxGas).1).2.1 := by
  obtain ⟨_, header, _, ran⟩ := produceAndExecuteBlock_ok produced
  obtain ⟨_, transactions, skipped⟩ := executeBlock_ok ran
  refine ⟨?_, skipped⟩
  have kept :=
    List.filter_eq_self.mpr fun tx member =>
      congrArg not
        (execute_not_mint producer.executor.config.utxoValidation
          shared.database.ledger (select shared.pool maxGas).1 tx
          member)
  unfold FuelCore.userTransactions
  rw [transactions]
  exact kept

theorem executionLaws : ExecutionLaws (coreWith select) where
  produced := by
    intro producer shared now height blockTime maxGas uncommitted rest
      produced
    obtain ⟨left, _⟩ := produceAndExecuteBlock_ok produced
    obtain ⟨users, skipped⟩ := userTransactions_produced produced
    refine ⟨left, ?_⟩
    rw [users, skipped]
    exact execute_perm _ _ _

theorem executionOrderLaws : ExecutionOrderLaws (coreWith select) where
  inOrder := by
    intro producer shared now height blockTime maxGas uncommitted rest
      produced
    obtain ⟨users, _⟩ := userTransactions_produced produced
    rw [users]
    exact execute_sublist _ _ _

theorem core_executionLaws : ExecutionLaws core :=
  executionLaws

end Production

/-! ## The laws of the pool -/

theorem purge_sublist
    (leaves : Transfer → Bool) (gone : List Coin)
    (pool : List Transfer) :
    (purge leaves gone pool).2.Sublist pool := by
  induction pool generalizing gone with
  | nil =>
      exact List.Sublist.refl []
  | cons tx rest inductionHypothesis =>
      unfold purge
      split
      · exact (inductionHypothesis (.output tx.id :: gone)).cons tx
      · exact (inductionHypothesis gone).cons_cons tx

theorem purge_stays
    (leaves : Transfer → Bool) (gone : List Coin)
    (pool : List Transfer) :
    ∀ tx ∈ (purge leaves gone pool).2, leaves tx = false := by
  induction pool generalizing gone with
  | nil =>
      simp [purge]
  | cons head rest inductionHypothesis =>
      unfold purge
      split
      case isTrue =>
          exact inductionHypothesis (.output head.id :: gone)
      case isFalse stays =>
          intro tx member
          rcases List.mem_cons.mp member with here | later
          · subst tx
            simp only [Bool.or_eq_true, not_or] at stays
            simpa using stays.1
          · exact inductionHypothesis gone tx later

theorem insert_ok
    {config : TxPoolConfig types} {database : Database types}
    {pool next : List Transfer} {tx : Transfer}
    {insertion : InsertionResult types}
    (inserted :
      insert config database pool tx = (.ok insertion, next)) :
    next = (purge (sharesInput tx) [] pool).2 ++ [tx] := by
  unfold insert at inserted
  split_ifs at inserted
  all_goals cases inserted
  rfl

theorem insert_error
    {config : TxPoolConfig types} {database : Database types}
    {pool next : List Transfer} {tx : Transfer} {message : String}
    (refused :
      insert config database pool tx = (.error message, next)) :
    next = pool := by
  unfold insert at refused
  split_ifs at refused
  all_goals cases refused
  all_goals rfl

section Selections

variable
  {select : List Transfer → UInt64 → List Transfer × List Transfer}

theorem poolLaws : PoolLaws (coreWith select) where
  empty := rfl
  inserted := by
    intro config database pool next tx insertion inserted
    have after := insert_ok inserted
    change ((next : List Transfer) : Multiset Transfer) ≤
      (pool : Multiset Transfer) + {tx}
    have kept :
        ((purge (sharesInput tx) [] pool).2 : Multiset Transfer) ≤
          pool :=
      Multiset.coe_le.mpr (purge_sublist _ _ pool).subperm
    rw [after, ← Multiset.coe_add, Multiset.coe_singleton]
    exact Multiset.add_le_add_right kept
  refused := insert_error
  removed := by
    intro pool ids
    exact Multiset.coe_le.mpr (purge_sublist _ _ pool).subperm

theorem core_poolLaws : PoolLaws core :=
  poolLaws

theorem core_removalLaws : RemovalLaws core where
  removed := by
    intro pool ids tx kept
    have absent :=
      purge_stays (fun tx => ids.contains tx.id) [] pool tx kept
    change Transfer.id tx ∉ ids
    simpa using absent

theorem takeGas_sublist (budget : Nat) (txs : List Transfer) :
    (takeGas budget txs).Sublist txs := by
  induction txs generalizing budget with
  | nil =>
      exact List.Sublist.refl []
  | cons tx rest inductionHypothesis =>
      unfold takeGas
      split
      · exact (inductionHypothesis (budget - tx.gas)).cons_cons tx
      · exact (inductionHypothesis budget).cons tx

/-- A selection and what it leaves are disjoint parts of the pool. -/
theorem selected_add_leaveOut
    {selected pool : List Transfer}
    (within : (selected : Multiset Transfer) ≤ pool) :
    (selected : Multiset Transfer) + leaveOut selected pool ≤ pool := by
  have outside :
      ∀ tx ∈ leaveOut selected pool,
        (!selected.contains tx) = true := by
    intro tx left
    have stays :=
      purge_stays (fun tx => selected.contains tx) [] pool tx left
    rw [stays]
    rfl
  have inPool : (leaveOut selected pool).Sublist pool :=
    purge_sublist _ _ pool
  have left :
      (leaveOut selected pool).Sublist
        (pool.filter fun tx => !selected.contains tx) := by
    rw [← List.filter_eq_self.mpr outside]
    exact inPool.filter _
  have taken :
      (selected : Multiset Transfer) ≤
        (pool.filter fun tx => selected.contains tx : List Transfer) := by
    have filtered :=
      Multiset.filter_le_filter (fun tx => tx ∈ selected) within
    rw [Multiset.filter_eq_self.mpr fun tx member =>
      Multiset.mem_coe.mp member] at filtered
    simpa using filtered
  calc
    (selected : Multiset Transfer) + leaveOut selected pool ≤
        (pool.filter fun tx => selected.contains tx : List Transfer) +
          (pool.filter fun tx => !selected.contains tx :
            List Transfer) :=
      add_le_add taken (Multiset.coe_le.mpr left.subperm)
    _ = (pool : Multiset Transfer) := by
      rw [Multiset.coe_add]
      exact Multiset.coe_eq_coe.mpr (List.filter_append_perm _ pool)

theorem takeGas_le (budget : Nat) (pool : List Transfer) :
    (takeGas budget (pool.insertionSort byGasPrice) :
        Multiset Transfer) ≤
      pool := by
  have sorted :
      (pool.insertionSort byGasPrice : Multiset Transfer) = pool :=
    Multiset.coe_eq_coe.mpr (List.perm_insertionSort _ _)
  rw [← sorted]
  exact Multiset.coe_le.mpr (takeGas_sublist budget _).subperm

theorem core_selectionLaws : SelectionLaws core where
  selected := by
    intro pool maxGas
    exact selected_add_leaveOut (takeGas_le maxGas.toNat pool)

theorem takeGas_byPrice (budget : Nat) (pool : List Transfer) :
    (takeGas budget (pool.insertionSort byGasPrice)).Pairwise
      byGasPrice := by
  have total : Std.Total byGasPrice :=
    ⟨fun left right => Nat.le_total right.gasPrice left.gasPrice⟩
  have transitive : IsTrans Transfer byGasPrice :=
    ⟨fun _ _ _ first second => Nat.le_trans second first⟩
  exact
    (List.pairwise_insertionSort byGasPrice pool).sublist
      (takeGas_sublist budget _)

theorem core_failedProductionLaws : FailedProductionLaws core where
  failed := by
    intro producer shared now height blockTime maxGas message rest failed
    have left := (produceAndExecuteBlock_error failed).1
    have parts :=
      core_selectionLaws.selected shared.pool maxGas
    rw [left]
    exact le_trans (Multiset.le_add_left _ _) parts

end Selections

/-! ## The laws of the GraphQL operations -/

theorem core_graphQLLaws : GraphQLLaws core where
  dryRun := fun _ _ _ _ _ => rfl
  debugger := fun _ _ _ _ => rfl
  refuses := fun _ _ _ => ⟨_, rfl⟩
  producesThroughConsensus := by
    intro context shared start count unchanged
    change (produceBlocks context shared start count).2 = shared
    unfold produceBlocks
    split
    · exact unchanged
    · rfl
  silent := fun _ => rfl

end Fuelmint.LocalTestnet
