import Fuelmint.Abci
import Fuelmint.FuelCore
import Fuelmint.Foundation.Supervision

/-!
# The ABCI application

`App` and its four handlers, over the pool and the database it shares with the
other services.  A handler that unwraps an error panics with the state it had
at that point, which is what `EStateM` keeps.

`Transition` lists what an answered request can do; every later proof about
the application starts from it and opens no handler again.
-/

namespace Fuelmint

open Foundation

variable {T : Types}

/-- The two copies of the state and the handles the application was built
with. -/
structure App (T : Types) where
  config : Config T
  committedState : State
  currentState : State
  producer : Producer T
  txPool : TxPoolConfig T

def App.new (config : Config T) (state : State)
    (producer : Producer T) (txPool : TxPoolConfig T) : App T where
  config := config
  committedState := state
  currentState := state
  producer := producer
  txPool := txPool

/-- The application together with the pool and the database. -/
structure World (T : Types) extends Shared T where
  app : App T

/-- The unwraps that can fail, with the error they met. -/
inductive Panic where
  | heightTryFrom
  | fromBytes
  | txPoolInsert (message : String)
  | produceBlock (message : String)
  | commitTransaction (message : String)
  deriving DecidableEq

abbrev Handler (T : Types) (Result : Type) :=
  EStateM Panic (World T) Result

namespace World

variable (world : World T)

def setPool (pool : T.Pool) : World T :=
  { world with pool := pool }

def setDatabase (database : Database T) : World T :=
  { world with database := database }

def setCurrentHeight (height : Int64) : World T :=
  { world with
    app.currentState.blockHeight := height }

/-- `*committed_state = current_state`. -/
def commitState : World T :=
  { world with
    app.committedState := world.app.currentState }

end World

/-- `Result::unwrap`, with the panic a failure becomes. -/
def unwrap {Result : Type} (panic : String → Panic) :
    Except String Result → Handler T Result
  | .ok value => pure value
  | .error message => throw (panic message)

namespace App

variable (F : FuelCore T)

def info : Handler T Response.Info := do
  let state := (← get).app.currentState
  match Height.tryFrom state.blockHeight with
  | some lastBlockHeight =>
      return {
        data := "fuelmint"
        version := "0.1.0"
        appVersion := 1
        lastBlockHeight := lastBlockHeight
        lastBlockAppHash := state.appHash }
  | none => throw .heightTryFrom

/-- `precompute` is not modelled: it caches the id of the transaction. -/
def deliverTx (request : Bytes) : Handler T Response.DeliverTx := do
  match F.fromBytes request with
  | none => throw .fromBytes
  | some tx =>
      let world ← get
      let (inserted, pool) :=
        F.insert world.app.txPool world.database world.pool tx
      set (world.setPool pool)
      let _ ← unwrap .txPoolInsert inserted
      return { data := F.toJson tx }

/-- The clock is read by the producer, which is given no block time. -/
def endBlock (now : Tai64) (request : Int64) :
    Handler T Response.EndBlock := do
  modify fun world => world.setCurrentHeight request
  let world ← get
  let height := BlockHeight.ofRequest world.app.currentState.blockHeight
  let (produced, pool) :=
    F.produceAndExecuteBlock world.app.producer world.toShared now
      height none world.app.config.chainConf.blockGasLimit
  set (world.setPool pool)
  let uncommitted ← unwrap .produceBlock produced
  let database ← unwrap .commitTransaction
    (F.commitTransaction world.database uncommitted.dbTransaction)
  modify fun world => world.setDatabase database
  let txIdsToRemove :=
    uncommitted.result.skippedTransactions.map fun (tx, _) => F.id tx
  modify fun world =>
    world.setPool (F.removeTxs world.pool txIdsToRemove).2
  return {}

def commit : Handler T Response.Commit := do
  modify World.commitState
  return { data := [], retainHeight := 0 }

/-- `Service<Request>::call`, at the given reading of the local clock. -/
def call (now : Tai64) : Request → Handler T Response
  | .info => return .info (← info)
  | .deliverTx tx => return .deliverTx (← deliverTx F tx)
  | .endBlock height => return .endBlock (← endBlock F now height)
  | .commit => return .commit (← commit)
  | .query _ _ => return .query {}
  | .flush => return .flush
  | .echo _ => return .echo {}
  | .initChain => return .initChain {}
  | .beginBlock _ => return .beginBlock {}
  | .checkTx _ => return .checkTx {}
  | .listSnapshots => return .listSnapshots {}
  | .offerSnapshot => return .offerSnapshot {}
  | .loadSnapshotChunk => return .loadSnapshotChunk {}
  | .applySnapshotChunk => return .applySnapshotChunk {}
  | .setOption _ _ =>
      return .setOption { code := 0, log := "N/A", info := "N/A" }

end App

/-- A request and the reading of the local clock while it is served. -/
abbrev TimedRequest := Tai64 × Request

/-- Serve one timed request. -/
def serveRequest (F : FuelCore T) (timed : TimedRequest) :
    Handler T Response :=
  App.call F timed.1 timed.2

/-- The answer to the requests that `call` does not handle. -/
def Request.unhandledAnswer : Request → Option Response
  | .query _ _ => some (.query {})
  | .flush => some .flush
  | .echo _ => some (.echo {})
  | .initChain => some (.initChain {})
  | .beginBlock _ => some (.beginBlock {})
  | .checkTx _ => some (.checkTx {})
  | .listSnapshots => some (.listSnapshots {})
  | .offerSnapshot => some (.offerSnapshot {})
  | .loadSnapshotChunk => some (.loadSnapshotChunk {})
  | .applySnapshotChunk => some (.applySnapshotChunk {})
  | .setOption _ _ =>
      some (.setOption { code := 0, log := "N/A", info := "N/A" })
  | .info | .deliverTx _ | .endBlock _ | .commit => none

def Request.isCommit : Request → Bool
  | .commit => true
  | _ => false

def Request.endBlockHeight? : Request → Option Int64
  | .endBlock height => some height
  | _ => none

/-! ## What an answered request does -/

/-- What the producer makes of an EndBlock request, and the pool it leaves. -/
def World.production (F : FuelCore T) (world : World T) (now : Tai64)
    (height : Int64) : Except String (UncommittedResult T) × T.Pool :=
  F.produceAndExecuteBlock world.app.producer world.toShared now
    (BlockHeight.ofRequest height) none
    world.app.config.chainConf.blockGasLimit

/-- The result of a successful `end_block`: what the producer returned, and
the world it leaves. -/
structure Produced (F : FuelCore T) (now : Tai64) (height : Int64)
    (world : World T) where
  uncommitted : UncommittedResult T
  selectedPool : T.Pool
  production :
    F.produceAndExecuteBlock world.app.producer world.toShared now
        (BlockHeight.ofRequest height) none
        world.app.config.chainConf.blockGasLimit =
      (.ok uncommitted, selectedPool)
  committed :
    F.commitError world.database uncommitted.dbTransaction = none

namespace Produced

variable {F : FuelCore T} {now : Tai64} {height : Int64}
  {world : World T} (produced : Produced F now height world)

theorem production_eq :
    world.production F now height =
      (.ok produced.uncommitted, produced.selectedPool) :=
  produced.production

def block : Block T :=
  produced.uncommitted.dbTransaction.block

def skipped : List T.Tx :=
  produced.uncommitted.result.skippedTransactions.map Prod.fst

def removal : List T.Tx × T.Pool :=
  F.removeTxs produced.selectedPool (produced.skipped.map F.id)

/-- The world after the block is stored. -/
def outcome : World T :=
  ((world.setCurrentHeight height).setDatabase
    (produced.uncommitted.dbTransaction.applyTo world.database)).setPool
      produced.removal.2

theorem outcome_toShared :
    produced.outcome.toShared =
      { pool := produced.removal.2
        database :=
          produced.uncommitted.dbTransaction.applyTo world.database } :=
  rfl

@[simp]
theorem outcome_database :
    produced.outcome.database =
      produced.uncommitted.dbTransaction.applyTo world.database := rfl

end Produced

/-- The answered steps of the application. -/
inductive Transition (F : FuelCore T) (now : Tai64) :
    Request → World T → Response → World T → Prop
  | info {world : World T} {lastBlockHeight : Height} :
      Height.tryFrom world.app.currentState.blockHeight =
          some lastBlockHeight →
        Transition F now .info world
          (.info {
            data := "fuelmint"
            version := "0.1.0"
            appVersion := 1
            lastBlockHeight := lastBlockHeight
            lastBlockAppHash := world.app.currentState.appHash })
          world
  | deliverTx {world : World T} {bytes : Bytes} {tx : T.Tx}
      {inserted : InsertionResult T} {pool : T.Pool} :
      F.fromBytes bytes = some tx →
      F.insert world.app.txPool world.database world.pool tx =
          (.ok inserted, pool) →
        Transition F now (.deliverTx bytes) world
          (.deliverTx { data := F.toJson tx }) (world.setPool pool)
  | endBlock {world : World T} {height : Int64}
      (produced : Produced F now height world) :
        Transition F now (.endBlock height) world
          (.endBlock {}) produced.outcome
  | commit {world : World T} :
        Transition F now .commit world
          (.commit { data := [], retainHeight := 0 }) world.commitState
  | unhandled {world : World T} {request : Request} {answer : Response} :
      request.unhandledAnswer = some answer →
        Transition F now request world answer world

/-- The panics of the application and the world each of them leaves. -/
inductive Breakdown (F : FuelCore T) (now : Tai64) :
    Request → World T → Panic → World T → Prop
  | info {world : World T} :
      Height.tryFrom world.app.currentState.blockHeight = none →
        Breakdown F now .info world .heightTryFrom world
  | fromBytes {world : World T} {bytes : Bytes} :
      F.fromBytes bytes = none →
        Breakdown F now (.deliverTx bytes) world .fromBytes world
  | txPoolInsert {world : World T} {bytes : Bytes} {tx : T.Tx}
      {message : String} {pool : T.Pool} :
      F.fromBytes bytes = some tx →
      F.insert world.app.txPool world.database world.pool tx =
          (.error message, pool) →
        Breakdown F now (.deliverTx bytes) world
          (.txPoolInsert message) (world.setPool pool)
  | produceBlock {world : World T} {height : Int64}
      {message : String} {pool : T.Pool} :
      F.produceAndExecuteBlock world.app.producer world.toShared now
          (BlockHeight.ofRequest height) none
          world.app.config.chainConf.blockGasLimit =
          (.error message, pool) →
        Breakdown F now (.endBlock height) world (.produceBlock message)
          ((world.setCurrentHeight height).setPool pool)
  | commitTransaction {world : World T} {height : Int64}
      {uncommitted : UncommittedResult T}
      {message : String} {pool : T.Pool} :
      F.produceAndExecuteBlock world.app.producer world.toShared now
          (BlockHeight.ofRequest height) none
          world.app.config.chainConf.blockGasLimit =
          (.ok uncommitted, pool) →
      F.commitError world.database uncommitted.dbTransaction =
          some message →
        Breakdown F now (.endBlock height) world
          (.commitTransaction message)
          ((world.setCurrentHeight height).setPool pool)

section Spec

variable {F : FuelCore T} {now : Tai64} {world next : World T}

theorem info_eq :
    App.info world =
      match Height.tryFrom world.app.currentState.blockHeight with
      | some lastBlockHeight =>
          .ok {
            data := "fuelmint"
            version := "0.1.0"
            appVersion := 1
            lastBlockHeight := lastBlockHeight
            lastBlockAppHash := world.app.currentState.appHash } world
      | none => .error .heightTryFrom world := by
  unfold App.info
  rw [bind_of_ok (get_apply world)]
  cases Height.tryFrom world.app.currentState.blockHeight <;> rfl

theorem deliverTx_eq (bytes : Bytes) :
    App.deliverTx F bytes world =
      match F.fromBytes bytes with
      | none => .error .fromBytes world
      | some tx =>
          let insertion :=
            F.insert world.app.txPool world.database world.pool tx
          match insertion.1 with
          | .ok _ =>
              .ok { data := F.toJson tx } (world.setPool insertion.2)
          | .error message =>
              .error (.txPoolInsert message)
                (world.setPool insertion.2) := by
  unfold App.deliverTx
  cases F.fromBytes bytes with
  | none =>
      rfl
  | some tx =>
      dsimp only
      change
        (do
          let (inserted, pool) :=
            F.insert world.app.txPool world.database world.pool tx
          set (world.setPool pool)
          let _ ← unwrap .txPoolInsert inserted
          return { data := F.toJson tx } :
            Handler T Response.DeliverTx) world = _
      cases F.insert world.app.txPool world.database world.pool tx with
      | mk result pool =>
          cases result <;> rfl

/-- `end_block` as two tests: did the producer succeed, did the commit. -/
theorem endBlock_eq (height : Int64) :
    App.endBlock F now height world =
      let production :=
        F.produceAndExecuteBlock world.app.producer world.toShared now
          (BlockHeight.ofRequest height) none
          world.app.config.chainConf.blockGasLimit
      let selected :=
        (world.setCurrentHeight height).setPool production.2
      match production.1 with
      | .error message => .error (.produceBlock message) selected
      | .ok uncommitted =>
          match F.commitError world.database
              uncommitted.dbTransaction with
          | some message => .error (.commitTransaction message) selected
          | none =>
              .ok {}
                ((selected.setDatabase
                  (uncommitted.dbTransaction.applyTo
                    world.database)).setPool
                  (F.removeTxs production.2
                    ((uncommitted.result.skippedTransactions.map
                      Prod.fst).map F.id)).2) := by
  have started : App.endBlock F now height world =
      (do
        let (produced, pool) :=
          F.produceAndExecuteBlock world.app.producer world.toShared now
            (BlockHeight.ofRequest height) none
            world.app.config.chainConf.blockGasLimit
        set ((world.setCurrentHeight height).setPool pool)
        let uncommitted ← unwrap .produceBlock produced
        let database ← unwrap .commitTransaction
          (F.commitTransaction world.database uncommitted.dbTransaction)
        modify fun world => world.setDatabase database
        modify fun world =>
          world.setPool
            (F.removeTxs world.pool
              (uncommitted.result.skippedTransactions.map
                fun (tx, _) => F.id tx)).2
        return {} : Handler T Response.EndBlock)
        (world.setCurrentHeight height) := rfl
  rw [started]
  cases F.produceAndExecuteBlock world.app.producer world.toShared now
      (BlockHeight.ofRequest height) none
      world.app.config.chainConf.blockGasLimit with
  | mk result pool =>
      cases result with
      | error message =>
          rfl
      | ok uncommitted =>
          dsimp only
          change
            (do
              let database ← unwrap .commitTransaction
                (F.commitTransaction world.database
                  uncommitted.dbTransaction)
              modify fun world => world.setDatabase database
              modify fun world =>
                world.setPool
                  (F.removeTxs world.pool
                    (uncommitted.result.skippedTransactions.map
                      fun (tx, _) => F.id tx)).2
              return {} : Handler T Response.EndBlock)
              ((world.setCurrentHeight height).setPool pool) = _
          rw [List.map_map]
          unfold FuelCore.commitTransaction
          cases F.commitError world.database
              uncommitted.dbTransaction <;> rfl

theorem info_ok {answer : Response.Info} :
    App.info world = .ok answer next ↔
      ∃ lastBlockHeight,
        Height.tryFrom world.app.currentState.blockHeight =
            some lastBlockHeight ∧
          answer = {
            data := "fuelmint"
            version := "0.1.0"
            appVersion := 1
            lastBlockHeight := lastBlockHeight
            lastBlockAppHash := world.app.currentState.appHash } ∧
          next = world := by
  rw [info_eq]
  cases Height.tryFrom world.app.currentState.blockHeight with
  | none =>
      simp
  | some lastBlockHeight =>
      simp [eq_comm]

theorem deliverTx_ok {bytes : Bytes} {answer : Response.DeliverTx} :
    App.deliverTx F bytes world = .ok answer next ↔
      ∃ tx inserted pool,
        F.fromBytes bytes = some tx ∧
          F.insert world.app.txPool world.database world.pool tx =
            (.ok inserted, pool) ∧
          answer = { data := F.toJson tx } ∧
          next = world.setPool pool := by
  rw [deliverTx_eq]
  cases F.fromBytes bytes with
  | none =>
      simp
  | some tx =>
      cases insertion :
          F.insert world.app.txPool world.database world.pool tx with
      | mk result pool =>
          cases result with
          | error message =>
              simp [insertion]
          | ok inserted =>
              simp [insertion, eq_comm]

theorem endBlock_ok {height : Int64} {answer : Response.EndBlock} :
    App.endBlock F now height world = .ok answer next ↔
      ∃ produced : Produced F now height world,
        answer = {} ∧ next = produced.outcome := by
  rw [endBlock_eq]
  constructor
  · intro answered
    dsimp only at answered
    split at answered
    case h_1 =>
        cases answered
    case h_2 uncommitted production =>
        split at answered
        case h_1 =>
            cases answered
        case h_2 committed =>
            cases answered
            exact
              ⟨{ uncommitted := uncommitted
                 selectedPool := _
                 production := Prod.ext production rfl
                 committed := committed }, rfl, rfl⟩
  · rintro ⟨produced, rfl, rfl⟩
    simp only [produced.production, produced.committed]
    rfl

theorem commit_ok {answer : Response.Commit} :
    App.commit world = .ok answer next ↔
      answer = { data := [], retainHeight := 0 } ∧
        next = world.commitState := by
  have committed :
      App.commit world =
        .ok { data := [], retainHeight := 0 } world.commitState := rfl
  rw [committed]
  simp [eq_comm]

/-- The answered calls are exactly the transitions. -/
theorem call_ok {request : Request} {answer : Response} :
    App.call F now request world = .ok answer next ↔
      Transition F now request world answer next := by
  constructor
  · intro answered
    cases request with
    | info =>
        obtain ⟨_, handled, rfl⟩ := wrap_ok_iff.mp answered
        obtain ⟨lastBlockHeight, converted, rfl, rfl⟩ :=
          info_ok.mp handled
        exact Transition.info converted
    | deliverTx bytes =>
        obtain ⟨_, handled, rfl⟩ := wrap_ok_iff.mp answered
        obtain ⟨tx, inserted, pool, decoded, insertion, rfl, rfl⟩ :=
          deliverTx_ok.mp handled
        exact Transition.deliverTx decoded insertion
    | endBlock height =>
        obtain ⟨_, handled, rfl⟩ := wrap_ok_iff.mp answered
        obtain ⟨produced, rfl, rfl⟩ := endBlock_ok.mp handled
        exact Transition.endBlock produced
    | commit =>
        obtain ⟨_, handled, rfl⟩ := wrap_ok_iff.mp answered
        obtain ⟨rfl, rfl⟩ := commit_ok.mp handled
        exact Transition.commit
    | _ =>
        cases answered
        exact Transition.unhandled rfl
  · intro transition
    cases transition with
    | info converted =>
        exact wrap_ok_iff.mpr
          ⟨_, info_ok.mpr ⟨_, converted, rfl, rfl⟩, rfl⟩
    | deliverTx decoded insertion =>
        exact wrap_ok_iff.mpr
          ⟨_, deliverTx_ok.mpr
            ⟨_, _, _, decoded, insertion, rfl, rfl⟩, rfl⟩
    | endBlock produced =>
        exact wrap_ok_iff.mpr
          ⟨_, endBlock_ok.mpr ⟨produced, rfl, rfl⟩, rfl⟩
    | commit =>
        exact wrap_ok_iff.mpr ⟨_, commit_ok.mpr ⟨rfl, rfl⟩, rfl⟩
    | unhandled default =>
        cases request <;> cases default <;> rfl

theorem deliverTx_error {bytes : Bytes} {panic : Panic} :
    App.deliverTx F bytes world = .error panic next →
      Breakdown F now (.deliverTx bytes) world panic next := by
  intro failed
  rw [deliverTx_eq] at failed
  split at failed
  case h_1 decoded =>
      cases failed
      exact Breakdown.fromBytes decoded
  case h_2 tx decoded =>
      dsimp only at failed
      split at failed
      case h_1 =>
          cases failed
      case h_2 message insertion =>
          cases failed
          exact Breakdown.txPoolInsert decoded (Prod.ext insertion rfl)

theorem endBlock_error {height : Int64} {panic : Panic} :
    App.endBlock F now height world = .error panic next →
      Breakdown F now (.endBlock height) world panic next := by
  intro failed
  rw [endBlock_eq] at failed
  dsimp only at failed
  split at failed
  case h_1 message production =>
      cases failed
      exact Breakdown.produceBlock (Prod.ext production rfl)
  case h_2 uncommitted production =>
      split at failed
      case h_1 message failure =>
          cases failed
          exact
            Breakdown.commitTransaction
              (Prod.ext production rfl) failure
      case h_2 =>
          cases failed

theorem call_error {request : Request} {panic : Panic}
    (failed : App.call F now request world = .error panic next) :
    Breakdown F now request world panic next := by
  cases request with
  | info =>
      have handled := of_wrap_error failed
      rw [info_eq] at handled
      split at handled
      case h_1 =>
          cases handled
      case h_2 converted =>
          cases handled
          exact Breakdown.info converted
  | deliverTx bytes =>
      exact deliverTx_error (of_wrap_error failed)
  | endBlock height =>
      exact endBlock_error (of_wrap_error failed)
  | commit =>
      cases of_wrap_error failed
  | _ =>
      cases failed

theorem serveRequest_ok {timed : TimedRequest} {answer : Response} :
    serveRequest F timed world = .ok answer next ↔
      Transition F timed.1 timed.2 world answer next :=
  call_ok

/-- Only an answered EndBlock writes the database. -/
theorem Transition.database_cases
    {request : Request} {answer : Response}
    (transition : Transition F now request world answer next) :
    (request.endBlockHeight? = none ∧
        next.database = world.database) ∨
      ∃ height, ∃ produced : Produced F now height world,
        request = .endBlock height ∧ next = produced.outcome := by
  cases transition with
  | endBlock produced => exact Or.inr ⟨_, produced, rfl, rfl⟩
  | unhandled default =>
      left
      cases request <;> first | exact ⟨rfl, rfl⟩ | cases default
  | _ => exact Or.inl ⟨rfl, rfl⟩

/-- A stored block may be replaced, but its height stays taken. -/
theorem Transition.stores
    {request : Request} {answer : Response} {height : BlockHeight}
    (transition : Transition F now request world answer next)
    (stored : world.database.Stores height) :
    next.database.Stores height := by
  rcases transition.database_cases with
    ⟨_, unchanged⟩ | ⟨_, produced, _, rfl⟩
  · rwa [unchanged]
  · exact DbTransaction.stores_applyTo.mpr (Or.inr stored)

/-- No request changes the configuration, the producer or the pool handle. -/
theorem Transition.app_eq
    {request : Request} {answer : Response}
    (transition : Transition F now request world answer next) :
    next.app.config = world.app.config ∧
      next.app.producer = world.app.producer ∧
      next.app.txPool = world.app.txPool := by
  cases transition <;> exact ⟨rfl, rfl, rfl⟩

/-- Only EndBlock writes the current state, and only its height. -/
theorem Transition.currentState_eq
    {request : Request} {answer : Response}
    (transition : Transition F now request world answer next) :
    next.app.currentState =
      { blockHeight :=
          request.endBlockHeight?.getD
            world.app.currentState.blockHeight
        appHash := world.app.currentState.appHash } := by
  cases transition with
  | info => rfl
  | deliverTx => rfl
  | endBlock => rfl
  | commit => rfl
  | unhandled default =>
      cases request <;> first | rfl | cases default

/-- Only Commit writes the committed state. -/
theorem Transition.committedState_eq
    {request : Request} {answer : Response}
    (transition : Transition F now request world answer next) :
    next.app.committedState =
      if request.isCommit then
        world.app.currentState
      else
        world.app.committedState := by
  cases transition with
  | info => rfl
  | deliverTx => rfl
  | endBlock => rfl
  | commit => rfl
  | unhandled default =>
      cases request <;> first | rfl | cases default

/-- No panic writes the database. -/
theorem Breakdown.database_eq {request : Request} {panic : Panic}
    (breakdown : Breakdown F now request world panic next) :
    next.database = world.database := by
  cases breakdown <;> rfl

end Spec

end Fuelmint
