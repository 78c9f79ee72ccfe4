import Fuelmint.App
import Fuelmint.Config

/-!
# Wiring and start of the node

`init_sub_services` builds the producer, the pool service and the GraphQL
service from one configuration; `exec` initialises the database, wires the
services and gives the application its first state.  A restart is `exec` on
the database that was left.
-/

namespace Fuelmint

open Foundation

variable {T : Types}

/-- A relayer for a rollup without a base layer to follow. -/
structure EmptyRelayer where
  zeroHeight : DaBlockHeight

/-- The height asked for is ignored. -/
def EmptyRelayer.waitForAtLeast (relayer : EmptyRelayer) : RelayerTrait :=
  fun _height => .ok relayer.zeroHeight

/-- The services that share the pool and the database. -/
structure SubServices (T : Types) where
  producer : Producer T
  txpool : TxPoolConfig T
  p2p : P2PAdapter
  graphQL : GraphQLContext T

def initSubServices (config : Config T) : SubServices T :=
  let executor : ExecutorAdapter T := { config := config }
  let blockProducer : Producer T := {
    config := config.blockProducer
    executor := executor
    relayer := EmptyRelayer.waitForAtLeast { zeroHeight := 0 } }
  { producer := blockProducer
    txpool := config.txpool
    p2p := P2PAdapter.new
    graphQL := {
      manualBlocksEnabled := config.manualBlocksEnabled
      utxoValidation := config.utxoValidation
      producer := blockProducer
      consensusModule := PoAAdapter.new none } }

/-- A started node. -/
structure Node (T : Types) where
  world : World T
  services : SubServices T

section Start

variable (F : FuelCore T)

/-- `Task::new`: initialise the chain, then the services. -/
def Task.new (database : Database T) (config : Config T) :
    Except String (SubServices T × Database T) := do
  let database ← F.maybeInitializeState config database
  return (initSubServices config, database)

def exec (environment : Option String) (command : Command)
    (database : Database T) : Except String (Node T) := do
  let config ← command.getConfig F environment
  let (services, database) ← Task.new F database config
  let state : State := { blockHeight := 0, appHash := [] }
  let app := App.new config state services.producer services.txpool
  return {
    world := { app := app, pool := F.emptyPool, database := database }
    services := services }

/-- Stop the process and run `exec` again: only the database is left. -/
def restart (environment : Option String) (command : Command)
    (left : World T) : Foundation.Worker (World T) :=
  match exec F environment command left.database with
  | .ok node => .serving node.world
  | .error _ => .stopped left

end Start

/-- The world a node starts in, given its configuration and database. -/
def bootWorld (F : FuelCore T) (config : Config T)
    (database : Database T) : World T where
  app :=
    App.new config State.initial
      (initSubServices config).producer config.txpool
  pool := F.emptyPool
  database := database

section Spec

variable {F : FuelCore T} {environment : Option String}
  {command : Command} {database : Database T}

theorem exec_ok {node : Node T} :
    exec F environment command database = .ok node ↔
      ∃ config initialized,
        command.getConfig F environment = .ok config ∧
          F.maybeInitializeState config database = .ok initialized ∧
          node = {
            world := bootWorld F config initialized
            services := initSubServices config } := by
  constructor
  · intro started
    unfold exec Task.new at started
    obtain ⟨config, configured, started⟩ :=
      except_bind_ok_iff.mp started
    obtain ⟨parts, wired, started⟩ := except_bind_ok_iff.mp started
    obtain ⟨initialized, initialization, wired⟩ :=
      except_bind_ok_iff.mp wired
    cases wired
    cases started
    exact ⟨config, initialized, configured, initialization, rfl⟩
  · rintro ⟨config, initialized, configured, initialization, rfl⟩
    have wired :
        Task.new F database config =
          .ok (initSubServices config, initialized) :=
      except_bind_ok_iff.mpr ⟨initialized, initialization, rfl⟩
    refine except_bind_ok_iff.mpr ⟨config, configured, ?_⟩
    exact except_bind_ok_iff.mpr ⟨_, wired, rfl⟩

/-- What every start gives: the initial state twice, an empty pool and the
producer of the configuration. -/
structure Booted (F : FuelCore T) (config : Config T)
    (world : World T) : Prop where
  app :
    world.app =
      App.new config State.initial
        (initSubServices config).producer config.txpool
  pool : world.pool = F.emptyPool

theorem Booted.config_eq
    {config : Config T} {world : World T}
    (booted : Booted F config world) : world.app.config = config := by
  rw [booted.app]
  rfl

theorem Booted.currentState_eq
    {config : Config T} {world : World T}
    (booted : Booted F config world) :
    world.app.currentState = State.initial := by
  rw [booted.app]
  rfl

theorem exec_booted {node : Node T}
    (started : exec F environment command database = .ok node) :
    ∃ config,
      command.getConfig F environment = .ok config ∧
        Booted F config node.world ∧
        F.maybeInitializeState config database =
          .ok node.world.database ∧
        node.services = initSubServices config := by
  obtain ⟨config, initialized, configured, initialization, rfl⟩ :=
    exec_ok.mp started
  exact ⟨config, configured, ⟨rfl, rfl⟩, initialization, rfl⟩

end Spec

end Fuelmint
