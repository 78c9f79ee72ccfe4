import Fuelmint.BlockContents

/-!
# The DA height of a rollup without a base layer

`EmptyRelayer` answers its fixed height whatever it is asked for, although a
relayer is to wait for at least that height.  The answer is high enough
because no block is ever stored with another DA height: genesis starts at 0,
and each block repeats the answer of the relayer.
-/

namespace Fuelmint

open Foundation

variable {T : Types} {F : FuelCore T}

/-- The workers a node gets to from a database: it is started with some flags,
receives requests, and is started again with any flags on what it left. -/
inductive Reaches (F : FuelCore T) (fresh : Database T) :
    Worker (World T) → Prop
  | start {environment : Option String} {command : Command}
      {node : Node T} :
      exec F environment command fresh = .ok node →
        Reaches F fresh (.serving node.world)
  | receive {worker : Worker (World T)} (timed : TimedRequest) :
      Reaches F fresh worker →
        Reaches F fresh (worker.serve (serveRequest F) timed).1
  | restart {worker : Worker (World T)}
      (environment : Option String) (command : Command) :
      Reaches F fresh worker →
        Reaches F fresh (restart F environment command worker.state)

/-- The histories with fixed flags are among them. -/
theorem reaches_nodeAfter
    {environment : Option String} {command : Command}
    {fresh : Database T} {node : Node T}
    (started : exec F environment command fresh = .ok node)
    (history : List (Occurrence TimedRequest)) :
    Reaches F fresh (nodeAfter F environment command node history) := by
  refine Worker.after_preserves (Reaches F fresh) ?_ (Reaches.start started)
  intro occurrence _ worker reached
  cases occurrence with
  | receive timed => exact Reaches.receive timed reached
  | restart => exact Reaches.restart environment command reached

/-- What every start builds, answered requests keep and panics leave, every
reached worker has. -/
theorem Reaches.holds
    {Alive Left : World T → Prop} {fresh : Database T}
    (weaken : ∀ world, Alive world → Left world)
    (onStart :
      ∀ environment command node,
        exec F environment command fresh = .ok node → Alive node.world)
    (onAnswer :
      ∀ timed before answer next,
        Alive before →
        serveRequest F timed before = .ok answer next → Alive next)
    (onPanic :
      ∀ timed before panic stuck,
        Alive before →
        serveRequest F timed before = .error panic stuck → Left stuck)
    (onRestart :
      ∀ environment command left node,
        Left left →
        exec F environment command left.database = .ok node →
          Alive node.world)
    {worker : Worker (World T)} (reached : Reaches F fresh worker) :
    worker.Holds Alive Left := by
  induction reached with
  | start started =>
      exact onStart _ _ _ started
  | receive timed _ known =>
      exact Worker.serve_holds onAnswer onPanic known timed
  | @restart worker environment command _ known =>
      have left : Left worker.state := known.left weaken
      unfold Fuelmint.restart
      cases started : exec F environment command worker.state.database with
      | ok node => exact onRestart _ _ _ _ left started
      | error message => exact left

/-! ## Blocks at DA height 0 -/

/-- There is a block, and every block has DA height 0. -/
structure AtZero (database : Database T) : Prop where
  stored : ∃ height, database.Stores height
  zero :
    ∀ height block,
      database.getBlock height = some block → block.header.daHeight = 0

theorem AtZero.genesis
    (genesis : GenesisLaws F) {config : Config T}
    {fresh initialized : Database T}
    (empty : ∀ height, ¬ fresh.Stores height)
    (initialization :
      F.maybeInitializeState config fresh = .ok initialized) :
    AtZero initialized := by
  obtain ⟨first, _, daHeight, _, blocks⟩ :=
    genesis.fresh empty initialization
  constructor
  · exact
      ⟨config.chainConf.genesisHeight,
        genesis.stores_genesis empty initialization⟩
  · intro height block found
    rw [blocks] at found
    by_cases atGenesis : height = config.chainConf.genesisHeight
    · rw [if_pos atGenesis] at found
      cases found
      exact daHeight
    · rw [if_neg atGenesis] at found
      cases found

/-- The relayer of every application that `exec` builds. -/
def World.HasEmptyRelayer (world : World T) : Prop :=
  world.app.producer.relayer =
    EmptyRelayer.waitForAtLeast { zeroHeight := 0 }

theorem Booted.hasEmptyRelayer
    {config : Config T} {world : World T}
    (booted : Booted F config world) : world.HasEmptyRelayer := by
  unfold World.HasEmptyRelayer
  rw [booted.app]
  rfl

/-- A block that is produced with an empty relayer has DA height 0. -/
theorem Produced.daHeight
    (heights : HeightLaws F)
    {lowDaHeight : (answer asked : DaBlockHeight) → String}
    (relayer : RelayerLaws F lowDaHeight)
    {now : Tai64} {height : Int64} {world : World T}
    (empty : world.HasEmptyRelayer)
    (produced : Produced F now height world) :
    produced.block.header.daHeight = 0 := by
  obtain ⟨_, stored, _⟩ := produced.height_spec heights
  obtain ⟨previous, found⟩ := Option.isSome_iff_exists.mp stored
  obtain ⟨answered, _⟩ := relayer.produced produced.production found
  have fixed :
      world.app.producer.relayer previous.header.daHeight = .ok 0 := by
    rw [empty]
    rfl
  rw [fixed] at answered
  exact (Except.ok.inj answered).symm

theorem AtZero.produced
    (heights : HeightLaws F)
    {lowDaHeight : (answer asked : DaBlockHeight) → String}
    (relayer : RelayerLaws F lowDaHeight)
    {now : Tai64} {height : Int64} {world : World T}
    (empty : world.HasEmptyRelayer) (atZero : AtZero world.database)
    (produced : Produced F now height world) :
    AtZero produced.outcome.database := by
  constructor
  · exact ⟨_, produced.stores_outcome heights⟩
  · intro other block found
    rw [produced.getBlock_outcome heights] at found
    by_cases written : other = BlockHeight.ofRequest height
    · rw [if_pos written] at found
      cases found
      exact produced.daHeight heights relayer empty
    · rw [if_neg written] at found
      exact atZero.zero other block found

/-- A serving application of the node. -/
structure ServesAtZero (world : World T) : Prop where
  atZero : AtZero world.database
  relayer : world.HasEmptyRelayer

theorem ServesAtZero.step
    (heights : HeightLaws F)
    {lowDaHeight : (answer asked : DaBlockHeight) → String}
    (relayer : RelayerLaws F lowDaHeight) {timed : TimedRequest}
    {world next : World T} {answer : Response}
    (serves : ServesAtZero world)
    (answered : serveRequest F timed world = .ok answer next) :
    ServesAtZero next := by
  have transition := serveRequest_ok.mp answered
  obtain ⟨_, producer, _⟩ := transition.app_eq
  constructor
  · rcases transition.database_cases with
      ⟨_, unchanged⟩ | ⟨height, produced, _, rfl⟩
    · rw [unchanged]
      exact serves.atZero
    · exact serves.atZero.produced heights relayer serves.relayer produced
  · unfold World.HasEmptyRelayer
    rw [producer]
    exact serves.relayer

/-- Asked for the DA height of a stored block, the relayer answers the same
0. -/
theorem ServesAtZero.relayer_answer
    {world : World T} (serves : ServesAtZero world)
    {height : BlockHeight} {previous : Block T}
    (found : world.database.getBlock height = some previous) :
    world.app.producer.relayer previous.header.daHeight = .ok 0 ∧
      previous.header.daHeight = 0 := by
  constructor
  · rw [serves.relayer]
    rfl
  · exact serves.atZero.zero height previous found

/-- No EndBlock fails for a DA height that is too low. -/
theorem ServesAtZero.not_refused
    {lowDaHeight : (answer asked : DaBlockHeight) → String}
    (relayer : RelayerLaws F lowDaHeight)
    {world : World T} (serves : ServesAtZero world)
    (now : Tai64) (height : Int64) (answer asked : DaBlockHeight) :
    (world.production F now height).1 ≠
      .error (lowDaHeight answer asked) := by
  intro failed
  obtain ⟨previous, found, lower⟩ :=
    relayer.refused (Prod.ext failed rfl)
  obtain ⟨answered, zero⟩ := serves.relayer_answer found
  have impossible := lower 0 answered
  rw [zero] at impossible
  exact absurd impossible (by decide)

/-- Every worker that a node gets to from an empty database has its blocks at
DA height 0. -/
theorem Reaches.atZero
    (genesis : GenesisLaws F) (heights : HeightLaws F)
    {lowDaHeight : (answer asked : DaBlockHeight) → String}
    (relayer : RelayerLaws F lowDaHeight)
    {fresh : Database T} (empty : ∀ height, ¬ fresh.Stores height)
    {worker : Worker (World T)} (reached : Reaches F fresh worker) :
    worker.Holds ServesAtZero (fun left => AtZero left.database) := by
  refine reached.holds (fun _ serves => serves.atZero) ?_ ?_ ?_ ?_
  · intro environment command node started
    obtain ⟨_, _, booted, initialization, _⟩ := exec_booted started
    exact
      { atZero := AtZero.genesis genesis empty initialization
        relayer := booted.hasEmptyRelayer }
  · intro timed before answer next serves answered
    exact serves.step heights relayer answered
  · intro timed before panic stuck serves failed
    rw [(call_error failed).database_eq]
    exact serves.atZero
  · intro environment command left node atZero started
    obtain ⟨config, _, booted, initialization, _⟩ := exec_booted started
    obtain ⟨height, stored⟩ := atZero.stored
    rw [genesis.existing config stored] at initialization
    have kept : left.database = node.world.database :=
      Except.ok.inj initialization
    exact
      { atZero := kept ▸ atZero
        relayer := booted.hasEmptyRelayer }

/-- The relayer never holds up a block: every stored block has DA height 0,
the answer to an EndBlock is 0, which is at least the DA height of the block
before, and production never fails for an answer that is too low. -/
theorem empty_relayer_never_stalls
    (genesis : GenesisLaws F) (heights : HeightLaws F)
    {lowDaHeight : (answer asked : DaBlockHeight) → String}
    (relayer : RelayerLaws F lowDaHeight)
    {fresh : Database T} (empty : ∀ height, ¬ fresh.Stores height)
    {worker : Worker (World T)} (reached : Reaches F fresh worker) :
    (∀ height block,
      worker.state.database.getBlock height = some block →
        block.header.daHeight = 0) ∧
      ∀ world now height,
        worker = .serving world →
          world.HasEmptyRelayer ∧
            (∀ previous,
              world.database.getBlock (BlockHeight.ofRequest height - 1) =
                  some previous →
                world.app.producer.relayer previous.header.daHeight =
                    .ok 0 ∧
                  previous.header.daHeight ≤ 0) ∧
            ∀ answer asked,
              (world.production F now height).1 ≠
                .error (lowDaHeight answer asked) := by
  have known := reached.atZero genesis heights relayer empty
  have atZero : AtZero worker.state.database :=
    known.left fun _ serves => serves.atZero
  refine ⟨atZero.zero, ?_⟩
  rintro world now height rfl
  have serves : ServesAtZero world := known
  refine ⟨serves.relayer, ?_, serves.not_refused relayer now height⟩
  intro previous found
  obtain ⟨answered, zero⟩ := serves.relayer_answer found
  refine ⟨answered, ?_⟩
  rw [zero]
  exact UInt64.le_refl 0

section TwoBlocks

open LocalTestnet

/-- A block, a stop of the process and a second block. -/
def restartedBlocks : List (Occurrence TimedRequest) :=
  [.receive (1, .endBlock 1), .restart, .receive (2, .endBlock 2)]

theorem empty_relayer_never_stalls_restarted :
    (nodeAfter core none command firstNode
        restartedBlocks).state.database.IsLatest 2 ∧
      (∀ height block,
        (nodeAfter core none command firstNode
            restartedBlocks).state.database.getBlock height = some block →
          block.header.daHeight = 0) := by
  have result :=
    empty_relayer_never_stalls core_genesisLaws core_heightLaws
      core_relayerLaws freshDatabase_empty
      (reaches_nodeAfter exec_fresh restartedBlocks)
  exact ⟨by decide, result.1⟩

end TwoBlocks

end Fuelmint
