import Fuelmint.Foundation.Intervals
import Fuelmint.LocalTestnet

/-!
# How the chain grows

The heights under which blocks are stored, over every history of requests,
panics and restarts.  The abstract chain is an interval that starts at genesis
and lets a height join when its predecessor is inside; the database follows it
step by step.  Nothing compares the requested height with the tip, so a height
that is already taken may be written again.
-/

namespace Fuelmint

open Foundation

variable {T : Types} {F : FuelCore T}

/-- The worker of a node after a history of requests and restarts. -/
def nodeAfter (F : FuelCore T) (environment : Option String)
    (command : Command) (node : Node T)
    (history : List (Occurrence TimedRequest)) : Worker (World T) :=
  (Worker.serving node.world).after (serveRequest F)
    (restart F environment command) history

/-- The stored heights are those of the interval. -/
structure Covers (database : Database T) (interval : Interval) :
    Prop where
  stores_iff :
    ∀ height : BlockHeight,
      database.Stores height ↔ height.toNat ∈ interval
  bounded : interval.top < 2 ^ 32

theorem toNat_sub_one {height : BlockHeight} (positive : height ≠ 0) :
    (height - 1).toNat = height.toNat - 1 := by
  have nonzero : height.toNat ≠ 0 := by
    intro zero
    exact positive (UInt32.toNat_inj.mp zero)
  have atLeastOne : (1 : BlockHeight) ≤ height := by
    rw [UInt32.le_iff_toNat_le]
    change 1 ≤ height.toNat
    omega
  exact UInt32.toNat_sub_of_le height 1 atLeastOne

namespace Covers

variable {database : Database T} {interval : Interval}

/-- The top of a covered interval is the latest height. -/
theorem exists_latest (covers : Covers database interval) :
    ∃ tip, database.IsLatest tip ∧ tip.toNat = interval.top := by
  have top : (UInt32.ofNat interval.top).toNat = interval.top :=
    UInt32.toNat_ofNat_of_lt covers.bounded
  refine ⟨UInt32.ofNat interval.top, ⟨?_, ?_⟩, top⟩
  · rw [covers.stores_iff, top]
    exact interval.top_mem
  · intro other stored
    rw [UInt32.le_iff_toNat_le, top]
    exact ((covers.stores_iff other).mp stored).2

theorem exists_stored (covers : Covers database interval) :
    ∃ height, database.Stores height := by
  obtain ⟨tip, latest, _⟩ := covers.exists_latest
  exact ⟨tip, latest.1⟩

/-- The genesis block makes the interval of one height. -/
theorem genesis
    {config : Config T} {fresh : Database T}
    (laws : GenesisLaws F)
    (empty : ∀ height, ¬ fresh.Stores height)
    (initialization :
      F.maybeInitializeState config fresh = .ok database) :
    Covers database
      (Interval.point config.chainConf.genesisHeight.toNat) := by
  obtain ⟨block, _, _, _, stored⟩ := laws.fresh empty initialization
  constructor
  · intro height
    rw [Interval.mem_point, UInt32.toNat_inj]
    unfold Database.Stores
    rw [stored]
    split <;> simp [*]
  · exact config.chainConf.genesisHeight.toNat_lt

end Covers

/-! ## One EndBlock -/

section EndBlock

variable {now : Tai64} {height : Int64} {world : World T}
  {interval : Interval}

/-- What the producer checked about the height it was given. -/
theorem Produced.height_spec
    (laws : HeightLaws F) (produced : Produced F now height world) :
    BlockHeight.ofRequest height ≠ 0 ∧
      world.database.Stores (BlockHeight.ofRequest height - 1) ∧
      produced.block.header.height = BlockHeight.ofRequest height :=
  laws.produced produced.production

theorem Produced.previous_mem
    (laws : HeightLaws F) (produced : Produced F now height world)
    (covers : Covers world.database interval) :
    (BlockHeight.ofRequest height).toNat ≠ 0 ∧
      (BlockHeight.ofRequest height).toNat - 1 ∈ interval := by
  obtain ⟨positive, stored, _⟩ := produced.height_spec laws
  constructor
  · intro zero
    exact positive (UInt32.toNat_inj.mp zero)
  · rw [← toNat_sub_one positive]
    exact (covers.stores_iff _).mp stored

/-- The new block is stored under its height; nothing else moves. -/
theorem Produced.getBlock_outcome
    (laws : HeightLaws F) (produced : Produced F now height world)
    (other : BlockHeight) :
    produced.outcome.database.getBlock other =
      if other = BlockHeight.ofRequest height then
        some produced.block
      else
        world.database.getBlock other := by
  obtain ⟨_, _, stored⟩ := produced.height_spec laws
  rw [produced.outcome_database, DbTransaction.getBlock_applyTo]
  rw [← stored]
  rfl

theorem Produced.stores_outcome
    (laws : HeightLaws F) (produced : Produced F now height world) :
    produced.outcome.database.Stores (BlockHeight.ofRequest height) := by
  have found :=
    produced.getBlock_outcome laws (BlockHeight.ofRequest height)
  rw [if_pos rfl] at found
  exact Database.stores_of_getBlock found

/-- An EndBlock joins its height to the interval. -/
theorem Produced.covers
    (laws : HeightLaws F) (produced : Produced F now height world)
    (covers : Covers world.database interval) :
    Covers produced.outcome.database
      (interval.join (BlockHeight.ofRequest height).toNat) := by
  have previous := (produced.previous_mem laws covers).2
  constructor
  · intro other
    rw [Interval.mem_join previous, ← covers.stores_iff,
      UInt32.toNat_inj]
    unfold Database.Stores
    rw [produced.getBlock_outcome laws]
    split <;> simp [*]
  · have bounded := covers.bounded
    have small := (BlockHeight.ofRequest height).toNat_lt
    change max interval.top _ < _
    omega

end EndBlock

/-! ## Histories -/

section Histories

variable {environment : Option String} {command : Command}
  {node : Node T}

/-- The chain a node keeps: an interval from its genesis height, and the means
to restart on it. -/
structure KeepsChain (F : FuelCore T) (environment : Option String)
    (command : Command) (config : Config T) (bottom : Nat)
    (database : Database T) : Prop where
  configured : command.getConfig F environment = .ok config
  interval :
    ∃ interval : Interval,
      interval.bottom = bottom ∧ Covers database interval

variable {config : Config T} {bottom : Nat}

/-- One occurrence leaves the database alone or stores the block of an
answered EndBlock. -/
theorem occur_database_cases
    (genesis : GenesisLaws F) {worker : Worker (World T)}
    (keeps :
      KeepsChain F environment command config bottom
        worker.state.database)
    (occurrence : Occurrence TimedRequest) :
    (worker.occur (serveRequest F) (restart F environment command)
        occurrence).state.database = worker.state.database ∨
      ∃ now height world, ∃ produced : Produced F now height world,
        occurrence = .receive (now, .endBlock height) ∧
          worker = .serving world ∧
          worker.occur (serveRequest F) (restart F environment command)
              occurrence = .serving produced.outcome := by
  cases occurrence with
  | restart =>
      obtain ⟨interval, _, covers⟩ := keeps.interval
      obtain ⟨height, stored⟩ := covers.exists_stored
      left
      rw [Worker.occur,
        restart_of_stores genesis keeps.configured stored]
      rfl
  | receive timed =>
      cases worker with
      | stopped current =>
          exact Or.inl rfl
      | serving current =>
          cases outcome : serveRequest F timed current with
          | error panic stuck =>
              left
              rw [Worker.occur, Worker.serve_error outcome]
              exact (call_error outcome).database_eq
          | ok answer next =>
              rw [Worker.occur, Worker.serve_ok outcome]
              rcases (serveRequest_ok.mp outcome).database_cases with
                ⟨_, unchanged⟩ | ⟨height, produced, request, rfl⟩
              · exact Or.inl unchanged
              · right
                obtain ⟨now, _⟩ := timed
                cases request
                exact ⟨now, height, current, produced, rfl, rfl, rfl⟩

theorem KeepsChain.produced
    (heights : HeightLaws F) {now : Tai64} {height : Int64}
    {world : World T}
    (keeps :
      KeepsChain F environment command config bottom world.database)
    (produced : Produced F now height world) :
    KeepsChain F environment command config bottom
      produced.outcome.database := by
  obtain ⟨interval, atBottom, covers⟩ := keeps.interval
  exact
    { configured := keeps.configured
      interval :=
        ⟨interval.join _, atBottom, produced.covers heights covers⟩ }

theorem KeepsChain.occur
    (genesis : GenesisLaws F) (heights : HeightLaws F)
    {worker : Worker (World T)}
    (keeps :
      KeepsChain F environment command config bottom
        worker.state.database)
    (occurrence : Occurrence TimedRequest) :
    KeepsChain F environment command config bottom
      (worker.occur (serveRequest F) (restart F environment command)
        occurrence).state.database := by
  rcases occur_database_cases genesis keeps occurrence with
    unchanged | ⟨now, height, world, produced, _, rfl, stepped⟩
  · rwa [unchanged]
  · rw [stepped]
    exact keeps.produced heights produced

theorem KeepsChain.after
    (genesis : GenesisLaws F) (heights : HeightLaws F)
    {worker : Worker (World T)}
    (keeps :
      KeepsChain F environment command config bottom
        worker.state.database)
    (history : List (Occurrence TimedRequest)) :
    KeepsChain F environment command config bottom
      (worker.after (serveRequest F) (restart F environment command)
        history).state.database :=
  Worker.after_preserves
    (fun worker : Worker (World T) =>
      KeepsChain F environment command config bottom
        worker.state.database)
    (fun occurrence _ _ known =>
      known.occur genesis heights occurrence)
    keeps

/-- A node started on a fresh database keeps a chain from its genesis. -/
theorem keepsChain_of_exec
    (genesis : GenesisLaws F) {fresh : Database T}
    (empty : ∀ height, ¬ fresh.Stores height)
    (started : exec F environment command fresh = .ok node) :
    KeepsChain F environment command node.world.app.config
      node.world.app.config.chainConf.genesisHeight.toNat
      node.world.database := by
  obtain ⟨config, configured, booted, initialization, _⟩ :=
    exec_booted started
  rw [booted.config_eq]
  exact
    { configured := configured
      interval :=
        ⟨_, rfl, Covers.genesis genesis empty initialization⟩ }

/-- Every answered EndBlock of the history writes above the tip it meets. -/
def AboveTip (F : FuelCore T) (environment : Option String)
    (command : Command) (worker : Worker (World T))
    (history : List (Occurrence TimedRequest)) : Prop :=
  ∀ before now height after world answer next tip,
    history = before ++ .receive (now, .endBlock height) :: after →
    worker.after (serveRequest F) (restart F environment command)
        before = .serving world →
    App.call F now (.endBlock height) world = .ok answer next →
    world.database.IsLatest tip →
      tip < BlockHeight.ofRequest height

theorem AboveTip.tail
    {worker : Worker (World T)} {first : Occurrence TimedRequest}
    {rest : List (Occurrence TimedRequest)}
    (above :
      AboveTip F environment command worker (first :: rest)) :
    AboveTip F environment command
      (worker.occur (serveRequest F) (restart F environment command)
        first) rest := by
  intro before now height after world answer next tip split reached
    answered latest
  exact above (first :: before) now height after world answer next tip
    (by rw [split]; rfl) reached answered latest

/-- Blocks above which the chain grows are never replaced. -/
theorem AboveTip.getBlock
    (genesis : GenesisLaws F) (heights : HeightLaws F)
    {worker : Worker (World T)}
    (keeps :
      KeepsChain F environment command config bottom
        worker.state.database)
    {history : List (Occurrence TimedRequest)}
    (above : AboveTip F environment command worker history)
    {height : BlockHeight} {block : Block T}
    (stored : worker.state.database.getBlock height = some block) :
    (worker.after (serveRequest F) (restart F environment command)
        history).state.database.getBlock height = some block := by
  induction history generalizing worker with
  | nil =>
      exact stored
  | cons first rest inductionHypothesis =>
      apply inductionHypothesis (keeps.occur genesis heights first)
        above.tail
      rcases occur_database_cases genesis keeps first with
        unchanged | ⟨now, requested, world, produced, rfl, rfl, stepped⟩
      · rwa [unchanged]
      · obtain ⟨interval, _, covers⟩ := keeps.interval
        obtain ⟨tip, latest, _⟩ := covers.exists_latest
        have answered :
            App.call F now (.endBlock requested) world =
              .ok (.endBlock {}) produced.outcome :=
          call_ok.mpr (Transition.endBlock produced)
        have higher : tip < BlockHeight.ofRequest requested :=
          above [] now requested rest world _ _ tip rfl rfl answered
            latest
        have taken : world.database.Stores height :=
          Database.stores_of_getBlock stored
        have below : height ≤ tip := latest.2 height taken
        have different : height ≠ BlockHeight.ofRequest requested := by
          intro same
          rw [same] at below
          exact absurd higher (UInt32.not_lt.mpr below)
        rw [stepped]
        simp only [Worker.state]
        rw [produced.getBlock_outcome heights, if_neg different]
        exact stored

theorem answered_endBlock
    {now : Tai64} {height : Int64} {world next : World T}
    {answer : Response}
    (answered :
      App.call F now (.endBlock height) world = .ok answer next) :
    ∃ produced : Produced F now height world,
      next = produced.outcome := by
  have transition := call_ok.mp answered
  cases transition with
  | endBlock produced => exact ⟨produced, rfl⟩
  | unhandled default => cases default

/-- An answered EndBlock stores the block it produced, between genesis and one
above the tip, and touches no other height. -/
theorem KeepsChain.endBlock
    (heights : HeightLaws F) {world next : World T}
    (keeps :
      KeepsChain F environment command config bottom world.database)
    {now : Tai64} {height : Int64} {answer : Response}
    (answered :
      App.call F now (.endBlock height) world = .ok answer next) :
    ∃ tip uncommitted,
      world.database.IsLatest tip ∧
        bottom < (BlockHeight.ofRequest height).toNat ∧
        (BlockHeight.ofRequest height).toNat ≤ tip.toNat + 1 ∧
        (world.production F now height).1 = .ok uncommitted ∧
        next.database.getBlock (BlockHeight.ofRequest height) =
          some uncommitted.dbTransaction.block ∧
        ∀ other, other ≠ BlockHeight.ofRequest height →
          next.database.getBlock other = world.database.getBlock other := by
  obtain ⟨produced, rfl⟩ := answered_endBlock answered
  obtain ⟨interval, rfl, covers⟩ := keeps.interval
  obtain ⟨tip, latest, top⟩ := covers.exists_latest
  obtain ⟨positive, previous⟩ := produced.previous_mem heights covers
  have lower := previous.1
  have upper := previous.2
  refine ⟨tip, produced.uncommitted, latest, by omega, by omega, ?_, ?_,
    ?_⟩
  · rw [produced.production_eq]
  · rw [produced.getBlock_outcome heights, if_pos rfl]
    rfl
  · intro other different
    rw [produced.getBlock_outcome heights, if_neg different]

/-- The chain is contiguous over every history, whatever heights EndBlock asks
for: an answered EndBlock stores the block it produced between genesis and one
above the tip, and as long as EndBlocks go above the tip no stored block is
replaced. -/
theorem chain_contiguous
    (genesis : GenesisLaws F) (heights : HeightLaws F)
    {fresh : Database T} (empty : ∀ height, ¬ fresh.Stores height)
    (started : exec F environment command fresh = .ok node)
    (history : List (Occurrence TimedRequest)) :
    (∃ interval : Interval,
      interval.bottom =
          node.world.app.config.chainConf.genesisHeight.toNat ∧
        Covers
          (nodeAfter F environment command node history).state.database
          interval) ∧
    (∀ now height world answer next,
      nodeAfter F environment command node history = .serving world →
      App.call F now (.endBlock height) world = .ok answer next →
        ∃ tip uncommitted,
          world.database.IsLatest tip ∧
            node.world.app.config.chainConf.genesisHeight.toNat <
              (BlockHeight.ofRequest height).toNat ∧
            (BlockHeight.ofRequest height).toNat ≤ tip.toNat + 1 ∧
            (world.production F now height).1 = .ok uncommitted ∧
            next.database.getBlock (BlockHeight.ofRequest height) =
              some uncommitted.dbTransaction.block ∧
            ∀ other, other ≠ BlockHeight.ofRequest height →
              next.database.getBlock other =
                world.database.getBlock other) ∧
    ∀ later,
      AboveTip F environment command
          (nodeAfter F environment command node history) later →
        ∀ height block,
          (nodeAfter F environment command node
              history).state.database.getBlock height = some block →
            (nodeAfter F environment command node
                (history ++ later)).state.database.getBlock height =
              some block := by
  have initially :
      KeepsChain F environment command node.world.app.config
        node.world.app.config.chainConf.genesisHeight.toNat
        (Worker.serving node.world).state.database :=
    keepsChain_of_exec genesis empty started
  have keeps := initially.after genesis heights history
  refine ⟨keeps.interval, ?_, ?_⟩
  · intro now height world answer next reached answered
    have here :
        (nodeAfter F environment command node history).state = world := by
      rw [reached]
      rfl
    rw [← here] at answered ⊢
    exact KeepsChain.endBlock heights keeps answered
  · intro later above height block stored
    unfold nodeAfter
    rw [Worker.after_append]
    exact above.getBlock genesis heights keeps stored

end Histories

/-- Every answered EndBlock asks for the height after the latest block. -/
def EndBlockExtends (F : FuelCore T) (environment : Option String)
    (command : Command) (node : Node T) : Prop :=
  ∀ history now height world answer next tip,
    nodeAfter F environment command node history = .serving world →
    App.call F now (.endBlock height) world = .ok answer next →
    world.database.IsLatest tip →
      height.toInt = tip.toNat + 1

section Rewrite

open LocalTestnet

/-- Two empty blocks and a delivery that pays a fee. -/
def twoBlocks : List (Occurrence TimedRequest) :=
  [.receive (1, .endBlock 1), .receive (2, .endBlock 2),
    .receive (3, .deliverTx [1, 1, 4, 7])]

/-- EndBlock(1) is answered at tip 2 and replaces the block at height 1.  The
fee makes the mint of the new block another transaction than the first one. -/
theorem endBlock_rewrites_chain :
    ¬ EndBlockExtends core none command firstNode ∧
      ((nodeAfter core none command firstNode
          twoBlocks).state.database.getBlock 1).map
            Block.transactions = some [coinbase 101 1 0] ∧
      ((nodeAfter core none command firstNode
          (twoBlocks ++
            [.receive (4, .endBlock 1)])).state.database.getBlock 1).map
            Block.transactions =
          some [coinbase 101 1 4, transfer 1 1 4 7] := by
  refine ⟨?_, rfl, rfl⟩
  intro follows
  have next :=
    follows twoBlocks 4 1 _ _ _ 2 rfl rfl (by decide)
  revert next
  decide

theorem chain_contiguous_twoBlocks :
    ∃ interval : Interval,
      interval.bottom = 0 ∧
        Covers
          (nodeAfter core none command firstNode
            twoBlocks).state.database interval :=
  (chain_contiguous core_genesisLaws core_heightLaws
    freshDatabase_empty exec_fresh twoBlocks).1

end Rewrite

end Fuelmint
