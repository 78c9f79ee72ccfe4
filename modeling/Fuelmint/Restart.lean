import Fuelmint.ChainGrowth

/-!
# The height after a restart

`exec` gives every start the same initial state, height 0, whatever the
database holds.  The height is kept in the application and in the database;
this module says when the two agree after a restart.
-/

namespace Fuelmint

open Foundation

variable {T : Types} {F : FuelCore T}

/-- An Info is answered with this last block height. -/
def ReportsHeight (F : FuelCore T) (world : World T) (height : Nat) :
    Prop :=
  ∀ now, ∃ answer,
    App.call F now .info world = .ok (.info answer) world ∧
      answer.lastBlockHeight.toNat = height

theorem reportsHeight_iff {world : World T} {height : Nat} :
    ReportsHeight F world height ↔
      world.app.currentState.blockHeight.toInt = height := by
  constructor
  · intro reports
    obtain ⟨answer, asked, reported⟩ := reports 0
    have transition := call_ok.mp asked
    cases transition with
    | unhandled default => cases default
    | info converted =>
        have exact := (Height.tryFrom_eq_some converted).2
        rw [← exact]
        exact congrArg Nat.cast reported
  · intro current now
    have nonneg : 0 ≤ world.app.currentState.blockHeight := by
      rw [Int64.le_iff_toInt_le, current]
      simp
    obtain ⟨converted, succeeds⟩ :=
      Option.isSome_iff_exists.mp
        ((Height.tryFrom_isSome_iff _).mpr nonneg)
    refine ⟨_, call_ok.mpr (Transition.info succeeds), ?_⟩
    have exact := (Height.tryFrom_eq_some succeeds).2
    rw [current] at exact
    exact Int.ofNat.inj exact

section Restarts

variable {environment : Option String} {command : Command}
  {config : Config T} {bottom : Nat}

/-- Any number of restarts ends where the first one does. -/
theorem after_restarts
    (genesis : GenesisLaws F)
    (configured : command.getConfig F environment = .ok config)
    (worker : Worker (World T)) {height : BlockHeight}
    (stored : worker.state.database.Stores height) (restarts : Nat) :
    worker.after (serveRequest F) (restart F environment command)
        (List.replicate (restarts + 1) .restart) =
      .serving (bootWorld F config worker.state.database) := by
  induction restarts generalizing worker with
  | zero =>
      exact restart_of_stores genesis configured stored
  | succ earlier inductionHypothesis =>
      rw [List.replicate_succ, Worker.after_cons, Worker.occur,
        restart_of_stores genesis configured stored]
      exact inductionHypothesis (.serving _) stored

/-- A serving node is at its initial height or has stored a block above
height 0. -/
structure Serves (F : FuelCore T) (environment : Option String)
    (command : Command) (config : Config T) (bottom : Nat)
    (world : World T) : Prop where
  chain :
    KeepsChain F environment command config bottom world.database
  height :
    world.app.currentState.blockHeight = 0 ∨
      ∃ height, height ≠ 0 ∧ world.database.Stores height

theorem Serves.step
    (heights : HeightLaws F) {timed : TimedRequest}
    {world next : World T} {answer : Response}
    (serves : Serves F environment command config bottom world)
    (answered : serveRequest F timed world = .ok answer next) :
    Serves F environment command config bottom next := by
  have transition := serveRequest_ok.mp answered
  rcases transition.database_cases with
    ⟨noEndBlock, unchanged⟩ | ⟨requested, produced, endBlock, rfl⟩
  · have current := transition.currentState_eq
    rw [noEndBlock] at current
    constructor
    · rw [unchanged]
      exact serves.chain
    · rw [current, unchanged]
      exact serves.height
  · obtain ⟨positive, _, _⟩ := produced.height_spec heights
    exact
      { chain := serves.chain.produced heights produced
        height :=
          Or.inr ⟨_, positive, produced.stores_outcome heights⟩ }

theorem KeepsChain.boot
    {database : Database T}
    (keeps :
      KeepsChain F environment command config bottom database) :
    Serves F environment command config bottom
      (bootWorld F config database) where
  chain := keeps
  height := Or.inl rfl

/-- Every serving worker of a node is in such a state. -/
theorem serves_of_nodeAfter
    (genesis : GenesisLaws F) (heights : HeightLaws F)
    {node : Node T} {fresh : Database T}
    (empty : ∀ height, ¬ fresh.Stores height)
    (started : exec F environment command fresh = .ok node)
    (history : List (Occurrence TimedRequest)) {world : World T}
    (reached :
      nodeAfter F environment command node history = .serving world) :
    Serves F environment command node.world.app.config
      node.world.app.config.chainConf.genesisHeight.toNat world := by
  have chain := keepsChain_of_exec genesis empty started
  have initially :
      Serves F environment command node.world.app.config
        node.world.app.config.chainConf.genesisHeight.toNat
        node.world := by
    obtain ⟨_, _, booted, _, _⟩ := exec_booted started
    refine ⟨chain, Or.inl ?_⟩
    rw [booted.currentState_eq]
    rfl
  have always :
      (nodeAfter F environment command node history).Holds
        (Serves F environment command node.world.app.config
          node.world.app.config.chainConf.genesisHeight.toNat)
        (fun left =>
          KeepsChain F environment command node.world.app.config
            node.world.app.config.chainConf.genesisHeight.toNat
            left.database) := by
    apply Worker.after_holds
    · intro state serves
      exact serves.chain
    · intro timed before answer next serves answered
      exact serves.step heights answered
    · intro timed before panic stuck serves failed
      rw [(call_error failed).database_eq]
      exact serves.chain
    · intro left keeps
      obtain ⟨interval, _, covers⟩ := keeps.interval
      obtain ⟨height, stored⟩ := covers.exists_stored
      rw [restart_of_stores genesis keeps.configured stored]
      exact keeps.boot
    · exact initially
  rw [reached] at always
  exact always

/-- The height reported before the stop is reported again after the last of
`restarts + 1` restarts, and is the height of the latest block. -/
def RestoresHeight (F : FuelCore T) (environment : Option String)
    (command : Command) (world : World T) (restarts : Nat) : Prop :=
  ∃ restarted height tip,
    (Worker.serving world).after (serveRequest F)
        (restart F environment command)
        (List.replicate (restarts + 1) .restart) =
      .serving restarted ∧
    ReportsHeight F world height ∧
    ReportsHeight F restarted height ∧
    world.database.IsLatest tip ∧ tip.toNat = height

theorem reportsHeight_bootWorld (config : Config T) (database : Database T) :
    ReportsHeight F (bootWorld F config database) 0 :=
  reportsHeight_iff.mpr rfl

/-- With blocks at height 0 only, application and database agree on 0. -/
theorem Serves.only_zero
    {world : World T}
    (serves : Serves F environment command config bottom world)
    (onlyZero : ∀ height, world.database.Stores height → height = 0) :
    ReportsHeight F world 0 ∧ world.database.IsLatest 0 := by
  constructor
  · rw [reportsHeight_iff]
    rcases serves.height with initial | ⟨height, positive, stored⟩
    · rw [initial]
      rfl
    · exact absurd (onlyZero height stored) positive
  · obtain ⟨interval, _, covers⟩ := serves.chain.interval
    obtain ⟨height, stored⟩ := covers.exists_stored
    have zero := onlyZero height stored
    subst zero
    refine ⟨stored, ?_⟩
    intro other otherStored
    rw [onlyZero other otherStored]
    exact UInt32.le_refl 0

/-- A node restores its heights exactly as long as the database holds no block
above height 0. -/
theorem Serves.restores_iff
    (genesis : GenesisLaws F) {node : Node T} {fresh : Database T}
    (started : exec F environment command fresh = .ok node)
    {world : World T}
    (serves :
      Serves F environment command node.world.app.config
        node.world.app.config.chainConf.genesisHeight.toNat world)
    (restarts : Nat) :
    (ReportsHeight F node.world
          node.world.app.config.chainConf.genesisHeight.toNat ∧
        RestoresHeight F environment command world restarts) ↔
      ∀ height, world.database.Stores height → height = 0 := by
  obtain ⟨interval, atBottom, covers⟩ := serves.chain.interval
  have genesisStored :
      world.database.Stores
        node.world.app.config.chainConf.genesisHeight := by
    rw [covers.stores_iff, ← atBottom]
    exact interval.bottom_mem
  have restarted :
      (Worker.serving world).after (serveRequest F)
          (restart F environment command)
          (List.replicate (restarts + 1) .restart) =
        .serving
          (bootWorld F node.world.app.config world.database) :=
    after_restarts genesis serves.chain.configured (.serving world)
      genesisStored restarts
  constructor
  · intro restores height stored
    obtain ⟨_, final, reportedHeight, tip, reachedFinal, _, reportsFinal,
      latest, top⟩ := restores
    rw [restarted] at reachedFinal
    cases reachedFinal
    have zero : (0 : Int) = reportedHeight :=
      reportsHeight_iff.mp reportsFinal
    have below : height ≤ tip := latest.2 height stored
    rw [UInt32.le_iff_toNat_le] at below
    apply UInt32.toNat_inj.mp
    change height.toNat = 0
    omega
  · intro onlyZero
    have genesisZero := onlyZero _ genesisStored
    obtain ⟨before, latest⟩ := serves.only_zero onlyZero
    obtain ⟨_, _, booted, _, _⟩ := exec_booted started
    have first : ReportsHeight F node.world 0 := by
      rw [reportsHeight_iff, booted.currentState_eq]
      rfl
    constructor
    · rw [genesisZero]
      exact first
    · exact
        ⟨_, 0, 0, restarted, before, reportsHeight_bootWorld _ _,
          latest, rfl⟩

/-- The first Info reports the genesis height and every restart restores the
height exactly as long as the database holds no block above height 0: the
genesis height is 0 and no EndBlock was answered. -/
theorem restart_restores_height_iff
    (genesis : GenesisLaws F) (heights : HeightLaws F)
    {node : Node T} {fresh : Database T}
    (empty : ∀ height, ¬ fresh.Stores height)
    (started : exec F environment command fresh = .ok node)
    (history : List (Occurrence TimedRequest)) {world : World T}
    (reached :
      nodeAfter F environment command node history = .serving world)
    (restarts : Nat) :
    (ReportsHeight F node.world
          node.world.app.config.chainConf.genesisHeight.toNat ∧
        RestoresHeight F environment command world restarts) ↔
      ∀ height, world.database.Stores height → height = 0 := by
  have serves :=
    serves_of_nodeAfter genesis heights empty started history reached
  exact serves.restores_iff genesis started restarts

end Restarts

section Lost

open LocalTestnet

/-- One committed block. -/
def committedBlock : List (Occurrence TimedRequest) :=
  [.receive (1, .beginBlock 1), .receive (2, .endBlock 1),
    .receive (3, .commit)]

/-- The world of the small chain after its first block is committed. -/
def committedWorld : World types :=
  (nodeAfter core none command firstNode committedBlock).state

/-- The same flags with a chain configuration whose genesis height is 7. -/
def snapshotCommand : Command :=
  { command with chainConfig := "snapshot" }

/-- The restarted node reports 0 after block 1 was committed, and a first node
reports 0 at genesis height 7. -/
theorem restart_forgets_height :
    ¬ RestoresHeight core none command committedWorld 0 ∧
      ∃ node,
        exec core none snapshotCommand freshDatabase = .ok node ∧
          node.world.database.IsLatest 7 ∧
          ¬ ReportsHeight core node.world 7 := by
  constructor
  · rintro ⟨final, height, tip, reached, before, after, _, _⟩
    rw [reportsHeight_iff] at before after
    cases reached
    have different : (1 : Int) = 0 := before.trans after.symm
    cases different
  · refine ⟨_, rfl, by decide, ?_⟩
    intro reports
    have wrong := reportsHeight_iff.mp reports
    cases wrong

theorem restart_restores_initial_height :
    ReportsHeight core firstNode.world 0 ∧
      RestoresHeight core none command firstNode.world 2 :=
  (restart_restores_height_iff core_genesisLaws core_heightLaws
    freshDatabase_empty exec_fresh
    [.receive (1, .beginBlock 1), .receive (2, .commit)] rfl 2).mpr (by
      intro height stored
      obtain ⟨entry, member, rfl⟩ := Database.stores_iff_mem.mp stored
      cases member with
      | head => rfl
      | tail _ later => cases later)

end Lost

end Fuelmint
