import Fuelmint.CommittedState

/-!
# Crashes and replays

A process killed between two requests leaves its database and nothing else.
`EndBlock` writes the database at once, so it is EndBlock, not Commit, after
which the work of a block survives; and `exec` starts from an empty pool, so
what EndBlock left in the pool does not.
-/

namespace Fuelmint

open Foundation

variable {T : Types} {F : FuelCore T}

/-! ## The resumed run follows the run that was not killed -/

/-- The same node up to the height in its current state, which a restarted
node may still have at 0. -/
structure Resumes (world resumed : World T) : Prop where
  config : resumed.app.config = world.app.config
  producer : resumed.app.producer = world.app.producer
  txPool : resumed.app.txPool = world.app.txPool
  shared : resumed.toShared = world.toShared
  height :
    resumed.app.currentState.blockHeight =
        world.app.currentState.blockHeight ∨
      resumed.app.currentState.blockHeight = 0

/-- A production depends on what the two nodes share. -/
theorem Resumes.produced
    {world resumed : World T} (resumes : Resumes world resumed)
    {now : Tai64} {height : Int64}
    (produced : Produced F now height world) :
    ∃ again : Produced F now height resumed,
      again.uncommitted = produced.uncommitted ∧
        again.selectedPool = produced.selectedPool := by
  have database : resumed.database = world.database :=
    congrArg Shared.database resumes.shared
  refine ⟨
    { uncommitted := produced.uncommitted
      selectedPool := produced.selectedPool
      production := ?_
      committed := ?_ }, rfl, rfl⟩
  · rw [resumes.producer, resumes.shared, resumes.config]
    exact produced.production
  · rw [database]
    exact produced.committed

/-- A request is answered again, at the same time if it makes a block. -/
theorem Resumes.step
    {world resumed next : World T} (resumes : Resumes world resumed)
    {shared : SharedRequest} (sameTime : shared.SameBlockTime)
    {answer : Response}
    (answered : serveRequest F shared.left world = .ok answer next) :
    ∃ answer' next',
      serveRequest F shared.right resumed = .ok answer' next' ∧
        Resumes next next' := by
  obtain ⟨now, again, request⟩ := shared
  have pool : resumed.pool = world.pool :=
    congrArg Shared.pool resumes.shared
  have database : resumed.database = world.database :=
    congrArg Shared.database resumes.shared
  have transition := serveRequest_ok.mp answered
  cases transition with
  | info converted =>
      have nonneg : 0 ≤ resumed.app.currentState.blockHeight := by
        rcases resumes.height with same | zero
        · rw [same]
          exact (Height.tryFrom_eq_some converted).1
        · rw [zero]
          decide
      obtain ⟨reported, succeeds⟩ :=
        Option.isSome_iff_exists.mp
          ((Height.tryFrom_isSome_iff _).mpr nonneg)
      exact ⟨_, resumed, serveRequest_ok.mpr (Transition.info succeeds),
        resumes⟩
  | deliverTx decoded insertion =>
      rw [← resumes.txPool, ← pool, ← database] at insertion
      refine ⟨_, _,
        serveRequest_ok.mpr (Transition.deliverTx decoded insertion), ?_⟩
      exact
        { config := resumes.config
          producer := resumes.producer
          txPool := resumes.txPool
          shared := by
            change (⟨_, resumed.database⟩ : Shared T) = ⟨_, _⟩
            rw [database]
          height := resumes.height }
  | endBlock produced =>
      have same : now = again := sameTime rfl
      subst same
      obtain ⟨again, sameUncommitted, samePool⟩ :=
        resumes.produced produced
      have sameRemoval : again.removal = produced.removal := by
        unfold Produced.removal Produced.skipped
        rw [sameUncommitted, samePool]
      refine ⟨_, _,
        serveRequest_ok.mpr (Transition.endBlock again), ?_⟩
      exact
        { config := resumes.config
          producer := resumes.producer
          txPool := resumes.txPool
          shared := by
            rw [again.outcome_toShared, produced.outcome_toShared,
              sameRemoval, sameUncommitted, database]
          height := Or.inl rfl }
  | commit =>
      refine ⟨_, _, serveRequest_ok.mpr Transition.commit, ?_⟩
      exact
        { config := resumes.config
          producer := resumes.producer
          txPool := resumes.txPool
          shared := resumes.shared
          height := resumes.height }
  | unhandled default =>
      exact ⟨_, _, serveRequest_ok.mpr (Transition.unhandled default),
        resumes⟩

/-! ## The durability point -/

/-- Without an EndBlock the database stays as it is. -/
theorem database_eq_of_no_endBlock
    {requests : List TimedRequest} {start finish : World T}
    (silent :
      ∀ timed ∈ requests, timed.2.endBlockHeight? = none)
    (served : Answered (serveRequest F) requests start finish) :
    finish.database = start.database := by
  refine
    served.invariant (fun world => world.database = start.database)
      ?_ rfl
  intro timed member before answer after kept answered
  rcases (serveRequest_ok.mp answered).database_cases with
    ⟨_, unchanged⟩ | ⟨height, _, endBlock, _⟩
  · rw [unchanged, kept]
  · have none := silent timed member
    rw [endBlock] at none
    cases none

/-- A started node has a block in its database. -/
theorem exec_stores
    (genesis : GenesisLaws F) {environment : Option String}
    {command : Command} {database : Database T} {node : Node T}
    (started : exec F environment command database = .ok node) :
    ∃ height, node.world.database.Stores height := by
  obtain ⟨config, _, _, initialization, _⟩ := exec_booted started
  by_cases fresh : ∀ height, ¬ database.Stores height
  · exact
      ⟨config.chainConf.genesisHeight,
        genesis.stores_genesis fresh initialization⟩
  · push Not at fresh
    obtain ⟨height, stored⟩ := fresh
    rw [genesis.existing config stored] at initialization
    cases initialization
    exact ⟨height, stored⟩

theorem app_eq_of_answered
    {requests : List TimedRequest} {start finish : World T}
    (served : Answered (serveRequest F) requests start finish) :
    finish.app.config = start.app.config ∧
      finish.app.producer = start.app.producer ∧
      finish.app.txPool = start.app.txPool := by
  refine
    served.invariant
      (fun world =>
        world.app.config = start.app.config ∧
          world.app.producer = start.app.producer ∧
          world.app.txPool = start.app.txPool)
      ?_ ⟨rfl, rfl, rfl⟩
  intro timed member before answer after kept answered
  obtain ⟨config, producer, txPool⟩ :=
    (serveRequest_ok.mp answered).app_eq
  rw [config, producer, txPool]
  exact kept

theorem stores_of_answered
    {requests : List TimedRequest} {start finish : World T}
    (served : Answered (serveRequest F) requests start finish)
    {height : BlockHeight} (stored : start.database.Stores height) :
    finish.database.Stores height :=
  served.invariant (fun world => world.database.Stores height)
    (fun _ _ _ _ _ kept answered =>
      (serveRequest_ok.mp answered).stores kept)
    stored

/-- With Commit as the durability point: the database that survives is the one
of the last Commit, and a restart that replays what came since ends where the
node was killed. -/
def SurvivesCrash (F : FuelCore T) (environment : Option String)
    (command : Command) (node : Node T) (requests : List TimedRequest) :
    Prop :=
  ∀ committed crashed,
    Answered (serveRequest F) (throughLastCommit requests)
        node.world committed →
    Answered (serveRequest F) requests node.world crashed →
      crashed.database = committed.database ∧
        ∃ restarted resumed,
          exec F environment command crashed.database = .ok restarted ∧
            Answered (serveRequest F) (sinceLastCommit requests)
              restarted.world resumed ∧
            resumed.database = crashed.database ∧
            resumed.pool = crashed.pool ∧
            resumed.app.currentState.blockHeight =
              crashed.app.currentState.blockHeight

theorem answered_since
    {before : List TimedRequest} {start ended crashed : World T}
    (toEndBlock :
      Answered (serveRequest F) (throughLastEndBlock before) start ended)
    (killed : Answered (serveRequest F) before start crashed) :
    Answered (serveRequest F) (sinceLastEndBlock before)
      ended crashed := by
  rw [← throughLastEndBlock_append_since before] at killed
  obtain ⟨middle, earlier, later⟩ := answered_append.mp killed
  rwa [answered_unique toEndBlock earlier]

/-- A started node can be started again on the database of any later point. -/
theorem exec_again
    (genesis : GenesisLaws F) {environment : Option String}
    {command : Command} {database : Database T} {node : Node T}
    (started : exec F environment command database = .ok node)
    {requests : List TimedRequest} {left : World T}
    (served : Answered (serveRequest F) requests node.world left) :
    ∃ config,
      Booted F config node.world ∧
        exec F environment command left.database =
          .ok {
            world := bootWorld F config left.database
            services := initSubServices config } := by
  obtain ⟨config, configured, booted, _, _⟩ := exec_booted started
  obtain ⟨height, stored⟩ := exec_stores genesis started
  have kept : F.maybeInitializeState config left.database = _ :=
    genesis.existing config (stores_of_answered served stored)
  exact ⟨config, booted,
    exec_ok.mpr ⟨config, left.database, configured, kept, rfl⟩⟩

/-- The restarted node is the old one, if nothing is lost with the pool. -/
theorem Booted.resumes
    {config : Config T} {start ended : World T}
    (booted : Booted F config start) {requests : List TimedRequest}
    (served : Answered (serveRequest F) requests start ended)
    (emptied : ended.pool = F.emptyPool) :
    Resumes ended (bootWorld F config ended.database) := by
  obtain ⟨sameConfig, sameProducer, samePool⟩ :=
    app_eq_of_answered served
  rw [booted.app] at sameConfig sameProducer samePool
  have shared :
      (bootWorld F config ended.database).toShared = ended.toShared := by
    change (⟨F.emptyPool, _⟩ : Shared T) = ⟨ended.pool, _⟩
    rw [emptied]
  exact
    { config := sameConfig.symm
      producer := sameProducer.symm
      txPool := samePool.symm
      shared := shared
      height := Or.inr rfl }

theorem Resumes.run
    {requests : List SharedRequest}
    (sameTimes : ∀ shared ∈ requests, shared.SameBlockTime)
    {world resumed finish : World T}
    (resumes : Resumes world resumed)
    (served :
      Answered (serveRequest F) (requests.map SharedRequest.left) world
        finish) :
    ∃ final,
      Answered (serveRequest F) (requests.map SharedRequest.right)
          resumed final ∧
        Resumes finish final := by
  unfold Answered at served ⊢
  rw [runAll_map] at served ⊢
  obtain ⟨answers, run⟩ := served
  obtain ⟨answers', final, replayed, _, follows⟩ :=
    runAll_simulation (fun _ _ => True)
      (fun shared member world other answer next related answered => by
        obtain ⟨answer', next', answered', related'⟩ :=
          Resumes.step related (sameTimes shared member) answered
        exact ⟨answer', next', answered', trivial, related'⟩)
      resumes run
  exact ⟨final, ⟨answers', replayed⟩, follows⟩

/-- EndBlock is the durability point.  A process killed anywhere leaves the
database of its last answered EndBlock.  If the pool was empty then, starting
again, replaying what came since and going on answers every request, at other
readings of the clock than in the run that was not killed except for blocks;
it ends with the database and the pool of that run, and with its state once an
EndBlock was replayed or none was lost. -/
theorem crash_replay
    (genesis : GenesisLaws F) {environment : Option String}
    {command : Command} {database : Database T} {node : Node T}
    (started : exec F environment command database = .ok node)
    {before after : List TimedRequest} {ended crashed finish : World T}
    (toEndBlock :
      Answered (serveRequest F) (throughLastEndBlock before)
        node.world ended)
    (killed : Answered (serveRequest F) before node.world crashed)
    (uninterrupted :
      Answered (serveRequest F) after crashed finish) :
    crashed.database = ended.database ∧
      (ended.pool = F.emptyPool →
        ∀ replay : List SharedRequest,
          replay.map SharedRequest.left =
              sinceLastEndBlock before ++ after →
          (∀ shared ∈ replay, shared.SameBlockTime) →
            ∃ restarted resumed,
              exec F environment command crashed.database =
                  .ok restarted ∧
                Answered (serveRequest F)
                  (replay.map SharedRequest.right)
                  restarted.world resumed ∧
                resumed.database = finish.database ∧
                resumed.pool = finish.pool ∧
                (lastEndBlockHeight? before = none ∨
                    (lastEndBlockHeight? after).isSome →
                  resumed.app.currentState =
                    finish.app.currentState)) := by
  have sinceEndBlock := answered_since toEndBlock killed
  have durable : crashed.database = ended.database :=
    database_eq_of_no_endBlock
      (fun timed member => no_endBlock_since member) sinceEndBlock
  refine ⟨durable, ?_⟩
  intro emptied replay original sameTimes
  obtain ⟨config, booted, restarted⟩ := exec_again genesis started killed
  have resumes := booted.resumes toEndBlock emptied
  rw [← durable] at resumes
  have notKilled :
      Answered (serveRequest F) (replay.map SharedRequest.left) ended
        finish := by
    rw [original]
    exact answered_append.mpr ⟨crashed, sinceEndBlock, uninterrupted⟩
  obtain ⟨resumed, replayed, follows⟩ := resumes.run sameTimes notKilled
  refine ⟨_, resumed, restarted, replayed,
    congrArg Shared.database follows.shared,
    congrArg Shared.pool follows.shared, ?_⟩
  intro heightKnown
  have uninterruptedState :=
    currentState_of_answered
      (answered_append.mpr ⟨crashed, killed, uninterrupted⟩)
  have resumedState := currentState_of_answered replayed
  rw [endedHeight_shared, original] at resumedState
  rw [booted.currentState_eq] at uninterruptedState
  rw [resumedState, uninterruptedState]
  exact
    congrArg (fun height => State.mk height [])
      (endedHeight_since heightKnown 0)

section Lost

open LocalTestnet

/-- A block that spends coin 7, killed before its Commit. -/
def killedBeforeCommit : List TimedRequest :=
  [(1, .beginBlock 1), (2, .deliverTx [1, 1, 4, 7]), (3, .endBlock 1)]

/-- The gas of a block holds one of two transactions; the other one is in the
pool when the block is committed. -/
def killedWithLeftover : List TimedRequest :=
  [(1, .beginBlock 1), (2, .deliverTx [1, 2, 8, 7]),
    (3, .deliverTx [2, 1, 8, 8]), (4, .endBlock 1), (5, .commit)]

/-- The block is stored before its Commit, so its transaction is refused when
it is replayed; and what EndBlock left in the pool is gone. -/
theorem crash_loses_commit_point :
    ¬ SurvivesCrash core none command firstNode killedBeforeCommit ∧
      ¬ SurvivesCrash core none command firstNode killedWithLeftover := by
  constructor
  · intro survives
    obtain ⟨sameDatabase, restarted, resumed, started, replayed, _⟩ :=
      survives _ _ ⟨_, rfl⟩ ⟨_, rfl⟩
    have sameSize := congrArg (fun left => left.blocks.length) sameDatabase
    revert sameSize
    decide
  · intro survives
    obtain ⟨_, restarted, resumed, started, replayed, _, samePool, _⟩ :=
      survives _ _ ⟨_, rfl⟩ ⟨_, rfl⟩
    cases started
    obtain ⟨answers, replayed⟩ := replayed
    cases replayed
    have sameSize := congrArg List.length samePool
    revert sameSize
    decide

/-- A second block, killed after its delivery. -/
def killedInSecondBlock : List TimedRequest :=
  [(1, .beginBlock 1), (2, .endBlock 1), (3, .commit),
    (4, .beginBlock 2), (5, .deliverTx [1, 1, 4, 7])]

/-- What came since the first EndBlock, an hour later, and the EndBlock that
was still to come. -/
def secondBlockReplay : List SharedRequest :=
  [(3, 3603, .commit), (4, 3604, .beginBlock 2),
    (5, 3605, .deliverTx [1, 1, 4, 7]), (3606, 3606, .endBlock 2),
    (3607, 3608, .commit)]

/-- The node that was killed in its second block stores that block. -/
theorem crash_replay_secondBlock :
    ∃ restarted resumed,
      exec core none command (worldAfter killedInSecondBlock).database =
          .ok restarted ∧
        Answered (serveRequest core)
          (secondBlockReplay.map SharedRequest.right)
          restarted.world resumed ∧
        resumed.database.IsLatest 2 := by
  have toEndBlock :
      Answered (serveRequest core)
        (throughLastEndBlock killedInSecondBlock) firstNode.world
        (worldAfter [(1, .beginBlock 1), (2, .endBlock 1)]) :=
    ⟨_, rfl⟩
  have killed :
      Answered (serveRequest core) killedInSecondBlock firstNode.world
        (worldAfter killedInSecondBlock) :=
    ⟨_, rfl⟩
  have uninterrupted :
      Answered (serveRequest core)
        [(3606, .endBlock 2), (3607, .commit)]
        (worldAfter killedInSecondBlock)
        (worldAfter
          (killedInSecondBlock ++
            [(3606, .endBlock 2), (3607, .commit)])) :=
    ⟨_, rfl⟩
  obtain ⟨_, resumes⟩ :=
    crash_replay core_genesisLaws exec_fresh toEndBlock killed
      uninterrupted
  have sameTimes :
      ∀ shared ∈ secondBlockReplay, shared.SameBlockTime := by
    simp [secondBlockReplay, SharedRequest.SameBlockTime,
      Request.endBlockHeight?]
  obtain ⟨restarted, resumed, started, replayed, sameDatabase, _⟩ :=
    resumes rfl secondBlockReplay rfl sameTimes
  refine ⟨restarted, resumed, started, replayed, ?_⟩
  rw [sameDatabase]
  decide

end Lost

end Fuelmint
