import Fuelmint.BlockContents

/-!
# EndBlocks that fail

`end_block` writes the requested height, then asks the producer for a block,
commits its changes and clears the pool.  It unwraps the two results it gets
on the way, and takes nothing back: an error stops the worker with the height
written, and with the pool that the producer left.
-/

namespace Fuelmint

open Foundation

variable {T : Types} {F : FuelCore T}

/-- Either the block is stored, the current height is its height and nothing
that was skipped is in the pool, or the handler changed nothing at all. -/
def AllOrNothing (F : FuelCore T) (now : Tai64) (height : Int64)
    (world : World T) : Prop :=
  let after := finalState (serveRequest F (now, .endBlock height) world)
  (∃ uncommitted,
    (world.production F now height).1 = .ok uncommitted ∧
      after.database.getBlock
          uncommitted.dbTransaction.block.header.height =
        some uncommitted.dbTransaction.block ∧
      after.app.currentState.blockHeight.toInt =
        uncommitted.dbTransaction.block.header.height.toNat ∧
      ∀ skipped ∈ uncommitted.result.skippedTransactions,
        skipped.1 ∉ F.contents after.pool) ∨
    (after.app.currentState = world.app.currentState ∧
      after.database = world.database ∧
      after.pool = world.pool)

/-- What a completed EndBlock leaves. -/
structure Completes (F : FuelCore T) (now : Tai64) (height : Int64)
    (world next : World T) (uncommitted : UncommittedResult T) : Prop where
  production : (world.production F now height).1 = .ok uncommitted
  stored :
    next.database.getBlock uncommitted.dbTransaction.block.header.height =
      some uncommitted.dbTransaction.block
  height :
    0 ≤ height.toInt → height.toInt < 2 ^ 32 →
      next.app.currentState.blockHeight.toInt =
        uncommitted.dbTransaction.block.header.height.toNat
  removed :
    ∀ skipped ∈ uncommitted.result.skippedTransactions,
      skipped.1 ∉ F.contents next.pool

/-- What a failed EndBlock leaves: the height is written, and the pool is the
one the producer left.  A producer that fails may have taken transactions out
of it; when the commit fails, those of the block have left it. -/
structure Fails (F : FuelCore T) (now : Tai64) (height : Int64)
    (world stuck : World T) : Prop where
  database : stuck.database = world.database
  committedState : stuck.app.committedState = world.app.committedState
  currentState :
    stuck.app.currentState =
      { world.app.currentState with blockHeight := height }
  pool :
    (∃ message,
      world.production F now height = (.error message, stuck.pool) ∧
        (F.contents stuck.pool : Multiset T.Tx) ≤
          F.contents world.pool) ∨
      ∃ uncommitted message,
        world.production F now height = (.ok uncommitted, stuck.pool) ∧
          F.commitError world.database uncommitted.dbTransaction =
            some message ∧
          (F.userTransactions uncommitted.dbTransaction.block :
                Multiset T.Tx) +
              (uncommitted.result.skippedTransactions.map Prod.fst :
                List T.Tx) +
              F.contents stuck.pool ≤
            F.contents world.pool

/-! ## The two ways an EndBlock ends -/

section EndBlock

variable {now : Tai64} {height : Int64} {world : World T}

/-- A skipped transaction is not in the pool after the removal. -/
theorem Produced.not_mem_pool_of_skipped
    (removal : RemovalLaws F) (produced : Produced F now height world)
    {tx : T.Tx} (skipped : tx ∈ produced.skipped) :
    tx ∉ F.contents produced.outcome.pool := by
  intro pooled
  have absent : F.id tx ∉ produced.skipped.map F.id :=
    removal.removed produced.selectedPool _ pooled
  exact absent (List.mem_map_of_mem skipped)

theorem Produced.completes
    (heights : HeightLaws F) (removal : RemovalLaws F)
    (produced : Produced F now height world) :
    Completes F now height world produced.outcome
      produced.uncommitted where
  production := by
    rw [produced.production_eq]
  stored := by
    rw [produced.outcome_database, DbTransaction.getBlock_applyTo,
      if_pos rfl]
  height := by
    intro lower upper
    obtain ⟨_, _, stored⟩ := produced.height_spec heights
    have exact :
        ((BlockHeight.ofRequest height).toNat : Int) = height.toInt :=
      (BlockHeight.ofRequest_eq_iff height).mpr ⟨lower, upper⟩
    have same :
        produced.uncommitted.dbTransaction.block.header.height =
          BlockHeight.ofRequest height := stored
    rw [same, exact]
    rfl
  removed := by
    intro skipped member
    apply produced.not_mem_pool_of_skipped removal
    exact List.mem_map_of_mem member

theorem Breakdown.fails
    (selection : SelectionLaws F) (execution : ExecutionLaws F)
    (failure : FailedProductionLaws F) {panic : Panic}
    {stuck : World T}
    (breakdown : Breakdown F now (.endBlock height) world panic stuck) :
    Fails F now height world stuck := by
  cases breakdown with
  | produceBlock production =>
      have smaller := failure.failed production
      exact
        { database := rfl
          committedState := rfl
          currentState := rfl
          pool := Or.inl ⟨_, production, smaller⟩ }
  | commitTransaction production failed =>
      have parts := production_le selection execution production
      exact
        { database := rfl
          committedState := rfl
          currentState := rfl
          pool := Or.inr ⟨_, _, production, failed, parts⟩ }

/-- An EndBlock completes, or it stops the worker with the database and the
committed state as they were, and with nothing new in the pool. -/
theorem endBlock_completes_or_stops
    (heights : HeightLaws F) (selection : SelectionLaws F)
    (execution : ExecutionLaws F) (failure : FailedProductionLaws F)
    (removal : RemovalLaws F) (now : Tai64) (height : Int64)
    (world : World T) :
    (∃ next uncommitted,
      (Worker.serving world).serve (serveRequest F)
          (now, .endBlock height) =
        (.serving next, some (.endBlock {})) ∧
      Completes F now height world next uncommitted) ∨
    ∃ stuck,
      (Worker.serving world).serve (serveRequest F)
          (now, .endBlock height) =
        (.stopped stuck, none) ∧
      Fails F now height world stuck := by
  cases outcome : serveRequest F (now, .endBlock height) world with
  | ok answer next =>
      obtain ⟨produced, rfl⟩ := answered_endBlock outcome
      left
      refine ⟨_, _, ?_, produced.completes heights removal⟩
      have answered :
          serveRequest F (now, .endBlock height) world =
            .ok (.endBlock {}) produced.outcome :=
        serveRequest_ok.mpr (Transition.endBlock produced)
      exact Worker.serve_ok answered
  | error panic stuck =>
      right
      exact ⟨stuck, Worker.serve_error outcome,
        (call_error outcome).fails selection execution failure⟩

end EndBlock

section Failing

open LocalTestnet

/-- The small chain on a disk that is full. -/
def fullDisk : FuelCore types :=
  { core with commitError := fun _ _ => some "no space left" }

/-- The first node with one transaction in its pool. -/
def pooledWorld : World types :=
  worldAfter [(1, .deliverTx [1, 1, 4, 7])]

/-- At the genesis block, EndBlock(5) leaves height 5 without a block, and a
commit that fails leaves height 1 and an empty pool. -/
theorem endBlock_leaves_height :
    (firstNode.world.database.IsLatest 0 ∧
        firstNode.world.app.currentState.blockHeight = 0 ∧
        ¬ AllOrNothing core 1 5 firstNode.world) ∧
      (pooledWorld.database.IsLatest 0 ∧
        pooledWorld.app.currentState.blockHeight = 0 ∧
        ¬ AllOrNothing fullDisk 2 1 pooledWorld) := by
  refine ⟨⟨by decide, rfl, ?_⟩, ⟨by decide, rfl, ?_⟩⟩
  · rintro (⟨uncommitted, produced, _⟩ | ⟨unchanged, _⟩)
    · have failed :
          (firstNode.world.production core 1 5).1 =
            .error "the previous block is missing" := rfl
      rw [failed] at produced
      cases produced
    · have height := congrArg State.blockHeight unchanged
      revert height
      decide
  · rintro (⟨uncommitted, produced, stored, _⟩ | ⟨_, _, unchanged⟩)
    · cases produced
      cases stored
    · have size := congrArg List.length unchanged
      revert size
      decide

/-- The first block of a node with one transaction completes. -/
theorem endBlock_completes_or_stops_pooled :
    ∃ next uncommitted,
      (Worker.serving pooledWorld).serve (serveRequest core)
          (2, .endBlock 1) =
        (.serving next, some (.endBlock {})) ∧
      Completes core 2 1 pooledWorld next uncommitted := by
  rcases
    endBlock_completes_or_stops core_heightLaws core_selectionLaws
      core_executionLaws core_failedProductionLaws core_removalLaws 2 1
      pooledWorld with
    completed | ⟨stuck, stopped, _⟩
  · exact completed
  · have answered :
        ((Worker.serving pooledWorld).serve (serveRequest core)
          (2, .endBlock 1)).2 = some (.endBlock {}) := rfl
    rw [stopped] at answered
    cases answered

end Failing

end Fuelmint
