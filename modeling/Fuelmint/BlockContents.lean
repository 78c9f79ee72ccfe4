import Fuelmint.ChainGrowth
import Fuelmint.RequestLog

/-!
# Where delivered transactions go

A transaction enters the pool by a delivery.  It leaves the pool for a block,
as one of the transactions the executor skipped, or because the pool dropped
it: at an insertion, with the selection for a block, or at a removal.  Until
then it stays, over as many blocks as it takes.  Four observers read these
movements off a run, and the pool balances them.
-/

namespace Fuelmint

open Foundation

variable {T : Types}

/-- The user transactions of the block stored at a height. -/
def FuelCore.transactionsAt (F : FuelCore T) (database : Database T)
    (height : BlockHeight) : List T.Tx :=
  ((database.getBlock height).map F.userTransactions).getD []

/-- What an operation that leaves this pool has taken out of these
transactions. -/
def FuelCore.missing [DecidableEq T.Tx] (F : FuelCore T)
    (txs : List T.Tx) (pool : T.Pool) : List T.Tx :=
  txs.diff (F.contents pool)

theorem FuelCore.missing_balance [DecidableEq T.Tx] {F : FuelCore T}
    {txs : List T.Tx} {pool : T.Pool}
    (kept : (F.contents pool : Multiset T.Tx) ≤ txs) :
    (txs : Multiset T.Tx) = F.missing txs pool + F.contents pool := by
  unfold FuelCore.missing
  rw [← Multiset.coe_sub, Multiset.add_sub_cancel kept]

section Observers

variable (F : FuelCore T)

/-- Transactions for which DeliverTx answered code 0. -/
def deliveredTxs : Observer TimedRequest (World T) Response T.Tx :=
  fun timed _ answer _ =>
    match timed.2, answer with
    | .deliverTx bytes, .deliverTx response =>
        if response.code = 0 then (F.fromBytes bytes).toList else []
    | _, _ => []

/-- User transactions of the block stored for an EndBlock. -/
def includedTxs : Observer TimedRequest (World T) Response T.Tx :=
  fun timed _ _ after =>
    match timed.2.endBlockHeight? with
    | some height =>
        F.transactionsAt after.database (BlockHeight.ofRequest height)
    | none => []

/-- Transactions the producer reported as skipped for an EndBlock. -/
def skippedTxs : Observer TimedRequest (World T) Response T.Tx :=
  fun timed before _ _ =>
    match timed.2.endBlockHeight? with
    | some height =>
        match (before.production F timed.1 height).1 with
        | .ok uncommitted =>
            uncommitted.result.skippedTransactions.map Prod.fst
        | .error _ => []
    | none => []

variable [DecidableEq T.Tx]

/-- Transactions that the pool gave up otherwise: at an insertion, at the
selection for a block, at the removal after it. -/
def droppedTxs : Observer TimedRequest (World T) Response T.Tx :=
  fun timed before _ after =>
    match timed.2 with
    | .deliverTx bytes =>
        F.missing (F.contents before.pool ++ (F.fromBytes bytes).toList)
          after.pool
    | .endBlock height =>
        match before.production F timed.1 height with
        | (.ok uncommitted, rest) =>
            F.missing
                ((F.contents before.pool).diff
                  (F.userTransactions uncommitted.dbTransaction.block ++
                    uncommitted.result.skippedTransactions.map Prod.fst))
                rest ++
              F.missing (F.contents rest) after.pool
        | (.error _, _) => []
    | _ => []

/-- All that leaves the pool. -/
def settledTxs : Observer TimedRequest (World T) Response T.Tx :=
  fun timed before answer after =>
    includedTxs F timed before answer after ++
      (skippedTxs F timed before answer after ++
        droppedTxs F timed before answer after)

end Observers

variable {F : FuelCore T}

/-! ## One request -/

section OneRequest

variable {now : Tai64} {world next : World T} {answer : Response}

theorem deliveredTxs_deliverTx
    {bytes : Bytes} {tx : T.Tx} (decoded : F.fromBytes bytes = some tx) :
    deliveredTxs F (now, .deliverTx bytes) world
        (.deliverTx { data := F.toJson tx }) next =
      [tx] := by
  simp [deliveredTxs, decoded]

theorem Produced.includedTxs_eq
    (laws : HeightLaws F) {height : Int64}
    (produced : Produced F now height world) :
    includedTxs F (now, .endBlock height) world answer
        produced.outcome =
      F.userTransactions produced.block := by
  have stored :=
    produced.getBlock_outcome laws (BlockHeight.ofRequest height)
  rw [if_pos rfl] at stored
  simp only [includedTxs, Request.endBlockHeight?,
    FuelCore.transactionsAt, stored, Option.map_some, Option.getD_some]

theorem Produced.skippedTxs_eq
    {height : Int64} (produced : Produced F now height world) :
    skippedTxs F (now, .endBlock height) world answer next =
      produced.skipped := by
  simp only [skippedTxs, Request.endBlockHeight?,
    produced.production_eq]
  rfl

/-- The block, its skipped transactions and the pool that the selection
leaves come out of the pool. -/
theorem Produced.selection_le
    (selection : SelectionLaws F) (execution : ExecutionLaws F)
    {height : Int64} (produced : Produced F now height world) :
    (F.userTransactions produced.block : Multiset T.Tx) +
        produced.skipped + F.contents produced.selectedPool ≤
      F.contents world.pool :=
  production_le selection execution produced.production

theorem Produced.removal_le
    (pool : PoolLaws F) {height : Int64}
    (produced : Produced F now height world) :
    (F.contents produced.outcome.pool : Multiset T.Tx) ≤
      F.contents produced.selectedPool :=
  pool.removed produced.selectedPool (produced.skipped.map F.id)

/-- What an EndBlock includes or leaves in the pool was in the pool. -/
theorem Produced.mem_pool
    (pool : PoolLaws F) (selection : SelectionLaws F)
    (execution : ExecutionLaws F) {height : Int64}
    (produced : Produced F now height world) {tx : T.Tx}
    (present :
      tx ∈ F.userTransactions produced.block ∨
        tx ∈ F.contents produced.outcome.pool) :
    tx ∈ F.contents world.pool := by
  rw [← Multiset.mem_coe]
  apply Multiset.mem_of_le (produced.selection_le selection execution)
  rcases present with included | left
  · have first :
        tx ∈ (F.userTransactions produced.block : Multiset T.Tx) +
          produced.skipped :=
      Multiset.mem_add.mpr (Or.inl (Multiset.mem_coe.mpr included))
    exact Multiset.mem_add.mpr (Or.inl first)
  · have selected :
        tx ∈ (F.contents produced.selectedPool : Multiset T.Tx) :=
      Multiset.mem_of_le (produced.removal_le pool)
        (Multiset.mem_coe.mpr left)
    exact Multiset.mem_add.mpr (Or.inr selected)

/-- A panic brings nothing into the pool. -/
theorem Breakdown.pool_le
    (pool : PoolLaws F) (selection : SelectionLaws F)
    (execution : ExecutionLaws F) (failure : FailedProductionLaws F)
    {request : Request} {panic : Panic}
    (breakdown : Breakdown F now request world panic next) :
    (F.contents next.pool : Multiset T.Tx) ≤ F.contents world.pool := by
  cases breakdown with
  | info => exact le_refl _
  | fromBytes => exact le_refl _
  | txPoolInsert decoded insertion =>
      rw [← pool.refused insertion]
      exact le_refl _
  | produceBlock production =>
      exact failure.failed production
  | commitTransaction production _ =>
      have parts := production_le selection execution production
      exact le_trans (Multiset.le_add_left _ _) parts

theorem transactionsAt_outcome_of_ne
    (laws : HeightLaws F) {height : Int64}
    (produced : Produced F now height world)
    {other : BlockHeight} (different : other ≠ BlockHeight.ofRequest height) :
    F.transactionsAt produced.outcome.database other =
      F.transactionsAt world.database other := by
  unfold FuelCore.transactionsAt
  rw [produced.getBlock_outcome laws, if_neg different]

variable [DecidableEq T.Tx]

theorem settledTxs_deliverTx
    {bytes : Bytes} {tx : T.Tx} (decoded : F.fromBytes bytes = some tx) :
    settledTxs F (now, .deliverTx bytes) world answer next =
      F.missing (F.contents world.pool ++ [tx]) next.pool := by
  simp only [settledTxs, includedTxs, skippedTxs, droppedTxs,
    Request.endBlockHeight?, decoded, Option.toList_some,
    List.nil_append]

/-- What the pool drops at an EndBlock. -/
def Produced.dropped
    {height : Int64} (produced : Produced F now height world) :
    List T.Tx :=
  F.missing
      ((F.contents world.pool).diff
        (F.userTransactions produced.block ++ produced.skipped))
      produced.selectedPool ++
    F.missing (F.contents produced.selectedPool) produced.outcome.pool

theorem Produced.droppedTxs_eq
    {height : Int64} (produced : Produced F now height world) :
    droppedTxs F (now, .endBlock height) world answer
        produced.outcome =
      produced.dropped := by
  simp only [droppedTxs, produced.production_eq]
  rfl

theorem Produced.settledTxs_eq
    (laws : HeightLaws F) {height : Int64}
    (produced : Produced F now height world) :
    settledTxs F (now, .endBlock height) world answer
        produced.outcome =
      F.userTransactions produced.block ++
        (produced.skipped ++ produced.dropped) := by
  unfold settledTxs
  rw [produced.includedTxs_eq laws, produced.skippedTxs_eq,
    produced.droppedTxs_eq]

/-- Selection, execution and removal of one EndBlock, as a balance. -/
theorem Produced.balance
    (pool : PoolLaws F) (selection : SelectionLaws F)
    (execution : ExecutionLaws F) {height : Int64}
    (produced : Produced F now height world) :
    (F.contents world.pool : Multiset T.Tx) =
      F.userTransactions produced.block + produced.skipped +
        (produced.dropped + F.contents produced.outcome.pool) := by
  have parts := produced.selection_le selection execution
  have taken :
      (F.userTransactions produced.block : Multiset T.Tx) +
          produced.skipped ≤
        F.contents world.pool :=
    le_trans (Multiset.le_add_right _ _) parts
  have others :
      (F.contents world.pool : Multiset T.Tx) =
        F.userTransactions produced.block + produced.skipped +
          ((F.contents world.pool).diff
            (F.userTransactions produced.block ++ produced.skipped) :
              List T.Tx) := by
    rw [← Multiset.coe_sub, ← Multiset.coe_add, add_comm,
      Multiset.add_sub_cancel taken]
  have left :
      (F.contents produced.selectedPool : Multiset T.Tx) ≤
        ((F.contents world.pool).diff
          (F.userTransactions produced.block ++ produced.skipped) :
            List T.Tx) := by
    rw [others] at parts
    exact le_of_add_le_add_left parts
  rw [others, FuelCore.missing_balance left,
    FuelCore.missing_balance (produced.removal_le pool)]
  unfold Produced.dropped
  rw [← Multiset.coe_add, add_assoc (F.missing _ _ : Multiset T.Tx)]

/-- A transaction in the pool at an EndBlock is included, skipped, dropped or
left. -/
theorem Produced.fate
    (pool : PoolLaws F) (selection : SelectionLaws F)
    (execution : ExecutionLaws F) {height : Int64}
    (produced : Produced F now height world) {tx : T.Tx}
    (pooled : tx ∈ F.contents world.pool) :
    tx ∈ F.userTransactions produced.block ∨ tx ∈ produced.skipped ∨
      tx ∈ produced.dropped ∨ tx ∈ F.contents produced.outcome.pool := by
  have everywhere : tx ∈ (F.contents world.pool : Multiset T.Tx) :=
    Multiset.mem_coe.mpr pooled
  rw [produced.balance pool selection execution] at everywhere
  simpa only [Multiset.mem_add, Multiset.mem_coe, or_assoc]
    using everywhere

/-- An answered request moves transactions; it makes and loses none. -/
theorem Transition.balance
    (pool : PoolLaws F) (selection : SelectionLaws F)
    (execution : ExecutionLaws F) (heights : HeightLaws F)
    {timed : TimedRequest}
    (transition : Transition F timed.1 timed.2 world answer next) :
    (F.contents world.pool : Multiset T.Tx) +
        deliveredTxs F timed world answer next =
      settledTxs F timed world answer next + F.contents next.pool := by
  obtain ⟨now, request⟩ := timed
  cases transition with
  | deliverTx decoded insertion =>
      rw [deliveredTxs_deliverTx decoded, settledTxs_deliverTx decoded,
        Multiset.coe_add]
      apply FuelCore.missing_balance
      rw [← Multiset.coe_add]
      exact pool.inserted insertion
  | endBlock produced =>
      rw [produced.settledTxs_eq heights,
        produced.balance pool selection execution]
      simp only [deliveredTxs, ← Multiset.coe_add, Multiset.coe_nil,
        add_zero, add_assoc]
  | info =>
      exact add_comm _ _
  | commit =>
      exact add_comm _ _
  | unhandled default =>
      cases request <;> first | exact add_comm _ _ | cases default

end OneRequest

/-! ## Runs -/

section Runs

variable [DecidableEq T.Tx]

/-- Over a run, what the pool held and what was delivered is what was
included, skipped or dropped and what the pool holds now. -/
theorem txs_balance
    (pool : PoolLaws F) (selection : SelectionLaws F)
    (execution : ExecutionLaws F) (heights : HeightLaws F)
    {requests : List TimedRequest} {start finish : World T}
    (served : Answered (serveRequest F) requests start finish) :
    (F.contents start.pool : Multiset T.Tx) +
        trace (serveRequest F) (deliveredTxs F) requests start =
      trace (serveRequest F) (includedTxs F) requests start +
        trace (serveRequest F) (skippedTxs F) requests start +
        (trace (serveRequest F) (droppedTxs F) requests start +
          F.contents finish.pool) := by
  have balance :
      (F.contents start.pool : Multiset T.Tx) +
          trace (serveRequest F) (deliveredTxs F) requests start =
        trace (serveRequest F) (settledTxs F) requests start +
          F.contents finish.pool := by
    refine
      trace_balance
        (fun world : World T => (F.contents world.pool : Multiset T.Tx))
        ?_ served
    intro timed _ before answer after answered
    exact
      (serveRequest_ok.mp answered).balance pool selection execution
        heights
  unfold settledTxs at balance
  rw [coe_trace_both, coe_trace_both] at balance
  rw [balance]
  simp only [add_assoc]

/-- What the pool holds at some point of a run from an empty pool was
delivered before, and what was delivered before is accounted for. -/
theorem mem_delivered_iff
    (pool : PoolLaws F) (selection : SelectionLaws F)
    (execution : ExecutionLaws F) (heights : HeightLaws F)
    {requests : List TimedRequest} {start finish : World T}
    (empty : F.contents start.pool = [])
    (served : Answered (serveRequest F) requests start finish)
    (tx : T.Tx) :
    tx ∈ trace (serveRequest F) (deliveredTxs F) requests start ↔
      tx ∈ trace (serveRequest F) (includedTxs F) requests start ∨
        tx ∈ trace (serveRequest F) (skippedTxs F) requests start ∨
        tx ∈ trace (serveRequest F) (droppedTxs F) requests start ∨
        tx ∈ F.contents finish.pool := by
  have balance := txs_balance pool selection execution heights served
  rw [empty, Multiset.coe_nil, zero_add] at balance
  rw [← Multiset.mem_coe, balance]
  simp only [Multiset.mem_add, Multiset.mem_coe, or_assoc]

end Runs

section Leftovers

open LocalTestnet

end Leftovers

end Fuelmint
