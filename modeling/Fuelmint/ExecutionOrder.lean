import Fuelmint.BlockContents
import Fuelmint.Foundation.Precedence

/-!
# The order of execution

Deliveries come in the order of consensus; blocks are filled from the pool, by
gas price and as far as the gas goes.  So a transaction may be overtaken while
it waits in the pool, by one that does not depend on it; this module says that
this is the only way the order changes.
-/

namespace Fuelmint

open Foundation

variable {T : Types} {F : FuelCore T}

/-! ## The chain in height order -/

/-- With increasing heights, the executed transactions are the concatenation
of the stored blocks in height order. -/
theorem executed_eq_chain
    (laws : HeightLaws F) {requests : List TimedRequest}
    {start finish : World T}
    (served : Answered (serveRequest F) requests start finish)
    (increasing : (endedHeights requests).Pairwise (· < ·)) :
    trace (serveRequest F) (includedTxs F) requests start =
      (endedHeights requests).flatMap
        (F.transactionsAt finish.database) := by
  induction requests using List.reverseRecOn generalizing finish with
  | nil =>
      rfl
  | append_singleton before timed inductionHypothesis =>
      obtain ⟨middle, answer, earlier, stepped⟩ :=
        answered_concat.mp served
      rw [endedHeights_concat] at increasing ⊢
      obtain ⟨sorted, _, above⟩ := List.pairwise_append.mp increasing
      have chain := inductionHypothesis earlier sorted
      have lastStep :
          trace (serveRequest F) (includedTxs F) (before ++ [timed])
              start =
            trace (serveRequest F) (includedTxs F) before start ++
              includedTxs F timed middle answer finish := by
        rw [trace_append earlier, trace_cons stepped, trace_nil,
          List.append_nil]
      rw [lastStep, chain, List.flatMap_append]
      rcases (serveRequest_ok.mp stepped).database_cases with
        ⟨noEndBlock, unchanged⟩ | ⟨height, produced, endBlock, rfl⟩
      · simp [includedTxs, noEndBlock, unchanged]
      · have asked : timed.2.endBlockHeight? = some height := by
          rw [endBlock]
          rfl
        have earlierBlocks :
            (endedHeights before).flatMap
                (F.transactionsAt middle.database) =
              (endedHeights before).flatMap
                (F.transactionsAt produced.outcome.database) := by
          apply List.flatMap_congr
          intro other member
          have below : other < BlockHeight.ofRequest height :=
            above other member _ (by simp [asked])
          exact
            (transactionsAt_outcome_of_ne laws produced
              (UInt32.ne_of_lt below)).symm
        rw [earlierBlocks]
        simp [includedTxs, asked]

/-! ## Two transactions of one run -/

/-- The second transaction is taken for a block while the first one, which it
does not depend on, waits in the pool: the first one is left there, or it is
in the same block at no higher gas price. -/
def Overtakes (F : FuelCore T) (start : World T)
    (requests : List TimedRequest) (first second : T.Tx) : Prop :=
  ∃ before now height after world answer next,
    requests = before ++ (now, .endBlock height) :: after ∧
      Answered (serveRequest F) before start world ∧
      serveRequest F (now, .endBlock height) world = .ok answer next ∧
      second ∈ includedTxs F (now, .endBlock height) world answer next ∧
      first ∈ F.contents world.pool ∧
      F.dependsOn second first = false ∧
      (first ∈ F.contents next.pool ∨
        (first ∈ includedTxs F (now, .endBlock height) world answer next ∧
          F.gasPrice first ≤ F.gasPrice second))

/-- What is selected for a block at this point. -/
def World.selected (F : FuelCore T) (world : World T) : List T.Tx :=
  (F.selectTransactions world.pool
    world.app.config.chainConf.blockGasLimit).1

theorem Produced.executed
    (execution : ExecutionLaws F) {now : Tai64} {height : Int64}
    {world : World T} (produced : Produced F now height world) :
    (F.userTransactions produced.block ++ produced.skipped).Perm
      (world.selected F) :=
  (execution.produced produced.production).2

theorem Produced.inOrder
    (order : ExecutionOrderLaws F) {now : Tai64} {height : Int64}
    {world : World T} (produced : Produced F now height world) :
    (F.userTransactions produced.block).Sublist (world.selected F) :=
  order.inOrder produced.production

/-- The order of two transactions within one block, when the first one was in
the pool and is neither skipped nor dropped. -/
theorem Produced.order
    [DecidableEq T.Tx] (pool : PoolLaws F) (selection : SelectionLaws F)
    (execution : ExecutionLaws F) (order : ExecutionOrderLaws F)
    (price : PriceOrderLaws F) (dependency : DependencyOrderLaws F)
    {now : Tai64} {height : Int64} {world : World T}
    (produced : Produced F now height world) {first second : T.Tx}
    (different : first ≠ second)
    (onceFirst :
      (F.userTransactions produced.block).count first ≤ 1)
    (onceSecond :
      (F.userTransactions produced.block).count second ≤ 1)
    (included : second ∈ F.userTransactions produced.block)
    (pooled : first ∈ F.contents world.pool)
    (notSkipped : first ∉ produced.skipped)
    (secondNotSkipped : second ∉ produced.skipped)
    (notDropped : first ∉ produced.dropped) :
    ComesBefore first second (F.userTransactions produced.block) ∨
      (F.dependsOn second first = false ∧
        (first ∈ F.contents produced.outcome.pool ∨
          (first ∈ F.userTransactions produced.block ∧
            F.gasPrice first ≤ F.gasPrice second))) := by
  have executed := produced.executed execution
  have inOrder := produced.inOrder order
  have selectedSecond : second ∈ world.selected F :=
    inOrder.subset included
  have included_of_selected :
      first ∈ world.selected F →
        first ∈ F.userTransactions produced.block := by
    intro taken
    have either := executed.symm.subset taken
    rcases List.mem_append.mp either with here | skipped
    · exact here
    · exact absurd skipped notSkipped
  by_cases depends : F.dependsOn second first = true
  · have dependencyFirst :
        ComesBefore first second (world.selected F) :=
      dependency.afterDependencies selectedSecond pooled depends
    have count_selected :
        ∀ tx, tx ∉ produced.skipped →
          (world.selected F).count tx =
            (F.userTransactions produced.block).count tx := by
      intro tx kept
      have total := executed.count_eq tx
      rw [List.count_append, List.count_eq_zero.mpr kept] at total
      exact total.symm
    left
    refine
      ComesBefore.restrict ?_ ?_ different dependencyFirst inOrder
        (included_of_selected dependencyFirst.left_mem) included
    · rw [count_selected first notSkipped]
      exact onceFirst
    · rw [count_selected second secondNotSkipped]
      exact onceSecond
  · have independent : F.dependsOn second first = false := by
      simpa using depends
    rcases produced.fate pool selection execution pooled with
      here | skipped | dropped | left
    · rcases ComesBefore.or_reversed different here included with
        forwards | reversed
      · exact Or.inl forwards
      · have cheaper : F.gasPrice first ≤ F.gasPrice second :=
          (reversed.mono inOrder).rel (price.byPrice _ _)
        exact Or.inr ⟨independent, Or.inr ⟨here, cheaper⟩⟩
    · exact absurd skipped notSkipped
    · exact absurd dropped notDropped
    · exact Or.inr ⟨independent, Or.inl left⟩

/-! ## The order of a whole run -/

/-- Delivered once, and executed. -/
structure ExecutedOnce [DecidableEq T.Tx] (F : FuelCore T)
    (start : World T) (requests : List TimedRequest) (tx : T.Tx) :
    Prop where
  delivered :
    (trace (serveRequest F) (deliveredTxs F) requests start).count tx = 1
  executed : tx ∈ trace (serveRequest F) (includedTxs F) requests start

/-- The pool gives such a transaction to one block and to nothing else. -/
theorem ExecutedOnce.settled
    [DecidableEq T.Tx] (pool : PoolLaws F) (selection : SelectionLaws F)
    (execution : ExecutionLaws F) (heights : HeightLaws F)
    {requests : List TimedRequest} {start finish : World T}
    (empty : F.contents start.pool = [])
    (served : Answered (serveRequest F) requests start finish)
    {tx : T.Tx} (once : ExecutedOnce F start requests tx) :
    (trace (serveRequest F) (includedTxs F) requests start).count tx = 1 ∧
      tx ∉ trace (serveRequest F) (skippedTxs F) requests start ∧
      tx ∉ trace (serveRequest F) (droppedTxs F) requests start := by
  have balance := txs_balance pool selection execution heights served
  have counted := congrArg (Multiset.count tx) balance
  rw [empty] at counted
  simp only [Multiset.coe_nil, zero_add, Multiset.count_add,
    Multiset.coe_count, once.delivered] at counted
  have executed := List.count_pos_iff.mpr once.executed
  refine ⟨by omega, ?_, ?_⟩
  · apply List.count_eq_zero.mp
    omega
  · apply List.count_eq_zero.mp
    omega

/-- An included transaction was included by an EndBlock of the run. -/
theorem exists_endBlock_of_included
    (heights : HeightLaws F) {requests : List TimedRequest}
    {start finish : World T}
    (served : Answered (serveRequest F) requests start finish)
    {tx : T.Tx}
    (executed :
      tx ∈ trace (serveRequest F) (includedTxs F) requests start) :
    ∃ before now height after world answer,
      ∃ produced : Produced F now height world,
        requests = before ++ (now, .endBlock height) :: after ∧
          Answered (serveRequest F) before start world ∧
          serveRequest F (now, .endBlock height) world =
            .ok answer produced.outcome ∧
          tx ∈ F.userTransactions produced.block := by
  obtain ⟨before, ⟨now, request⟩, after, world, answer, next, split,
    prior, stepped, _, here⟩ := exists_step_of_mem_trace served executed
  rcases (serveRequest_ok.mp stepped).database_cases with
    ⟨noEndBlock, _⟩ | ⟨height, produced, endBlock, reached⟩
  · simp only [includedTxs, noEndBlock, List.not_mem_nil] at here
  · cases endBlock
    subst reached
    rw [produced.includedTxs_eq heights] at here
    exact ⟨before, now, height, after, world, answer, produced, split,
      prior, stepped, here⟩

/-- What an EndBlock includes was delivered before it. -/
theorem Produced.delivered_before
    [DecidableEq T.Tx] (pool : PoolLaws F) (selection : SelectionLaws F)
    (execution : ExecutionLaws F) (heights : HeightLaws F)
    {requests : List TimedRequest} {start world : World T}
    {now : Tai64} {height : Int64}
    (empty : F.contents start.pool = [])
    (prior : Answered (serveRequest F) requests start world)
    (produced : Produced F now height world) {tx : T.Tx}
    (included : tx ∈ F.userTransactions produced.block) :
    tx ∈ trace (serveRequest F) (deliveredTxs F) requests start := by
  have pooled : tx ∈ F.contents world.pool :=
    produced.mem_pool pool selection execution (Or.inl included)
  rw [mem_delivered_iff pool selection execution heights empty prior]
  exact Or.inr (Or.inr (Or.inr pooled))

/-- Two transactions that are delivered once each and executed are executed in
the order of their deliveries, unless the second one overtakes the first. -/
theorem ExecutedOnce.order
    [DecidableEq T.Tx] (pool : PoolLaws F) (selection : SelectionLaws F)
    (execution : ExecutionLaws F) (order : ExecutionOrderLaws F)
    (price : PriceOrderLaws F) (dependency : DependencyOrderLaws F)
    (heights : HeightLaws F)
    {requests : List TimedRequest}
    {start finish : World T}
    (empty : F.contents start.pool = [])
    (served : Answered (serveRequest F) requests start finish)
    {first second : T.Tx}
    (firstOnce : ExecutedOnce F start requests first)
    (secondOnce : ExecutedOnce F start requests second)
    (delivered :
      ComesBefore first second
        (trace (serveRequest F) (deliveredTxs F) requests start)) :
    ComesBefore first second
        (trace (serveRequest F) (includedTxs F) requests start) ∨
      Overtakes F start requests first second := by
  have different : first ≠ second :=
    ComesBefore.ne_of_once (Nat.le_of_eq firstOnce.delivered) delivered
  obtain ⟨firstCount, firstNotSkipped, firstNotDropped⟩ :=
    firstOnce.settled pool selection execution heights empty served
  obtain ⟨secondCount, secondNotSkipped, _⟩ :=
    secondOnce.settled pool selection execution heights empty served
  -- the EndBlock that executes the second transaction
  obtain ⟨before, now, height, after, world, answer, produced, rfl,
    prior, stepped, here⟩ :=
      exists_endBlock_of_included heights served secondOnce.executed
  -- the run, read around that EndBlock
  have included :
      trace (serveRequest F) (includedTxs F)
          (before ++ (now, .endBlock height) :: after) start =
        trace (serveRequest F) (includedTxs F) before start ++
          (F.userTransactions produced.block ++
            trace (serveRequest F) (includedTxs F) after
              produced.outcome) := by
    rw [trace_split prior stepped, produced.includedTxs_eq heights]
  have skipped :
      trace (serveRequest F) (skippedTxs F)
          (before ++ (now, .endBlock height) :: after) start =
        trace (serveRequest F) (skippedTxs F) before start ++
          (produced.skipped ++
            trace (serveRequest F) (skippedTxs F) after
              produced.outcome) := by
    rw [trace_split prior stepped, produced.skippedTxs_eq]
  have dropped :
      trace (serveRequest F) (droppedTxs F)
          (before ++ (now, .endBlock height) :: after) start =
        trace (serveRequest F) (droppedTxs F) before start ++
          (produced.dropped ++
            trace (serveRequest F) (droppedTxs F) after
              produced.outcome) := by
    rw [trace_split prior stepped, produced.droppedTxs_eq]
  have onceDelivered := secondOnce.delivered
  rw [trace_split prior stepped] at delivered onceDelivered
  rw [included, List.count_append, List.count_append]
    at firstCount secondCount
  simp only [skipped, List.mem_append, not_or]
    at firstNotSkipped secondNotSkipped
  simp only [dropped, List.mem_append, not_or] at firstNotDropped
  rw [included]
  -- both were delivered before that EndBlock
  have secondEarlier :
      second ∈ trace (serveRequest F) (deliveredTxs F) before start :=
    produced.delivered_before pool selection execution heights empty
      prior here
  have firstEarlier :
      first ∈ trace (serveRequest F) (deliveredTxs F) before start :=
    ComesBefore.left_mem_of_once (Nat.le_of_eq onceDelivered) delivered
      secondEarlier
  have known :=
    mem_delivered_iff pool selection execution heights empty prior first
  rcases known.mp firstEarlier with
    executed | wasSkipped | wasDropped | pooled
  · left
    exact ComesBefore.of_append executed (List.mem_append_left _ here)
  · exact absurd wasSkipped firstNotSkipped.1
  · exact absurd wasDropped firstNotDropped.1
  · rcases produced.order pool selection execution order price
      dependency different (by omega) (by omega) here pooled firstNotSkipped.2.1
      secondNotSkipped.2.1 firstNotDropped.2.1 with
      inOrder | ⟨independent, waits⟩
    · left
      exact inOrder.mono
        ((List.sublist_append_left _ _).trans
          (List.sublist_append_right _ _))
    · right
      refine ⟨before, now, height, after, world, answer, _, rfl, prior,
        stepped, ?_, pooled, independent, ?_⟩
      · rw [produced.includedTxs_eq heights]
        exact here
      · rw [produced.includedTxs_eq heights]
        exact waits

/-- The order of consensus is the order of execution. -/
def ExecutesInOrder [DecidableEq T.Tx] (F : FuelCore T)
    (start : World T) (requests : List TimedRequest) : Prop :=
  ∀ first second,
    ExecutedOnce F start requests first →
    ExecutedOnce F start requests second →
    ComesBefore first second
        (trace (serveRequest F) (deliveredTxs F) requests start) →
      ComesBefore first second
        (trace (serveRequest F) (includedTxs F) requests start)

/-- In a run of a started node the order of consensus is the order of
execution up to overtaking in the pool; and the order of execution is that of
the stored blocks when the heights increase. -/
theorem executed_in_order_or_overtaken
    [DecidableEq T.Tx] (pool : PoolLaws F) (selection : SelectionLaws F)
    (execution : ExecutionLaws F) (order : ExecutionOrderLaws F)
    (price : PriceOrderLaws F) (dependency : DependencyOrderLaws F)
    (heights : HeightLaws F)
    {environment : Option String} {command : Command}
    {database : Database T} {node : Node T}
    (started : exec F environment command database = .ok node)
    {requests : List TimedRequest} {finish : World T}
    (served : Answered (serveRequest F) requests node.world finish) :
    (∀ first second,
        ExecutedOnce F node.world requests first →
        ExecutedOnce F node.world requests second →
        ComesBefore first second
            (trace (serveRequest F) (deliveredTxs F) requests
              node.world) →
          ComesBefore first second
              (trace (serveRequest F) (includedTxs F) requests
                node.world) ∨
            Overtakes F node.world requests first second) ∧
      ((endedHeights requests).Pairwise (· < ·) →
        trace (serveRequest F) (includedTxs F) requests node.world =
          (endedHeights requests).flatMap
            (F.transactionsAt finish.database)) := by
  constructor
  · intro first second firstOnce secondOnce delivered
    obtain ⟨config, _, booted, _, _⟩ := exec_booted started
    have empty : F.contents node.world.pool = [] := by
      rw [booted.pool, pool.empty]
    exact firstOnce.order pool selection execution order price dependency
      heights empty served secondOnce delivered
  · intro increasing
    exact executed_eq_chain heights served increasing

section Overtaking

open LocalTestnet

/-- The second transaction pays the higher price in one block. -/
def pricedBlock : List TimedRequest :=
  [(1, .beginBlock 1), (2, .deliverTx [1, 1, 4, 7]),
    (3, .deliverTx [2, 2, 4, 8]), (4, .endBlock 1), (5, .commit)]

/-- The second transaction takes the gas of the block; the first one waits for
the next block. -/
def twoPricedBlocks : List TimedRequest :=
  [(1, .beginBlock 1), (2, .deliverTx [1, 1, 8, 7]),
    (3, .deliverTx [2, 2, 8, 8]), (4, .endBlock 1), (5, .commit),
    (6, .beginBlock 2), (7, .endBlock 2), (8, .commit)]

/-- Nothing in the pool has to run before the transaction. -/
def independentIn (pool : List Transfer) (tx : Transfer) : Bool :=
  !pool.any fun pooled => dependsOn tx pooled

/-- A selection that lets a transaction wait for those it depends on. -/
def selectIndependent (pool : List Transfer) (maxGas : UInt64) :
    List Transfer × List Transfer :=
  let selected :=
    takeGas maxGas.toNat
      ((pool.filter (independentIn pool)).insertionSort byGasPrice)
  (selected, leaveOut selected pool)

/-- The small chain with that selection.  It goes by price and by
dependencies. -/
def dependencyOrdered : FuelCore types :=
  coreWith selectIndependent

/-- Within a block and over two blocks, although nothing depends on anything. -/
theorem higher_price_overtakes :
    ¬ ExecutesInOrder dependencyOrdered firstNode.world pricedBlock ∧
      ¬ ExecutesInOrder dependencyOrdered firstNode.world twoPricedBlocks := by
  constructor
  · intro inOrder
    have order :=
      inOrder (transfer 1 1 4 7) (transfer 2 2 4 8)
        ⟨by decide, by decide⟩ ⟨by decide, by decide⟩ (by decide)
    revert order
    decide
  · intro inOrder
    have order :=
      inOrder (transfer 1 1 8 7) (transfer 2 2 8 8)
        ⟨by decide, by decide⟩ ⟨by decide, by decide⟩ (by decide)
    revert order
    decide

theorem selectIndependent_le (pool : List Transfer) (maxGas : UInt64) :
    ((selectIndependent pool maxGas).1 : Multiset Transfer) ≤
      (pool.filter (independentIn pool) : List Transfer) :=
  takeGas_le maxGas.toNat _

theorem dependencyOrdered_selectionLaws :
    SelectionLaws dependencyOrdered where
  selected := by
    intro pool maxGas
    apply selected_add_leaveOut
    apply le_trans (selectIndependent_le pool maxGas)
    exact Multiset.coe_le.mpr List.filter_sublist.subperm

theorem dependencyOrdered_priceOrderLaws :
    PriceOrderLaws dependencyOrdered where
  byPrice := fun _ maxGas => takeGas_byPrice maxGas.toNat _

/-- What is selected depends on nothing in the pool. -/
theorem dependencyOrdered_dependencyOrderLaws :
    DependencyOrderLaws dependencyOrdered where
  afterDependencies := by
    intro pool maxGas tx other selected pooled depends
    have available : tx ∈ pool.filter (independentIn pool) :=
      Multiset.mem_of_le (selectIndependent_le pool maxGas) selected
    have free : independentIn pool tx = true :=
      (List.mem_filter.mp available).2
    have waits : (pool.any fun pooled => dependsOn tx pooled) = true :=
      List.any_eq_true.mpr ⟨other, pooled, depends⟩
    simp [independentIn, waits] at free

theorem executed_in_order_or_overtaken_twoBlocks :
    ∃ finish,
      Answered (serveRequest dependencyOrdered) twoPricedBlocks
          firstNode.world finish ∧
        (ComesBefore (transfer 1 1 8 7) (transfer 2 2 8 8)
            (trace (serveRequest dependencyOrdered)
              (includedTxs dependencyOrdered) twoPricedBlocks
              firstNode.world) ∨
          Overtakes dependencyOrdered firstNode.world twoPricedBlocks
            (transfer 1 1 8 7) (transfer 2 2 8 8)) ∧
        trace (serveRequest dependencyOrdered)
            (includedTxs dependencyOrdered) twoPricedBlocks
            firstNode.world =
          [(1 : BlockHeight), 2].flatMap
            (dependencyOrdered.transactionsAt finish.database) := by
  have started :
      exec dependencyOrdered none command freshDatabase =
        .ok firstNode := rfl
  have served :
      Answered (serveRequest dependencyOrdered) twoPricedBlocks
        firstNode.world
        (finalState
          (runAll (serveRequest dependencyOrdered) twoPricedBlocks
            firstNode.world)) :=
    ⟨_, rfl⟩
  have result :=
    executed_in_order_or_overtaken poolLaws
      dependencyOrdered_selectionLaws executionLaws executionOrderLaws
      dependencyOrdered_priceOrderLaws
      dependencyOrdered_dependencyOrderLaws heightLaws started served
  refine ⟨_, served, ?_, ?_⟩
  · exact result.1 _ _ ⟨by decide, by decide⟩ ⟨by decide, by decide⟩
      (by decide)
  · exact result.2 (by decide)

end Overtaking

end Fuelmint
