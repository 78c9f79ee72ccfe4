import Fuelmint.Foundation.Noninterference
import Fuelmint.Foundation.Verdicts
import Fuelmint.Foundation.WriteLog
import Fuelmint.Restart

/-!
# The database is the log of its blocks

Blocks are written by answered EndBlocks and nothing else, one at a time.  The
database after a history is the genesis database with the blocks of the
history written to it in order, so that each height holds the block of the
last EndBlock that asked for it, whichever process answered it.
-/

namespace Fuelmint

open Foundation

variable {T : Types} {F : FuelCore T}

/-! ## Heights and blocks -/

def DbTransaction.height (transaction : DbTransaction T) : BlockHeight :=
  transaction.block.header.height

/-- The database as a store of blocks. -/
theorem database_writeLaws :
    WriteLaws
      (fun (database : Database T) (transaction : DbTransaction T) =>
        transaction.applyTo database)
      Database.getBlock DbTransaction.height DbTransaction.block where
  read_write database transaction height :=
    transaction.getBlock_applyTo database height

def replayBlocks (log : List (DbTransaction T)) (database : Database T) :
    Database T :=
  log.foldl (fun database transaction => transaction.applyTo database)
    database

/-- The last block of a log at a height. -/
def lastBlock (log : List (DbTransaction T)) (height : BlockHeight) :
    Option (Block T) :=
  lastWrite DbTransaction.height DbTransaction.block log height

theorem getBlock_replayBlocks
    (log : List (DbTransaction T)) (database : Database T)
    (height : BlockHeight) :
    (replayBlocks log database).getBlock height =
      (lastBlock log height).or (database.getBlock height) :=
  database_writeLaws.read_foldl log database height

/-! ## What is written -/

/-- What the answer to a request writes: the block of an EndBlock. -/
def written (F : FuelCore T) (world : World T) (timed : TimedRequest) :
    List (DbTransaction T) :=
  match timed.2.endBlockHeight?, serveRequest F timed world with
  | some height, .ok _ _ =>
      match (F.produceAndExecuteBlock world.app.producer world.toShared
          timed.1 (BlockHeight.ofRequest height) none
          world.app.config.chainConf.blockGasLimit).1 with
      | .ok uncommitted => [uncommitted.dbTransaction]
      | .error _ => []
  | some _, .error _ _ => []
  | none, _ => []

/-- The worker as a machine that puts out what it writes. -/
def writer (F : FuelCore T) (environment : Option String)
    (command : Command) :
    Machine (Worker (World T)) (Occurrence TimedRequest)
      (DbTransaction T) where
  next := Worker.occur (serveRequest F) (restart F environment command)
  output
    | .serving world, .receive timed => written F world timed
    | .serving _, .restart => []
    | .stopped _, _ => []

/-- The blocks that are written in the course of a history. -/
def writeLog (F : FuelCore T) (environment : Option String)
    (command : Command) (worker : Worker (World T))
    (history : List (Occurrence TimedRequest)) :
    List (DbTransaction T) :=
  (writer F environment command).outputs worker history

theorem writer_restart
    (environment : Option String) (command : Command)
    (worker : Worker (World T)) :
    (writer F environment command).output worker .restart = [] := by
  cases worker <;> rfl

theorem written_produced
    {now : Tai64} {height : Int64} {world : World T}
    (produced : Produced F now height world) :
    written F world (now, .endBlock height) =
      [produced.uncommitted.dbTransaction] := by
  have answered :
      serveRequest F (now, .endBlock height) world =
        .ok (.endBlock {}) produced.outcome :=
    serveRequest_ok.mpr (Transition.endBlock produced)
  simp only [written, Request.endBlockHeight?, answered,
    produced.production]

theorem written_of_no_endBlock
    {timed : TimedRequest} {world : World T}
    (other : timed.2.endBlockHeight? = none) :
    written F world timed = [] := by
  simp only [written, other]

theorem written_of_error
    {timed : TimedRequest} {world stuck : World T} {panic : Panic}
    (failed : serveRequest F timed world = .error panic stuck) :
    written F world timed = [] := by
  cases height : timed.2.endBlockHeight? with
  | none => exact written_of_no_endBlock height
  | some asked => simp only [written, height, failed]

section Histories

variable {environment : Option String} {command : Command}
  {config : Config T} {bottom : Nat}

/-- One occurrence writes what it puts out. -/
theorem occur_database
    (genesis : GenesisLaws F) {worker : Worker (World T)}
    (keeps :
      KeepsChain F environment command config bottom
        worker.state.database)
    (occurrence : Occurrence TimedRequest) :
    (worker.occur (serveRequest F) (restart F environment command)
        occurrence).state.database =
      replayBlocks
        ((writer F environment command).output worker occurrence)
        worker.state.database := by
  cases occurrence with
  | restart =>
      obtain ⟨interval, _, covers⟩ := keeps.interval
      obtain ⟨height, stored⟩ := covers.exists_stored
      rw [Worker.occur,
        restart_of_stores genesis keeps.configured stored,
        writer_restart]
      rfl
  | receive timed =>
      cases worker with
      | stopped current =>
          rfl
      | serving current =>
          cases outcome : serveRequest F timed current with
          | error panic stuck =>
              have nothing := written_of_error outcome
              rw [Worker.occur, Worker.serve_error outcome]
              simp only [writer, nothing]
              exact (call_error outcome).database_eq
          | ok answer next =>
              rw [Worker.occur, Worker.serve_ok outcome]
              rcases (serveRequest_ok.mp outcome).database_cases with
                ⟨other, unchanged⟩ | ⟨height, produced, request, rfl⟩
              · have nothing : written F current timed = [] :=
                  written_of_no_endBlock other
                simp only [writer, nothing]
                exact unchanged
              · obtain ⟨now, _⟩ := timed
                cases request
                have block := written_produced produced
                simp only [writer, block]
                rfl

theorem after_database
    (genesis : GenesisLaws F) (heights : HeightLaws F)
    {worker : Worker (World T)}
    (keeps :
      KeepsChain F environment command config bottom
        worker.state.database)
    (history : List (Occurrence TimedRequest)) :
    (worker.after (serveRequest F) (restart F environment command)
        history).state.database =
      replayBlocks (writeLog F environment command worker history)
        worker.state.database := by
  induction history generalizing worker with
  | nil =>
      rfl
  | cons first rest inductionHypothesis =>
      have step := occur_database genesis keeps first
      have later :=
        inductionHypothesis (keeps.occur genesis heights first)
      rw [Worker.after_cons, later, step]
      unfold writeLog replayBlocks
      rw [Machine.outputs_cons, List.foldl_append]
      rfl

/-- Blocks are written above genesis only. -/
theorem above_of_mem_written
    (heights : HeightLaws F) {world : World T}
    (keeps :
      KeepsChain F environment command config bottom world.database)
    {timed : TimedRequest} {transaction : DbTransaction T}
    (member : transaction ∈ written F world timed) :
    bottom < transaction.height.toNat := by
  cases outcome : serveRequest F timed world with
  | error panic stuck =>
      rw [written_of_error outcome] at member
      cases member
  | ok answer next =>
      rcases (serveRequest_ok.mp outcome).database_cases with
        ⟨other, _⟩ | ⟨height, produced, request, _⟩
      · rw [written_of_no_endBlock other] at member
        cases member
      · obtain ⟨now, _⟩ := timed
        cases request
        rw [written_produced produced, List.mem_singleton] at member
        obtain ⟨interval, rfl, covers⟩ := keeps.interval
        obtain ⟨positive, previous⟩ :=
          produced.previous_mem heights covers
        obtain ⟨_, _, stored⟩ := produced.height_spec heights
        have lower := previous.1
        have same :
            transaction.height = BlockHeight.ofRequest height := by
          rw [member]
          exact stored
        rw [same]
        omega

theorem above_of_mem_writeLog
    (genesis : GenesisLaws F) (heights : HeightLaws F)
    {worker : Worker (World T)}
    (keeps :
      KeepsChain F environment command config bottom
        worker.state.database)
    {history : List (Occurrence TimedRequest)}
    {transaction : DbTransaction T}
    (member :
      transaction ∈ writeLog F environment command worker history) :
    bottom < transaction.height.toNat := by
  induction history generalizing worker with
  | nil =>
      cases member
  | cons first rest inductionHypothesis =>
      unfold writeLog at member
      rw [Machine.outputs_cons, List.mem_append] at member
      rcases member with here | later
      · cases worker with
        | stopped current => cases here
        | serving current =>
            cases first with
            | restart => cases here
            | receive timed =>
                exact above_of_mem_written heights keeps here
      · exact
          inductionHypothesis (keeps.occur genesis heights first) later

/-- An answered EndBlock writes a block at the height it asks for. -/
theorem exists_mem_writeLog
    (heights : HeightLaws F) {requests : List TimedRequest}
    {start finish : World T}
    (served : Answered (serveRequest F) requests start finish)
    {now : Tai64} {height : Int64}
    (asked : (now, .endBlock height) ∈ requests) :
    ∃ transaction ∈
        writeLog F environment command (.serving start)
          (requests.map Occurrence.receive),
      transaction.height = BlockHeight.ofRequest height := by
  induction requests generalizing start with
  | nil =>
      cases asked
  | cons first rest inductionHypothesis =>
      obtain ⟨answer, middle, stepped, tail⟩ := answered_cons.mp served
      unfold writeLog
      rw [List.map_cons, Machine.outputs_cons]
      rcases List.mem_cons.mp asked with rfl | later
      · obtain ⟨produced, _⟩ := answered_endBlock stepped
        obtain ⟨_, _, stored⟩ := produced.height_spec heights
        refine ⟨produced.uncommitted.dbTransaction, ?_, stored⟩
        apply List.mem_append_left
        change _ ∈ written F start (now, .endBlock height)
        rw [written_produced produced]
        exact List.mem_singleton_self _
      · obtain ⟨transaction, member, same⟩ :=
          inductionHypothesis tail later
        refine ⟨transaction, List.mem_append_right _ ?_, same⟩
        change
          _ ∈ (writer F environment command).outputs
            ((Worker.serving start).serve (serveRequest F) first).1 _
        rw [Worker.serve_ok stepped]
        exact member

variable {node : Node T}

/-- The database of a node is its genesis database and the log of its answered
EndBlocks, written in order over every stop and restart: each height holds the
last block written there, and genesis is never written again. -/
theorem database_is_write_log
    (genesis : GenesisLaws F) (heights : HeightLaws F)
    {fresh : Database T} (empty : ∀ height, ¬ fresh.Stores height)
    (started : exec F environment command fresh = .ok node)
    (history : List (Occurrence TimedRequest)) :
    (nodeAfter F environment command node history).state.database =
        replayBlocks
          (writeLog F environment command (.serving node.world) history)
          node.world.database ∧
      (∀ height,
        (nodeAfter F environment command node
            history).state.database.getBlock height =
          (lastBlock
              (writeLog F environment command (.serving node.world)
                history) height).or
            (node.world.database.getBlock height)) ∧
      ∀ transaction ∈
          writeLog F environment command (.serving node.world) history,
        node.world.app.config.chainConf.genesisHeight.toNat <
          transaction.height.toNat := by
  have keeps :
      KeepsChain F environment command node.world.app.config
        node.world.app.config.chainConf.genesisHeight.toNat
        (Worker.serving node.world).state.database :=
    keepsChain_of_exec genesis empty started
  have whole := after_database genesis heights keeps history
  refine ⟨whole, ?_, ?_⟩
  · intro height
    unfold nodeAfter
    rw [whole, getBlock_replayBlocks]
    rfl
  · intro transaction member
    exact above_of_mem_writeLog genesis heights keeps member

/-! ## Nothing written -/

/-- No EndBlock of the history is answered: after each the process is down. -/
def EndsNoBlock (F : FuelCore T) (environment : Option String)
    (command : Command) (node : Node T)
    (history : List (Occurrence TimedRequest)) : Prop :=
  ∀ before now height rest,
    history = before ++ .receive (now, .endBlock height) :: rest →
      (nodeAfter F environment command node
        (before ++ [.receive (now, .endBlock height)])).isServing = false

/-- A serving worker writes with a request exactly when this is an EndBlock
that it answers. -/
theorem written_eq_nil_iff {world : World T} {timed : TimedRequest} :
    written F world timed = [] ↔
      ∀ now height,
        timed = (now, .endBlock height) →
          ((Worker.serving world).serve (serveRequest F)
            timed).1.isServing = false := by
  cases outcome : serveRequest F timed world with
  | error panic stuck =>
      rw [written_of_error outcome, Worker.serve_error outcome]
      simp [Worker.isServing]
  | ok answer next =>
      rw [Worker.serve_ok outcome]
      rcases (serveRequest_ok.mp outcome).database_cases with
        ⟨other, _⟩ | ⟨height, produced, request, _⟩
      · rw [written_of_no_endBlock other]
        constructor
        · rintro _ now height rfl
          cases other
        · intro _
          rfl
      · obtain ⟨now, _⟩ := timed
        cases request
        rw [written_produced produced]
        simp [Worker.isServing]

theorem writeLog_eq_nil_iff {history : List (Occurrence TimedRequest)} :
    writeLog F environment command (.serving node.world) history = [] ↔
      EndsNoBlock F environment command node history := by
  have silent (before : List (Occurrence TimedRequest))
      (occurrence : Occurrence TimedRequest) :
      (writer F environment command).output
            (nodeAfter F environment command node before) occurrence = [] ↔
        ∀ now height,
          occurrence = .receive (now, .endBlock height) →
            (nodeAfter F environment command node
              (before ++ [occurrence])).isServing = false := by
    unfold nodeAfter
    rw [Worker.after_append]
    cases occurrence with
    | restart =>
        rw [writer_restart]
        simp
    | receive timed =>
        simp only [Occurrence.receive.injEq]
        cases (Worker.serving node.world).after (serveRequest F)
          (restart F environment command) before with
        | stopped left =>
            constructor
            · intro _ now height _
              rfl
            · intro _
              rfl
        | serving world => exact written_eq_nil_iff
  unfold writeLog EndsNoBlock
  rw [Machine.outputs_eq_nil_iff]
  constructor
  · intro nothing before now height rest split
    exact (silent before _).mp (nothing before _ rest split) now height rfl
  · intro ends before occurrence rest split
    apply (silent before occurrence).mpr
    rintro now height rfl
    exact ends before now height rest split

/-- A node on a fresh database has the block of its genesis. -/
theorem stores_genesis_iff
    (genesis : GenesisLaws F)
    {fresh : Database T} (empty : ∀ height, ¬ fresh.Stores height)
    (started : exec F environment command fresh = .ok node)
    (height : BlockHeight) :
    node.world.database.Stores height ↔
      height = node.world.app.config.chainConf.genesisHeight := by
  obtain ⟨config, _, booted, initialization, _⟩ := exec_booted started
  have covers := Covers.genesis genesis empty initialization
  rw [covers.stores_iff, Interval.mem_point, UInt32.toNat_inj,
    booted.config_eq]

/-- No block is above height 0 exactly when genesis is at 0 and no EndBlock was
answered. -/
theorem only_zero_iff_endsNoBlock
    (genesis : GenesisLaws F) (heights : HeightLaws F)
    {fresh : Database T} (empty : ∀ height, ¬ fresh.Stores height)
    (started : exec F environment command fresh = .ok node)
    (history : List (Occurrence TimedRequest)) :
    (∀ height,
      (nodeAfter F environment command node
          history).state.database.Stores height → height = 0) ↔
      node.world.app.config.chainConf.genesisHeight = 0 ∧
        EndsNoBlock F environment command node history := by
  have keeps :
      KeepsChain F environment command node.world.app.config
        node.world.app.config.chainConf.genesisHeight.toNat
        (Worker.serving node.world).state.database :=
    keepsChain_of_exec genesis empty started
  have whole := after_database genesis heights keeps history
  have stores_iff (height : BlockHeight) :
      (nodeAfter F environment command node
          history).state.database.Stores height ↔
        (lastBlock
            (writeLog F environment command (.serving node.world) history)
            height).isSome ∨
          height = node.world.app.config.chainConf.genesisHeight := by
    have atGenesis := stores_genesis_iff genesis empty started height
    unfold Database.Stores at atGenesis ⊢
    unfold nodeAfter
    rw [whole, getBlock_replayBlocks, Option.isSome_or, Bool.or_eq_true,
      ← atGenesis]
    rfl
  rw [← writeLog_eq_nil_iff]
  constructor
  · intro onlyZero
    constructor
    · exact onlyZero _ ((stores_iff _).mpr (Or.inr rfl))
    · apply List.eq_nil_iff_forall_not_mem.mpr
      intro transaction member
      have above := above_of_mem_writeLog genesis heights keeps member
      have zero : transaction.height = 0 :=
        onlyZero _ ((stores_iff _).mpr (Or.inl (isSome_lastWrite member)))
      rw [zero] at above
      exact absurd above (Nat.not_lt_zero _)
  · rintro ⟨atZero, nothing⟩ height stored
    rcases (stores_iff height).mp stored with last | atGenesis
    · rw [nothing] at last
      cases last
    · rw [atGenesis, atZero]

/-- A node restores its heights exactly when its genesis is at height 0 and no
EndBlock was answered. -/
theorem restores_height_iff_endsNoBlock
    (genesis : GenesisLaws F) (heights : HeightLaws F)
    {fresh : Database T} (empty : ∀ height, ¬ fresh.Stores height)
    (started : exec F environment command fresh = .ok node)
    (history : List (Occurrence TimedRequest)) {world : World T}
    (reached :
      nodeAfter F environment command node history = .serving world)
    (restarts : Nat) :
    (ReportsHeight F node.world
          node.world.app.config.chainConf.genesisHeight.toNat ∧
        RestoresHeight F environment command world restarts) ↔
      node.world.app.config.chainConf.genesisHeight = 0 ∧
        EndsNoBlock F environment command node history := by
  have serves :=
    serves_of_nodeAfter genesis heights empty started history reached
  have inputs :=
    only_zero_iff_endsNoBlock genesis heights empty started history
  rw [reached] at inputs
  rw [serves.restores_iff genesis started restarts]
  exact inputs

/-! ## Replays -/

/-- Every block above genesis is asked for again. -/
def ReplaysChain (bottom : Nat) (database : Database T)
    (requests : List TimedRequest) : Prop :=
  ∀ height : BlockHeight,
    database.Stores height → height.toNat ≠ bottom →
      ∃ now asked,
        (now, Request.endBlock asked) ∈ requests ∧
          BlockHeight.ofRequest asked = height

/-- Where the replay writes, what was there before is gone; where it does not,
there is genesis or nothing. -/
theorem getBlock_after_replay
    (heights : HeightLaws F) {log : List (DbTransaction T)}
    {first : Database T} {start finish : World T}
    {requests : List TimedRequest}
    (before : start.database = replayBlocks log first)
    (above : ∀ transaction ∈ log, bottom < transaction.height.toNat)
    (replays : ReplaysChain bottom start.database requests)
    (served : Answered (serveRequest F) requests start finish)
    (height : BlockHeight) :
    (lastBlock
          (writeLog F environment command (.serving start)
            (requests.map Occurrence.receive)) height).or
        (start.database.getBlock height) =
      (lastBlock
          (writeLog F environment command (.serving start)
            (requests.map Occurrence.receive)) height).or
        (first.getBlock height) := by
  by_cases atGenesis : height.toNat = bottom
  · have untouched : lastBlock log height = none := by
      cases last : lastBlock log height with
      | none => rfl
      | some block =>
          obtain ⟨transaction, member, same, _⟩ :=
            exists_of_lastWrite last
          have higher := above transaction member
          rw [same] at higher
          omega
    rw [before, getBlock_replayBlocks, untouched, Option.none_or]
  · by_cases stored : start.database.Stores height
    · obtain ⟨now, asked, member, rfl⟩ :=
        replays height stored atGenesis
      have wrote :
          ∃ transaction ∈
              writeLog F environment command (.serving start)
                (requests.map Occurrence.receive),
            transaction.height = BlockHeight.ofRequest asked :=
        exists_mem_writeLog heights served member
      obtain ⟨transaction, written, same⟩ := wrote
      have rewritten :
          (lastBlock
            (writeLog F environment command (.serving start)
              (requests.map Occurrence.receive))
            transaction.height).isSome :=
        isSome_lastWrite written
      rw [same] at rewritten
      obtain ⟨block, last⟩ := Option.isSome_iff_exists.mp rewritten
      rw [last, Option.some_or, Option.some_or]
    · have nothing : start.database.getBlock height = none := by
        simpa [Database.Stores] using stored
      have split := getBlock_replayBlocks log first height
      rw [← before, nothing] at split
      have neither := Option.or_eq_none_iff.mp split.symm
      rw [nothing, neither.2]

/-- A replay rewrites the chain.  A restart keeps the database; when the
requests after it end every block above genesis again, the blocks are in the
end those of genesis and of the replay, and none of the blocks from before
the restart is left above genesis. -/
theorem replay_rewrites_chain
    (genesis : GenesisLaws F) (heights : HeightLaws F)
    {fresh : Database T} (empty : ∀ height, ¬ fresh.Stores height)
    (started : exec F environment command fresh = .ok node)
    (history : List (Occurrence TimedRequest))
    {requests : List TimedRequest} {start finish : World T}
    (restarted :
      nodeAfter F environment command node (history ++ [.restart]) =
        .serving start)
    (replays :
      ReplaysChain
        node.world.app.config.chainConf.genesisHeight.toNat
        start.database requests)
    (served : Answered (serveRequest F) requests start finish) :
    start.database =
        (nodeAfter F environment command node history).state.database ∧
      ∀ height,
        finish.database.getBlock height =
          (lastBlock
              (writeLog F environment command (.serving start)
                (requests.map Occurrence.receive)) height).or
            (node.world.database.getBlock height) := by
  have keeps :
      KeepsChain F environment command node.world.app.config
        node.world.app.config.chainConf.genesisHeight.toNat
        (Worker.serving node.world).state.database :=
    keepsChain_of_exec genesis empty started
  have there := keeps.after genesis heights (history ++ [.restart])
  unfold nodeAfter at restarted
  constructor
  · have step :=
      occur_database genesis (keeps.after genesis heights history)
        .restart
    rw [Worker.after_append, Worker.after_cons, Worker.after_nil]
      at restarted
    rw [restarted, writer_restart] at step
    exact step
  · intro height
    rw [restarted] at there
    have before :=
      after_database genesis heights keeps (history ++ [.restart])
    rw [restarted] at before
    have again :=
      after_database genesis heights there
        (requests.map Occurrence.receive)
    rw [Worker.after_receive_of_answered served] at again
    have found :=
      congrArg (fun database => database.getBlock height) again
    simp only [Worker.state, getBlock_replayBlocks] at found
    rw [found]
    apply getBlock_after_replay heights before _ replays served
    intro transaction member
    exact above_of_mem_writeLog genesis heights keeps member

end Histories

section Replayed

open LocalTestnet

/-- Two empty blocks. -/
def firstTwo : List (Occurrence TimedRequest) :=
  [.receive (1, .beginBlock 1), .receive (2, .endBlock 1),
    .receive (3, .commit), .receive (4, .beginBlock 2),
    .receive (5, .endBlock 2), .receive (6, .commit)]

theorem database_is_write_log_twice :
    (writeLog core none command (.serving firstNode.world)
        firstTwo).length = 2 ∧
      ∀ transaction ∈
          writeLog core none command (.serving firstNode.world) firstTwo,
        0 < transaction.height.toNat :=
  ⟨rfl,
    (database_is_write_log core_genesisLaws core_heightLaws
      freshDatabase_empty exec_fresh firstTwo).2.2⟩

/-- The world after the chain of two and a restart. -/
def restartedWorld : World types :=
  (nodeAfter core none command firstNode
    (firstTwo ++ [.restart])).state

/-- The same two heights, each with a delivery.  The fees make the mints other
transactions than those of the empty blocks. -/
def deliveredTwo : List TimedRequest :=
  [(11, .beginBlock 1), (12, .deliverTx [1, 1, 4, 7]), (13, .endBlock 1),
    (14, .commit), (15, .beginBlock 2), (16, .deliverTx [2, 1, 4, 8]),
    (17, .endBlock 2), (18, .commit)]

/-- The world after ending both heights again. -/
def replayedWorld : World types :=
  ((Worker.serving restartedWorld).after (serveRequest core)
    (restart core none command)
    (deliveredTwo.map Occurrence.receive)).state

theorem deliveredTwo_replays :
    ReplaysChain 0 restartedWorld.database deliveredTwo := by
  intro height stored positive
  obtain ⟨entry, member, rfl⟩ := Database.stores_iff_mem.mp stored
  have known :
      ∀ entry ∈ restartedWorld.database.blocks,
        entry.1.toNat = 0 ∨ entry.1 = 1 ∨ entry.1 = 2 := by
    decide
  rcases known entry member with zero | one | two
  · exact absurd zero positive
  · refine ⟨13, 1, ?_, one.symm⟩
    simp [deliveredTwo]
  · refine ⟨17, 2, ?_, two.symm⟩
    simp [deliveredTwo]

theorem replay_rewrites_chain_later :
    (∀ height,
      replayedWorld.database.getBlock height =
        (lastBlock
            (writeLog core none command (.serving restartedWorld)
              (deliveredTwo.map Occurrence.receive)) height).or
          (firstNode.world.database.getBlock height)) ∧
      (restartedWorld.database.getBlock 1).map Block.transactions =
        some [coinbase 101 1 0] ∧
      (replayedWorld.database.getBlock 1).map Block.transactions =
        some [coinbase 101 1 4, transfer 1 1 4 7] := by
  have served :
      Answered (serveRequest core) deliveredTwo restartedWorld
        replayedWorld :=
    @Worker.answered_of_serving _ _ _ _ (serveRequest core)
      (restart core none command) deliveredTwo restartedWorld
      replayedWorld rfl
  refine ⟨?_, rfl, rfl⟩
  exact
    (replay_rewrites_chain core_genesisLaws core_heightLaws
      freshDatabase_empty exec_fresh firstTwo rfl deliveredTwo_replays
      served).2

end Replayed

end Fuelmint
