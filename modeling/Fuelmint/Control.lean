import Fuelmint.DataAvailability
import Fuelmint.Deliveries
import Fuelmint.Foundation.Verdicts
import Fuelmint.Restart

/-!
# The node as a control automaton

Four things decide how a node goes on: the heights it has stored, the two
heights in its state, and whether it still serves.  The automaton of this
module has nothing else.  It is told, for each delivery, whether the pool took
it and, for each EndBlock, whether executor and database did their part; all
the rest it computes from the requests.
-/

namespace Fuelmint

open Foundation

variable {T : Types} {F : FuelCore T}

structure Control where
  interval : Interval
  current : Int64
  committed : Int64
  serving : Bool

namespace Control

def boot (genesis : Nat) : Control where
  interval := Interval.point genesis
  current := 0
  committed := 0
  serving := true

def stop (control : Control) : Control :=
  { control with serving := false }

/-- There is a block for the new one to follow. -/
def Admits (control : Control) (height : BlockHeight) : Prop :=
  height.toNat ≠ 0 ∧ height.toNat - 1 ∈ control.interval

instance (control : Control) (height : BlockHeight) :
    Decidable (control.Admits height) :=
  inferInstanceAs (Decidable (_ ∧ _))

/-- One request to a serving automaton.  A failed EndBlock has already written
its height. -/
def request (control : Control) (verdict : Bool) : Request → Control
  | .info => if 0 ≤ control.current then control else control.stop
  | .deliverTx _ => if verdict then control else control.stop
  | .endBlock height =>
      let entered := { control with current := height }
      if control.Admits (BlockHeight.ofRequest height) ∧ verdict = true then
        { entered with
          interval :=
            control.interval.join (BlockHeight.ofRequest height).toNat }
      else
        entered.stop
  | .commit => { control with committed := control.current }
  | .query _ _ | .flush | .echo _ | .initChain | .beginBlock _
  | .checkTx _ | .setOption _ _ | .listSnapshots | .offerSnapshot
  | .loadSnapshotChunk | .applySnapshotChunk => control

/-- A stopped automaton only restarts, and keeps its interval then. -/
def occur (control : Control) :
    Occurrence TimedRequest × Bool → Control
  | (.receive timed, verdict) =>
      if control.serving then control.request verdict timed.2 else control
  | (.restart, _) =>
      { control with current := 0, committed := 0, serving := true }

def after (control : Control)
    (history : List (Occurrence TimedRequest × Bool)) : Control :=
  history.foldl occur control

/-- The automaton is in the state the worker is in. -/
structure Describes (control : Control) (worker : Worker (World T)) :
    Prop where
  serving : worker.isServing = control.serving
  heights : Covers worker.state.database control.interval
  current :
    worker.state.app.currentState =
      { blockHeight := control.current, appHash := [] }
  committed :
    worker.state.app.committedState =
      { blockHeight := control.committed, appHash := [] }

end Control

/-! ## The verdicts of fuel-core -/

section Verdicts

variable (F) (executorFails : String → Bool)

/-- For a delivery, whether pool and decoder take it; for an EndBlock, whether
neither the executor nor the write of the block fails. -/
def World.verdict (world : World T) (timed : TimedRequest) : Bool :=
  match timed.2 with
  | .deliverTx bytes =>
      match F.fromBytes bytes with
      | some tx =>
          (F.insert world.app.txPool world.database world.pool tx).1.isOk
      | none => false
  | .endBlock height =>
      match (world.production F timed.1 height).1 with
      | .ok uncommitted =>
          (F.commitError world.database uncommitted.dbTransaction).isNone
      | .error message => !executorFails message
  | _ => true

def workerVerdict :
    Worker (World T) → Occurrence TimedRequest → Bool
  | .serving world, .receive timed => world.verdict F executorFails timed
  | _, _ => true

end Verdicts

variable {executorFails : String → Bool}

section OneRequest

variable {now : Tai64} {request : Request} {world next : World T}
  {control : Control}

theorem Produced.verdict
    {height : Int64} (produced : Produced F now height world) :
    world.verdict F executorFails (now, .endBlock height) = true := by
  simp only [World.verdict, produced.production_eq, produced.committed,
    Option.isNone_none]

/-- An answered request moves the automaton to where it moves the
application. -/
theorem Transition.describes
    (heights : HeightLaws F) {answer : Response}
    (transition : Transition F now request world answer next)
    (describes : control.Describes (.serving world)) :
    (control.request (world.verdict F executorFails (now, request))
      request).Describes (.serving next) := by
  cases transition with
  | info converted =>
      have nonneg : 0 ≤ control.current := by
        have known := (Height.tryFrom_eq_some converted).1
        have same := congrArg State.blockHeight describes.current
        change world.app.currentState.blockHeight = control.current
          at same
        rwa [same] at known
      simp only [Control.request, if_pos nonneg]
      exact describes
  | @deliverTx _ bytes _ _ _ decoded insertion =>
      have taken :
          world.verdict F executorFails (now, .deliverTx bytes) = true := by
        simp only [World.verdict, decoded, insertion]
        rfl
      simp only [Control.request, taken, if_true]
      exact ⟨describes.serving, describes.heights, describes.current,
        describes.committed⟩
  | @endBlock _ height produced =>
      have admitted : control.Admits (BlockHeight.ofRequest height) :=
        produced.previous_mem heights describes.heights
      have passed :
          control.Admits (BlockHeight.ofRequest height) ∧
            world.verdict F executorFails (now, .endBlock height) =
              true :=
        ⟨admitted, produced.verdict⟩
      simp only [Control.request, if_pos passed]
      constructor
      · exact describes.serving
      · exact produced.covers heights describes.heights
      · have hash := congrArg State.appHash describes.current
        exact congrArg (State.mk height) hash
      · exact describes.committed
  | commit =>
      exact ⟨describes.serving, describes.heights, describes.current,
        describes.current⟩
  | unhandled default =>
      cases request <;> first | exact describes | cases default

/-- A failed EndBlock stops the automaton at the height it asked for. -/
theorem Control.Describes.endBlock_stopped
    {height : Int64} {pool : T.Pool} {verdict : Bool}
    (describes : control.Describes (.serving world))
    (failed :
      ¬ (control.Admits (BlockHeight.ofRequest height) ∧
        verdict = true)) :
    (control.request verdict (.endBlock height)).Describes
      (.stopped ((world.setCurrentHeight height).setPool pool)) := by
  simp only [Control.request, if_neg failed]
  constructor
  · rfl
  · exact describes.heights
  · have hash := congrArg State.appHash describes.current
    exact congrArg (State.mk height) hash
  · exact describes.committed

/-- With every block at DA height 0, production at an admitted height fails in
the executor only. -/
theorem executorFails_of_admitted
    (production : ProductionLaws F executorFails)
    (describes : control.Describes (.serving world))
    (serves : ServesAtZero world) {height : Int64} {message : String}
    {pool : T.Pool}
    (failed : world.production F now height = (.error message, pool))
    (admitted : control.Admits (BlockHeight.ofRequest height)) :
    executorFails message = true := by
  have positive : BlockHeight.ofRequest height ≠ 0 := by
    intro zero
    apply admitted.1
    rw [zero]
    rfl
  have stored :
      world.database.Stores (BlockHeight.ofRequest height - 1) := by
    have previous := admitted.2
    rw [← toNat_sub_one positive] at previous
    exact (describes.heights.stores_iff _).mpr previous
  rcases production.refused failed with
    zero | missing | ⟨previous, found, lower⟩ | executor
  · exact absurd zero positive
  · exact absurd stored missing
  · obtain ⟨answered, zero⟩ := serves.relayer_answer found
    have impossible := lower 0 answered
    rw [zero] at impossible
    exact absurd impossible (by decide)
  · exact executor

/-- A panic stops the automaton. -/
theorem Breakdown.describes
    (production : ProductionLaws F executorFails) {panic : Panic}
    (breakdown : Breakdown F now request world panic next)
    (serves : ServesAtZero world)
    (describes : control.Describes (.serving world)) :
    (control.request (world.verdict F executorFails (now, request))
      request).Describes (.stopped next) := by
  have halted : control.stop.Describes (.stopped world) :=
    ⟨rfl, describes.heights, describes.current, describes.committed⟩
  cases breakdown with
  | info unconverted =>
      have negative : ¬ 0 ≤ control.current := by
        intro nonneg
        have same := congrArg State.blockHeight describes.current
        have converts := (Height.tryFrom_isSome_iff _).mpr nonneg
        change world.app.currentState.blockHeight = control.current
          at same
        rw [← same, unconverted] at converts
        cases converts
      simp only [Control.request, if_neg negative]
      exact halted
  | @fromBytes _ bytes undecoded =>
      have refused :
          world.verdict F executorFails (now, .deliverTx bytes) =
            false := by
        simp only [World.verdict, undecoded]
      simp only [Control.request, refused]
      exact halted
  | @txPoolInsert _ bytes _ _ _ decoded insertion =>
      have refused :
          world.verdict F executorFails (now, .deliverTx bytes) =
            false := by
        simp only [World.verdict, decoded, insertion]
        rfl
      simp only [Control.request, refused]
      exact ⟨rfl, describes.heights, describes.current,
        describes.committed⟩
  | @produceBlock _ height message pool failed =>
      apply describes.endBlock_stopped
      rintro ⟨admitted, passed⟩
      have executor :=
        executorFails_of_admitted production describes serves failed
          admitted
      have refused :
          world.verdict F executorFails (now, .endBlock height) =
            !executorFails message := by
        simp only [World.verdict, World.production, failed]
      rw [refused, executor] at passed
      cases passed
  | @commitTransaction _ height uncommitted message pool produced failed =>
      apply describes.endBlock_stopped
      rintro ⟨_, passed⟩
      have refused :
          world.verdict F executorFails (now, .endBlock height) =
            false := by
        simp only [World.verdict, World.production, produced, failed,
          Option.isNone_some]
      rw [refused] at passed
      cases passed

theorem accepted_iff_verdict {bytes : Bytes} :
    Accepted F world bytes ↔
      world.verdict F executorFails (now, .deliverTx bytes) = true := by
  simp only [Accepted, World.verdict]
  cases F.fromBytes bytes with
  | none =>
      simp
  | some tx =>
      cases insertion :
          F.insert world.app.txPool world.database world.pool tx with
      | mk inserted pool =>
          cases inserted <;>
            simp [insertion, Except.isOk, Except.toBool]

/-- The reasons for which the automaton stops. -/
theorem Control.Describes.stops_iff
    {timed : TimedRequest} (describes : control.Describes (.serving world)) :
    (control.occur
        (.receive timed,
          workerVerdict F executorFails (.serving world)
            (.receive timed))).serving = false ↔
      (timed.2 = .info ∧ world.app.currentState.blockHeight < 0) ∨
        (∃ bytes, timed.2 = .deliverTx bytes ∧ ¬ Accepted F world bytes) ∨
        ∃ height,
          timed.2 = .endBlock height ∧
            ¬ (control.Admits (BlockHeight.ofRequest height) ∧
              world.verdict F executorFails timed = true) := by
  obtain ⟨now, request⟩ := timed
  have busy : control.serving = true := describes.serving.symm
  have current :
      world.app.currentState.blockHeight = control.current :=
    congrArg State.blockHeight describes.current
  simp only [Control.occur, busy, if_true, workerVerdict]
  cases request with
  | info =>
      rw [current]
      by_cases nonneg : 0 ≤ control.current
      · simp [Control.request, nonneg, busy, Int64.not_lt.mpr nonneg]
      · simp [Control.request, nonneg, Control.stop,
          Int64.not_le.mp nonneg]
  | deliverTx bytes =>
      have accepted :
          Accepted F world bytes ↔
            world.verdict F executorFails (now, .deliverTx bytes) = true :=
        accepted_iff_verdict
      by_cases taken :
          world.verdict F executorFails (now, .deliverTx bytes) = true
      · simp [Control.request, taken, busy, accepted]
      · simp [Control.request, taken, Control.stop, accepted]
  | endBlock height =>
      by_cases passed :
          control.Admits (BlockHeight.ofRequest height) ∧
            world.verdict F executorFails (now, .endBlock height) = true
      · simp [Control.request, passed, busy]
      · simp only [Control.request, if_neg passed]
        simpa [Control.stop] using passed
  | commit =>
      simp [Control.request, busy]
  | _ =>
      simp [Control.request, busy]

end OneRequest

/-! ## Histories -/

section Histories

variable {environment : Option String} {command : Command}

theorem Control.Describes.occur
    (genesis : GenesisLaws F) (heights : HeightLaws F)
    {lowDaHeight : (answer asked : DaBlockHeight) → String}
    (relayer : RelayerLaws F lowDaHeight)
    (production : ProductionLaws F executorFails)
    {fresh : Database T} (empty : ∀ height, ¬ fresh.Stores height)
    {config : Config T}
    (configured : command.getConfig F environment = .ok config)
    {worker : Worker (World T)} (reached : Reaches F fresh worker)
    {control : Control} (describes : control.Describes worker)
    (occurrence : Occurrence TimedRequest) :
    (control.occur
      (occurrence, workerVerdict F executorFails worker
        occurrence)).Describes
      (worker.occur (serveRequest F) (restart F environment command)
        occurrence) := by
  cases occurrence with
  | restart =>
      obtain ⟨height, stored⟩ := describes.heights.exists_stored
      rw [Worker.occur, restart_of_stores genesis configured stored]
      exact ⟨rfl, describes.heights, rfl, rfl⟩
  | receive timed =>
      cases worker with
      | stopped left =>
          have idle : control.serving = false := describes.serving.symm
          simp only [Control.occur, idle]
          exact describes
      | serving world =>
          have busy : control.serving = true := describes.serving.symm
          have serves : ServesAtZero world :=
            reached.atZero genesis heights relayer empty
          simp only [Control.occur, busy, if_true]
          cases outcome : serveRequest F timed world with
          | ok answer next =>
              rw [Worker.occur, Worker.serve_ok outcome]
              exact
                (serveRequest_ok.mp outcome).describes heights describes
          | error panic stuck =>
              rw [Worker.occur, Worker.serve_error outcome]
              exact
                (call_error outcome).describes production serves describes

theorem Reaches.occur
    {fresh : Database T} {worker : Worker (World T)}
    (reached : Reaches F fresh worker)
    (occurrence : Occurrence TimedRequest) :
    Reaches F fresh
      (worker.occur (serveRequest F)
        (Fuelmint.restart F environment command) occurrence) := by
  cases occurrence with
  | receive timed => exact Reaches.receive timed reached
  | restart => exact Reaches.restart environment command reached

/-- The automaton of a node over a history, told what fuel-core decides. -/
def controlAfter (F : FuelCore T) (executorFails : String → Bool)
    (environment : Option String) (command : Command) (node : Node T)
    (history : List (Occurrence TimedRequest)) : Control :=
  (Control.boot
      node.world.app.config.chainConf.genesisHeight.toNat).after
    (withVerdicts
      (Worker.occur (serveRequest F) (restart F environment command))
      (workerVerdict F executorFails) (.serving node.world) history)

theorem describes_of_exec
    (genesis : GenesisLaws F) {fresh : Database T}
    (empty : ∀ height, ¬ fresh.Stores height) {node : Node T}
    (started : exec F environment command fresh = .ok node) :
    (Control.boot
      node.world.app.config.chainConf.genesisHeight.toNat).Describes
        (.serving node.world) := by
  obtain ⟨config, _, booted, initialization, _⟩ := exec_booted started
  have covered := Covers.genesis genesis empty initialization
  constructor
  · rfl
  · rw [booted.config_eq]
    exact covered
  · exact booted.currentState_eq
  · change node.world.app.committedState = _
    rw [booted.app]
    rfl

theorem describes_nodeAfter
    (genesis : GenesisLaws F) (heights : HeightLaws F)
    {lowDaHeight : (answer asked : DaBlockHeight) → String}
    (relayer : RelayerLaws F lowDaHeight)
    (production : ProductionLaws F executorFails)
    {fresh : Database T} (empty : ∀ height, ¬ fresh.Stores height)
    {node : Node T}
    (started : exec F environment command fresh = .ok node)
    (history : List (Occurrence TimedRequest)) :
    (controlAfter F executorFails environment command node
      history).Describes
        (nodeAfter F environment command node history) := by
  obtain ⟨config, configured, _, _, _⟩ := exec_booted started
  have followed :=
    related_withVerdicts
      (fun (worker : Worker (World T)) (control : Control) =>
        Reaches F fresh worker ∧ control.Describes worker)
      (fun worker control occurrence known =>
        ⟨known.1.occur occurrence,
          known.2.occur genesis heights relayer production empty
            configured known.1 occurrence⟩)
      history
      ⟨Reaches.start started, describes_of_exec genesis empty started⟩
  exact followed.2

theorem controlAfter_concat
    (node : Node T) (history : List (Occurrence TimedRequest))
    (occurrence : Occurrence TimedRequest) :
    controlAfter F executorFails environment command node
        (history ++ [occurrence]) =
      (controlAfter F executorFails environment command node
        history).occur
          (occurrence,
            workerVerdict F executorFails
              (nodeAfter F environment command node history)
              occurrence) := by
  unfold controlAfter Control.after
  rw [withVerdicts_concat, List.foldl_concat]
  rfl

/-- A node is where the automaton is: the heights it has stored, current and
committed height, and whether it serves.  A serving node stops at an Info with
a negative current height, at a delivery that is refused, at an EndBlock that
has no block to follow, and where executor or write fails; at nothing else. -/
theorem node_follows_control
    (genesis : GenesisLaws F) (heights : HeightLaws F)
    {lowDaHeight : (answer asked : DaBlockHeight) → String}
    (relayer : RelayerLaws F lowDaHeight)
    (production : ProductionLaws F executorFails)
    {fresh : Database T} (empty : ∀ height, ¬ fresh.Stores height)
    {node : Node T}
    (started : exec F environment command fresh = .ok node)
    (history : List (Occurrence TimedRequest)) :
    (controlAfter F executorFails environment command node
        history).Describes
      (nodeAfter F environment command node history) ∧
    ∀ world timed,
      nodeAfter F environment command node history = .serving world →
        ((nodeAfter F environment command node
              (history ++ [.receive timed])).isServing = false ↔
          (timed.2 = .info ∧
              world.app.currentState.blockHeight < 0) ∨
            (∃ bytes,
              timed.2 = .deliverTx bytes ∧ ¬ Accepted F world bytes) ∨
            ∃ height,
              timed.2 = .endBlock height ∧
                ¬ ((controlAfter F executorFails environment command
                      node history).Admits
                    (BlockHeight.ofRequest height) ∧
                  world.verdict F executorFails timed = true)) := by
  have describes :=
    describes_nodeAfter genesis heights relayer production empty started
  refine ⟨describes history, ?_⟩
  intro world timed reached
  have before := describes history
  have later := (describes (history ++ [.receive timed])).serving
  rw [reached] at before
  rw [later, controlAfter_concat, reached]
  exact before.stops_iff

end Histories

section Stopped

open LocalTestnet

/-- A block with a transaction, a restart, and another, empty block at the same
height. -/
def skippedHeight : List (Occurrence TimedRequest) :=
  [.receive (1, .deliverTx [1, 1, 4, 7]), .receive (2, .endBlock 1),
    .restart, .receive (3, .endBlock 1), .receive (4, .commit)]

theorem node_follows_control_skippedHeight :
    (nodeAfter core none command firstNode
      (skippedHeight ++ [.receive (5, .endBlock 3)])).isServing =
        false := by
  have followed :=
    node_follows_control core_genesisLaws core_heightLaws
      core_relayerLaws core_productionLaws freshDatabase_empty exec_fresh
      skippedHeight
  refine (followed.2 _ (5, .endBlock 3) rfl).mpr ?_
  right
  right
  refine ⟨3, rfl, ?_⟩
  decide

end Stopped

end Fuelmint
