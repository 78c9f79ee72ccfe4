import Fuelmint.GraphQL

/-!
# No side door into the chain

The ABCI worker, the GraphQL service and the gossip side of the pool share one
pool and one database.  Over any interleaving of their events, what is in the
pool or in a block came in by a delivery.
-/

namespace Fuelmint

open Foundation

variable {T : Types}

/-- A running node: the worker that serves ABCI, the services it was wired
with, and what the GraphQL side keeps for itself. -/
structure System (T : Types) where
  worker : Worker (World T)
  services : SubServices T
  sessions : T.DapSessions
  sends : List Send

/-- A GraphQL mutation, an ABCI request, or a poll of the gossip service. -/
inductive SystemEvent (T : Types) where
  | abci (timed : TimedRequest)
  | graphQL (mutation : Mutation T)
  | gossip (poll : Nat)

namespace System

def boot (node : Node T) (sessions : T.DapSessions) : System T where
  worker := .serving node.world
  services := node.services
  sessions := sessions
  sends := []

def gateway (system : System T) : Gateway T where
  toShared := system.worker.state.toShared
  sessions := system.sessions
  sends := system.sends

/-- Give the pool and the database another content. -/
def setShared (system : System T) (shared : Shared T) : System T :=
  { system with
    worker :=
      system.worker.map fun world => { world with toShared := shared } }

variable (F : FuelCore T)

/-- A mutation is served whether or not the ABCI worker still runs. -/
def resolve (system : System T) (mutation : Mutation T) : System T :=
  let after :=
    finalState (mutation.resolve F system.services.graphQL system.gateway)
  { system.setShared after.toShared with
    sessions := after.sessions
    sends := after.sends }

/-- The pool service inserts what its gossip side hears. -/
def hear (system : System T) (poll : Nat) : System T :=
  let shared := system.worker.state.toShared
  let pool :=
    (F.gossip system.services.p2p poll).foldl
      (fun pool tx =>
        (F.insert system.services.txpool shared.database pool tx).2)
      shared.pool
  system.setShared { shared with pool := pool }

def step (system : System T) : SystemEvent T → System T
  | .abci timed =>
      { system with
        worker := (system.worker.serve (serveRequest F) timed).1 }
  | .graphQL mutation => system.resolve F mutation
  | .gossip poll => system.hear F poll

/-- The system after a sequence of events. -/
def after (system : System T) (events : List (SystemEvent T)) : System T :=
  events.foldl (step F) system

end System

variable {F : FuelCore T}

namespace System

theorem after_concat
    (system : System T) (events : List (SystemEvent T))
    (event : SystemEvent T) :
    system.after F (events ++ [event]) =
      (system.after F events).step F event :=
  List.foldl_concat ..

/-- Writing back the stores as they are changes nothing. -/
theorem setShared_worker
    {system : System T} {shared : Shared T}
    (same : shared = system.worker.state.toShared) :
    (system.setShared shared).worker = system.worker := by
  apply Worker.map_eq_self
  rw [same]

/-- The wiring that closes the doors: a consensus module built from nothing
and a gossip service that is not there. -/
structure Closed (system : System T) : Prop where
  consensusModule :
    system.services.graphQL.consensusModule = PoAAdapter.new none
  p2p : system.services.p2p = P2PAdapter.new

theorem resolve_worker
    (laws : GraphQLLaws F) {system : System T} (closed : system.Closed)
    (mutation : Mutation T) :
    (system.resolve F mutation).worker = system.worker := by
  apply setShared_worker
  exact
    mutation.resolve_frames laws closed.consensusModule system.gateway

theorem hear_worker
    (laws : GraphQLLaws F) {system : System T} (closed : system.Closed)
    (poll : Nat) :
    (system.hear F poll).worker = system.worker := by
  apply setShared_worker
  rw [closed.p2p, laws.silent poll]
  rfl

theorem step_services (system : System T) (event : SystemEvent T) :
    (system.step F event).services = system.services := by
  cases event <;> rfl

theorem Closed.step
    {system : System T} (closed : system.Closed) (event : SystemEvent T) :
    (system.step F event).Closed := by
  constructor
  · rw [step_services]
    exact closed.consensusModule
  · rw [step_services]
    exact closed.p2p

end System

/-! ## Where transactions come from -/

/-- The transaction was decoded from the bytes of a DeliverTx. -/
def DeliveredBy (F : FuelCore T) (events : List (SystemEvent T))
    (tx : T.Tx) : Prop :=
  ∃ now bytes,
    SystemEvent.abci (now, .deliverTx bytes) ∈ events ∧
      F.fromBytes bytes = some tx

theorem DeliveredBy.append
    {events : List (SystemEvent T)} {tx : T.Tx}
    (delivered : DeliveredBy F events tx) (event : SystemEvent T) :
    DeliveredBy F (events ++ [event]) tx := by
  obtain ⟨now, bytes, member, decoded⟩ := delivered
  exact ⟨now, bytes, List.mem_append_left _ member, decoded⟩

/-- The transaction is in the pool or in a stored block. -/
def Present (F : FuelCore T) (shared : Shared T) (tx : T.Tx) : Prop :=
  tx ∈ F.contents shared.pool ∨
    ∃ height, tx ∈ F.transactionsAt shared.database height

section Requests

variable {now : Tai64} {request : Request} {world next : World T}

/-- An answered request brings in the transaction it delivers, no other. -/
theorem Transition.present
    (pool : PoolLaws F) (selection : SelectionLaws F)
    (execution : ExecutionLaws F) (heights : HeightLaws F)
    {answer : Response}
    (transition : Transition F now request world answer next)
    {tx : T.Tx} (present : Present F next.toShared tx) :
    Present F world.toShared tx ∨
      ∃ bytes, request = .deliverTx bytes ∧
        F.fromBytes bytes = some tx := by
  cases transition with
  | @deliverTx _ bytes delivered inserted rest decoded insertion =>
      rcases present with pooled | stored
      · have known :
            tx ∈ (F.contents world.pool : Multiset T.Tx) + {delivered} :=
          Multiset.mem_of_le (pool.inserted insertion)
            (Multiset.mem_coe.mpr pooled)
        rcases Multiset.mem_add.mp known with before | here
        · exact Or.inl (Or.inl (Multiset.mem_coe.mp before))
        · right
          rw [Multiset.mem_singleton.mp here]
          exact ⟨bytes, rfl, decoded⟩
      · exact Or.inl (Or.inr stored)
  | @endBlock _ requested produced =>
      left
      rcases present with pooled | ⟨height, stored⟩
      · exact Or.inl
          (produced.mem_pool pool selection execution (Or.inr pooled))
      · by_cases written : height = BlockHeight.ofRequest requested
        · left
          subst written
          have included := stored
          unfold FuelCore.transactionsAt at included
          rw [produced.getBlock_outcome heights, if_pos rfl] at included
          exact
            produced.mem_pool pool selection execution (Or.inl included)
        · right
          refine ⟨height, ?_⟩
          rw [← transactionsAt_outcome_of_ne heights produced written]
          exact stored
  | _ => exact Or.inl present

/-- A panic brings nothing in. -/
theorem Breakdown.present
    (pool : PoolLaws F) (selection : SelectionLaws F)
    (execution : ExecutionLaws F) (failure : FailedProductionLaws F)
    {panic : Panic}
    (breakdown : Breakdown F now request world panic next)
    {tx : T.Tx} (present : Present F next.toShared tx) :
    Present F world.toShared tx := by
  rcases present with pooled | stored
  · left
    have smaller := breakdown.pool_le pool selection execution failure
    exact
      Multiset.mem_coe.mp
        (Multiset.mem_of_le smaller (Multiset.mem_coe.mpr pooled))
  · right
    rw [← breakdown.database_eq]
    exact stored

end Requests

/-- The doors are closed, and everything present came by a delivery. -/
structure Sourced (F : FuelCore T) (events : List (SystemEvent T))
    (system : System T) : Prop where
  closed : system.Closed
  delivered :
    ∀ tx, Present F system.worker.state.toShared tx →
      DeliveredBy F events tx

/-- What one event makes of the worker: nothing, unless it is an ABCI request
that a serving worker answers or breaks down on. -/
theorem System.step_cases
    (laws : GraphQLLaws F) {system : System T} (closed : system.Closed)
    (event : SystemEvent T) :
    (system.step F event).worker = system.worker ∨
      (∃ now request world answer next,
        event = .abci (now, request) ∧
          system.worker = .serving world ∧
          Transition F now request world answer next ∧
          (system.step F event).worker = .serving next) ∨
      ∃ now request world panic stuck,
        event = .abci (now, request) ∧
          system.worker = .serving world ∧
          Breakdown F now request world panic stuck ∧
          (system.step F event).worker = .stopped stuck := by
  cases event with
  | graphQL mutation =>
      exact Or.inl (System.resolve_worker laws closed mutation)
  | gossip poll =>
      exact Or.inl (System.hear_worker laws closed poll)
  | abci timed =>
      obtain ⟨now, request⟩ := timed
      have served :
          (system.step F (.abci (now, request))).worker =
            (system.worker.serve (serveRequest F) (now, request)).1 :=
        rfl
      rw [served]
      cases system.worker with
      | stopped left =>
          exact Or.inl rfl
      | serving world =>
          right
          cases outcome : serveRequest F (now, request) world with
          | ok answer next =>
              left
              refine ⟨now, request, world, answer, next, rfl, rfl,
                serveRequest_ok.mp outcome, ?_⟩
              rw [Worker.serve_ok outcome]
          | error panic stuck =>
              right
              refine ⟨now, request, world, panic, stuck, rfl, rfl,
                call_error outcome, ?_⟩
              rw [Worker.serve_error outcome]

theorem Sourced.step
    (pool : PoolLaws F) (selection : SelectionLaws F)
    (execution : ExecutionLaws F) (failure : FailedProductionLaws F)
    (heights : HeightLaws F) (graphQL : GraphQLLaws F)
    {events : List (SystemEvent T)} {system : System T}
    (sourced : Sourced F events system) (event : SystemEvent T) :
    Sourced F (events ++ [event]) (system.step F event) := by
  refine ⟨sourced.closed.step event, ?_⟩
  intro tx present
  have before := sourced.delivered tx
  rcases System.step_cases graphQL sourced.closed event with
    unchanged |
      ⟨now, request, world, answer, next, abci, serving, transition,
        reached⟩ |
      ⟨now, request, world, panic, stuck, abci, serving, breakdown,
        reached⟩
  · rw [unchanged] at present
    exact (before present).append event
  · rw [reached] at present
    rw [serving] at before
    have sources :=
      transition.present pool selection execution heights present
    rcases sources with known | ⟨bytes, delivery, decoded⟩
    · exact (before known).append event
    · refine ⟨now, bytes, List.mem_append_right _ ?_, decoded⟩
      rw [abci, delivery]
      exact List.mem_cons_self
  · rw [reached] at present
    rw [serving] at before
    have known :=
      breakdown.present pool selection execution failure present
    exact (before known).append event

/-- Only an answered EndBlock writes the database. -/
theorem System.step_database
    (laws : GraphQLLaws F) {system : System T} (closed : system.Closed)
    {event : SystemEvent T}
    (changed :
      (system.step F event).worker.state.database ≠
        system.worker.state.database) :
    ∃ now height, event = .abci (now, .endBlock height) := by
  rcases System.step_cases laws closed event with
    unchanged |
      ⟨now, request, world, answer, next, abci, serving, transition,
        reached⟩ |
      ⟨now, request, world, panic, stuck, abci, serving, breakdown,
        reached⟩
  · rw [unchanged] at changed
    exact absurd rfl changed
  · rw [reached, serving] at changed
    rcases transition.database_cases with
      ⟨_, same⟩ | ⟨height, _, endBlock, _⟩
    · exact absurd same changed
    · rw [endBlock] at abci
      exact ⟨now, height, abci⟩
  · rw [reached, serving] at changed
    exact absurd breakdown.database_eq changed

/-- A fresh node has an empty pool and a genesis block without transactions. -/
theorem sourced_boot
    (genesis : GenesisLaws F) (pool : PoolLaws F)
    {environment : Option String} {command : Command}
    {fresh : Database T} {node : Node T}
    (empty : ∀ height, ¬ fresh.Stores height)
    (started : exec F environment command fresh = .ok node)
    (sessions : T.DapSessions) :
    Sourced F [] (System.boot node sessions) := by
  obtain ⟨config, _, booted, initialization, services⟩ :=
    exec_booted started
  constructor
  · constructor
    · change node.services.graphQL.consensusModule = _
      rw [services]
      rfl
    · change node.services.p2p = _
      rw [services]
      rfl
  · intro tx present
    rcases present with pooled | ⟨height, stored⟩
    · change tx ∈ F.contents node.world.pool at pooled
      rw [booted.pool, pool.empty] at pooled
      cases pooled
    · obtain ⟨block, _, _, noTransactions, blocks⟩ :=
        genesis.fresh empty initialization
      change tx ∈ F.transactionsAt node.world.database height at stored
      unfold FuelCore.transactionsAt at stored
      rw [blocks height] at stored
      split at stored
      · simp [noTransactions] at stored
      · simp at stored

theorem sourced_after
    (genesis : GenesisLaws F) (pool : PoolLaws F)
    (selection : SelectionLaws F) (execution : ExecutionLaws F)
    (failure : FailedProductionLaws F) (heights : HeightLaws F)
    (graphQL : GraphQLLaws F) {environment : Option String}
    {command : Command} {fresh : Database T} {node : Node T}
    (empty : ∀ height, ¬ fresh.Stores height)
    (started : exec F environment command fresh = .ok node)
    (sessions : T.DapSessions) (events : List (SystemEvent T)) :
    Sourced F events ((System.boot node sessions).after F events) := by
  induction events using List.reverseRecOn with
  | nil =>
      exact sourced_boot genesis pool empty started sessions
  | append_singleton before event inductionHypothesis =>
      rw [System.after_concat]
      exact
        inductionHypothesis.step pool selection execution failure heights
          graphQL event

/-- Whatever is in the pool or in a block was delivered before; only EndBlock
writes the database; and no mutation touches the application, its pool or its
database. -/
theorem no_side_door
    (genesis : GenesisLaws F) (pool : PoolLaws F)
    (selection : SelectionLaws F) (execution : ExecutionLaws F)
    (failure : FailedProductionLaws F) (heights : HeightLaws F)
    (graphQL : GraphQLLaws F) {environment : Option String}
    {command : Command} {fresh : Database T} {node : Node T}
    (empty : ∀ height, ¬ fresh.Stores height)
    (started : exec F environment command fresh = .ok node)
    (sessions : T.DapSessions) (events : List (SystemEvent T)) :
    (∀ tx,
        Present F
            ((System.boot node sessions).after F
              events).worker.state.toShared tx →
          DeliveredBy F events tx) ∧
      (∀ event,
        ((System.boot node sessions).after F
              (events ++ [event])).worker.state.database ≠
            ((System.boot node sessions).after F
              events).worker.state.database →
          ∃ now height, event = .abci (now, .endBlock height)) ∧
      ∀ mutation,
        ((System.boot node sessions).after F
            (events ++ [.graphQL mutation])).worker =
          ((System.boot node sessions).after F events).worker := by
  have sourced :=
    sourced_after genesis pool selection execution failure heights
      graphQL empty started sessions events
  refine ⟨sourced.delivered, ?_, ?_⟩
  · intro event changed
    rw [System.after_concat] at changed
    exact System.step_database graphQL sourced.closed changed
  · intro mutation
    rw [System.after_concat]
    exact System.resolve_worker graphQL sourced.closed mutation

section Mixed

open LocalTestnet

/-- Submissions and a block mutation around one delivered transaction. -/
def mixedEvents : List (SystemEvent types) :=
  [.graphQL (.submit { bytes := [1, 1, 4, 7] }
      (.ok { status := 200, body := .error "" })),
    .abci (1, .beginBlock 1), .abci (2, .deliverTx [1, 1, 4, 7]),
    .graphQL (.produceBlocks none 3),
    .graphQL (.dryRun { bytes := [2, 1, 4, 8] } (some false)),
    .gossip 0, .abci (3, .endBlock 1)]

theorem no_side_door_mixed :
    DeliveredBy core mixedEvents (transfer 1 1 4 7) ∧
      ((System.boot firstNode 0).after core
          (mixedEvents ++ [.graphQL (.debug ())])).worker =
        ((System.boot firstNode 0).after core mixedEvents).worker := by
  have result :=
    no_side_door core_genesisLaws core_poolLaws core_selectionLaws
      core_executionLaws core_failedProductionLaws core_heightLaws
      core_graphQLLaws freshDatabase_empty exec_fresh 0 mixedEvents
  constructor
  · exact result.1 _ (Or.inr ⟨1, by decide⟩)
  · exact result.2.2 _

end Mixed

end Fuelmint
