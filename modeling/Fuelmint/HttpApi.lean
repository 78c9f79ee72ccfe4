import Fuelmint.ChainGrowth
import Fuelmint.Foundation.Noninterference
import Fuelmint.Submission
import Mathlib.Data.Multiset.AddSub

/-!
# The HTTP service next to ABCI

`new_service` routes HTTP requests to the playground, the schema, the metrics
and the health check.  Documents of mutations are executed field by field, many
of them at a time, between the ABCI requests, the polls of the gossip service
and the restarts of the process.
-/

namespace Fuelmint

open Foundation

variable {T : Types}

/-! ## Routes -/

inductive Method where
  | get
  | head
  | post
  | options
  | other (name : String)
  deriving DecidableEq

inductive RouteHandler where
  | playground
  | graphQL
  | graphQLSubscription
  | ok
  | metrics
  | health
  deriving DecidableEq

/-- The routes of `new_service`. -/
def routes : List (String × List (Method × RouteHandler)) :=
  [("/playground", [(.get, .playground)]),
    ("/graphql", [(.post, .graphQL), (.options, .ok)]),
    ("/graphql-sub", [(.post, .graphQLSubscription), (.options, .ok)]),
    ("/metrics", [(.get, .metrics)]),
    ("/health", [(.get, .health)])]

/-- The handler of a request, if its path is known and its method allowed.
What is registered for GET serves HEAD too. -/
def handler? (method : Method) (path : String) : Option RouteHandler := do
  let methods ← routes.lookup path
  methods.lookup (if method = .head then .get else method)

/-! ## Documents -/

/-- The queries and subscriptions that the schema takes over from fuel-core. -/
structure ReadApi (T : Types) where
  Request : Type
  Reply : Type
  read : GraphQLContext T → Shared T → Request → Reply × Shared T

/-- Queries and subscriptions only read. -/
structure ReadLaws (R : ReadApi T) : Prop where
  readOnly :
    ∀ (context : GraphQLContext T) (shared : Shared T)
      (request : R.Request),
      (R.read context shared request).2 = shared

/-- The operation that a GraphQL request asks for, once its document is
parsed and validated. -/
inductive Operation (R : ReadApi T) where
  | query (request : R.Request)
  | mutation (fields : List (Mutation T))
  | subscription (request : R.Request)
  | invalid

/-- The body is `none` unless it is the JSON of a GraphQL request. -/
structure HttpRequest (R : ReadApi T) where
  method : Method
  path : String
  body : Option (Operation R)

inductive HttpReply (R : ReadApi T) where
  | notServed
  | rejected
  | playground (endpoint : String)
  | metrics
  | health (up : Bool)
  | ok
  | read (reply : R.Reply)
  | fields (result : Except MutationFault (List (MutationAnswer T)))
  | notSupported
  | invalid

/-- A document of mutations on its way: the fields to come, and the answers
so far. -/
structure Execution (T : Types) where
  client : Nat
  remaining : List (Mutation T)
  answers : List (MutationAnswer T)

/-- A process with its HTTP service.  A process that did not start does not
listen. -/
structure Server (T : Types) extends System T where
  listening : Bool
  executions : List (Execution T)

inductive ServerEvent (R : ReadApi T) where
  | abci (timed : TimedRequest)
  | http (client : Nat) (request : HttpRequest R)
  /-- The next field of an execution is resolved, or its reply is sent. -/
  | advance (index : Nat)
  | hangUp (index : Nat)
  | gossip (poll : Nat)
  | restart

inductive ServerOutput (R : ReadApi T) where
  | abci (answer : Option Response)
  | http (client : Nat) (reply : HttpReply R)

namespace Server

def boot (node : Node T) (sessions : T.DapSessions) : Server T where
  toSystem := System.boot node sessions
  listening := true
  executions := []

variable {R : ReadApi T}

def read (server : Server T) (request : R.Request) :
    Server T × R.Reply :=
  let (reply, shared) :=
    R.read server.services.graphQL server.worker.state.toShared request
  ({ server with toSystem := server.setShared shared }, reply)

/-- `schema.execute`: a query is answered at once, a mutation is opened. -/
def execute (server : Server T) (client : Nat) :
    Operation R → Server T × List (ServerOutput R)
  | .query request =>
      let (server, reply) := server.read request
      (server, [.http client (.read reply)])
  | .mutation fields =>
      let execution : Execution T := {
        client := client
        remaining := fields
        answers := [] }
      ({ server with executions := server.executions ++ [execution] }, [])
  | .subscription _ => (server, [.http client .notSupported])
  | .invalid => (server, [.http client .invalid])

/-- `schema.execute_stream`: what is no subscription is executed once. -/
def executeStream (server : Server T) (client : Nat) :
    Operation R → Server T × List (ServerOutput R)
  | .subscription request =>
      let (server, reply) := server.read request
      (server, [.http client (.read reply)])
  | operation => server.execute client operation

def handle (server : Server T) (client : Nat)
    (body : Option (Operation R)) :
    RouteHandler → Server T × List (ServerOutput R)
  | .playground => (server, [.http client (.playground "/graphql")])
  | .graphQL =>
      match body with
      | none => (server, [.http client .rejected])
      | some operation => server.execute client operation
  | .graphQLSubscription =>
      match body with
      | none => (server, [.http client .rejected])
      | some operation => server.executeStream client operation
  | .ok => (server, [.http client .ok])
  | .metrics => (server, [.http client .metrics])
  | .health => (server, [.http client (.health true)])

/-- Nobody hears a request when the process does not listen. -/
def receive (server : Server T) (client : Nat)
    (request : HttpRequest R) : Server T × List (ServerOutput R) :=
  if server.listening then
    match handler? request.method request.path with
    | some handler => server.handle client request.body handler
    | none => (server, [.http client .notServed])
  else
    (server, [])

def setGateway (server : Server T) (gateway : Gateway T) : Server T :=
  { server with
    toSystem := {
      server.setShared gateway.toShared with
      sessions := gateway.sessions
      sends := gateway.sends } }

variable (F : FuelCore T)

/-- The fields of a mutation are resolved one after the other; the first fault
ends the execution. -/
def advance (server : Server T) (index : Nat) :
    Server T × List (ServerOutput R) :=
  match server.executions[index]? with
  | none => (server, [])
  | some execution =>
      match execution.remaining with
      | [] =>
          ({ server with executions := server.executions.eraseIdx index },
            [.http execution.client (.fields (.ok execution.answers))])
      | field :: rest =>
          match field.resolve F server.services.graphQL server.gateway with
          | .ok answer after =>
              let advanced := {
                execution with
                remaining := rest
                answers := execution.answers ++ [answer] }
              ({ server.setGateway after with
                executions := server.executions.set index advanced }, [])
          | .error fault after =>
              ({ server.setGateway after with
                executions := server.executions.eraseIdx index },
                [.http execution.client (.fields (.error fault))])

/-- The process starts over: executions and sessions of the debugger are
gone.  What was sent to rollkit stays sent. -/
def restart (environment : Option String) (command : Command)
    (sessions : T.DapSessions) (server : Server T) : Server T :=
  match exec F environment command server.worker.state.database with
  | .ok node =>
      let started := boot node sessions
      { started with sends := server.sends }
  | .error _ =>
      { server with
        worker := .stopped server.worker.state
        listening := false
        executions := [] }

def step (environment : Option String) (command : Command)
    (sessions : T.DapSessions) (server : Server T) :
    ServerEvent R → Server T × List (ServerOutput R)
  | .abci timed =>
      let (worker, answer) := server.worker.serve (serveRequest F) timed
      ({ server with worker := worker }, [.abci answer])
  | .http client request => server.receive client request
  | .advance index => server.advance F index
  | .hangUp index =>
      ({ server with executions := server.executions.eraseIdx index }, [])
  | .gossip poll => ({ server with toSystem := server.hear F poll }, [])
  | .restart => (server.restart F environment command sessions, [])

/-- The server as a machine; `sessions` is what the debugger starts with. -/
def machine (R : ReadApi T) (environment : Option String)
    (command : Command) (sessions : T.DapSessions) :
    Machine (Server T) (ServerEvent R) (ServerOutput R) where
  next server event :=
    (server.step F environment command sessions event).1
  output server event :=
    (server.step F environment command sessions event).2

end Server

/-! ## What ABCI sees of it -/

/-- The requests and restarts of a history, without the rest. -/
def ServerEvent.occurrence? {R : ReadApi T} :
    ServerEvent R → Option (Occurrence TimedRequest)
  | .abci timed => some (.receive timed)
  | .restart => some .restart
  | .http _ _ | .advance _ | .hangUp _ | .gossip _ => none

def ServerOutput.abci? {R : ReadApi T} :
    ServerOutput R → Option (Option Response)
  | .abci answer => some answer
  | .http _ _ => none

/-- The ABCI worker on its own. -/
def abciMachine (F : FuelCore T) (environment : Option String)
    (command : Command) :
    Machine (Worker (World T)) (Occurrence TimedRequest)
      (Option Response) where
  next := Worker.occur (serveRequest F) (restart F environment command)
  output worker
    | .receive timed => [(worker.serve (serveRequest F) timed).2]
    | .restart => []

theorem abciMachine_after
    (F : FuelCore T) (environment : Option String) (command : Command)
    (node : Node T) (history : List (Occurrence TimedRequest)) :
    (abciMachine F environment command).after (.serving node.world)
        history =
      nodeAfter F environment command node history := rfl

/-- A step beside ABCI: worker and wiring stay, and ABCI gets no answer. -/
structure Aside {R : ReadApi T} (server : Server T)
    (result : Server T × List (ServerOutput R)) : Prop where
  worker : result.1.worker = server.worker
  services : result.1.services = server.services
  unheard : result.2.filterMap ServerOutput.abci? = []

section Frames

variable {R : ReadApi T} {F : FuelCore T} {server : Server T}

theorem Server.aside_reply (client : Nat) (reply : HttpReply R) :
    Aside server (server, [.http client reply]) :=
  ⟨rfl, rfl, rfl⟩

theorem Server.aside_read
    (reads : ReadLaws R) (client : Nat) (request : R.Request) :
    Aside server
      ((server.read request).1,
        [.http client (.read (server.read request).2)]) := by
  refine ⟨?_, rfl, rfl⟩
  apply System.setShared_worker
  exact reads.readOnly _ _ request

theorem Server.execute_aside
    (reads : ReadLaws R) (client : Nat) (operation : Operation R) :
    Aside server (server.execute client operation) := by
  cases operation with
  | query request => exact aside_read reads client request
  | mutation fields => exact ⟨rfl, rfl, rfl⟩
  | subscription request => exact aside_reply client .notSupported
  | invalid => exact aside_reply client .invalid

theorem Server.executeStream_aside
    (reads : ReadLaws R) (client : Nat) (operation : Operation R) :
    Aside server (server.executeStream client operation) := by
  cases operation with
  | subscription request => exact aside_read reads client request
  | query request => exact execute_aside reads client (.query request)
  | mutation fields =>
      exact execute_aside reads client (.mutation fields)
  | invalid => exact execute_aside reads client .invalid

theorem Server.handle_aside
    (reads : ReadLaws R) (client : Nat) (body : Option (Operation R))
    (handler : RouteHandler) :
    Aside server (server.handle client body handler) := by
  cases handler with
  | graphQL =>
      cases body with
      | none => exact aside_reply client .rejected
      | some operation => exact execute_aside reads client operation
  | graphQLSubscription =>
      cases body with
      | none => exact aside_reply client .rejected
      | some operation => exact executeStream_aside reads client operation
  | playground => exact aside_reply client _
  | ok => exact aside_reply client _
  | metrics => exact aside_reply client _
  | health => exact aside_reply client _

theorem Server.receive_aside
    (reads : ReadLaws R) (client : Nat) (request : HttpRequest R) :
    Aside server (server.receive client request) := by
  unfold receive
  by_cases listens : server.listening = true
  · rw [if_pos listens]
    cases handler? request.method request.path with
    | none => exact aside_reply client .notServed
    | some handler => exact handle_aside reads client _ handler
  · rw [if_neg listens]
    exact ⟨rfl, rfl, rfl⟩

theorem Server.setGateway_worker
    {gateway : Gateway T}
    (same : gateway.toShared = server.worker.state.toShared) :
    (server.setGateway gateway).worker = server.worker :=
  System.setShared_worker same

theorem Server.advance_aside
    (laws : GraphQLLaws F) (closed : server.Closed) (index : Nat) :
    Aside server (server.advance (R := R) F index) := by
  unfold advance
  cases server.executions[index]? with
  | none =>
      exact ⟨rfl, rfl, rfl⟩
  | some execution =>
      obtain ⟨client, remaining, answers⟩ := execution
      cases remaining with
      | nil =>
          exact ⟨rfl, rfl, rfl⟩
      | cons field rest =>
          have frames :=
            field.resolve_frames laws closed.consensusModule
              server.gateway
          cases outcome :
              field.resolve F server.services.graphQL server.gateway with
          | ok answer after =>
              rw [outcome] at frames
              simp only [outcome]
              exact ⟨setGateway_worker frames, rfl, rfl⟩
          | error fault after =>
              rw [outcome] at frames
              simp only [outcome]
              exact ⟨setGateway_worker frames, rfl, rfl⟩

variable {environment : Option String} {command : Command}
  {sessions : T.DapSessions}

/-- The worker of the process after a restart is the one `exec` makes of the
database. -/
theorem Server.restart_worker :
    (server.restart F environment command sessions).worker =
      Fuelmint.restart F environment command server.worker.state := by
  unfold Server.restart Fuelmint.restart
  cases exec F environment command server.worker.state.database with
  | ok node => rfl
  | error message => rfl

theorem closed_of_exec
    {database : Database T} {node : Node T}
    (started : exec F environment command database = .ok node) :
    (System.boot node sessions).Closed := by
  obtain ⟨config, _, _, _, services⟩ := exec_booted started
  constructor
  · change node.services.graphQL.consensusModule = _
    rw [services]
    rfl
  · change node.services.p2p = _
    rw [services]
    rfl

theorem Server.restart_closed (closed : server.Closed) :
    (server.restart F environment command sessions).Closed := by
  unfold Server.restart
  cases started :
      exec F environment command server.worker.state.database with
  | ok node =>
      have fresh : (System.boot node sessions).Closed :=
        closed_of_exec started
      exact ⟨fresh.consensusModule, fresh.p2p⟩
  | error message =>
      exact ⟨closed.consensusModule, closed.p2p⟩

/-- The wiring closes the doors as long as it is the one of `exec`. -/
theorem Aside.closed
    {result : Server T × List (ServerOutput R)}
    (aside : Aside server result) (closed : server.Closed) :
    result.1.Closed := by
  constructor
  · rw [aside.services]
    exact closed.consensusModule
  · rw [aside.services]
    exact closed.p2p

/-- Whatever is neither an ABCI request nor a restart is a step beside
ABCI. -/
theorem Server.step_aside
    (reads : ReadLaws R) (laws : GraphQLLaws F) (closed : server.Closed)
    {event : ServerEvent R} (other : event.occurrence? = none) :
    Aside server (server.step F environment command sessions event) := by
  cases event with
  | abci timed => cases other
  | restart => cases other
  | http client request => exact receive_aside reads client request
  | advance index => exact advance_aside laws closed index
  | hangUp index => exact ⟨rfl, rfl, rfl⟩
  | gossip poll =>
      exact ⟨System.hear_worker laws closed poll, rfl, rfl⟩

/-- Behind the server there is the ABCI worker, and nothing else. -/
theorem Server.hides
    (reads : ReadLaws R) (laws : GraphQLLaws F) :
    Hides (machine F R environment command sessions)
      (abciMachine F environment command) ServerEvent.occurrence?
      ServerOutput.abci? (fun server => server.worker)
      (fun server => server.Closed) where
  keeps server event closed := by
    cases event with
    | abci timed => exact ⟨closed.consensusModule, closed.p2p⟩
    | restart => exact restart_closed closed
    | http client request =>
        exact (receive_aside reads client request).closed closed
    | advance index =>
        exact (advance_aside (R := R) laws closed index).closed closed
    | hangUp index => exact ⟨closed.consensusModule, closed.p2p⟩
    | gossip poll => exact ⟨closed.consensusModule, closed.p2p⟩
  silent server event closed other :=
    have aside := step_aside reads laws closed other
    ⟨aside.worker, aside.unheard⟩
  follows server event step closed visible := by
    cases event with
    | abci timed =>
        cases visible
        exact ⟨rfl, rfl⟩
    | restart =>
        cases visible
        exact ⟨restart_worker, rfl⟩
    | http client request => cases visible
    | advance index => cases visible
    | hangUp index => cases visible
    | gossip poll => cases visible

end Frames

/-- HTTP clients are invisible to ABCI: over every interleaving of HTTP
requests, fields of mutations, hang-ups, gossip, ABCI requests and restarts,
the worker is the one that the ABCI requests and restarts lead to alone, and
every ABCI request gets the answer it would get alone. -/
theorem clients_undisturbing
    {R : ReadApi T} {F : FuelCore T} (reads : ReadLaws R)
    (laws : GraphQLLaws F) {environment : Option String}
    {command : Command} {database : Database T} {node : Node T}
    (started : exec F environment command database = .ok node)
    (sessions : T.DapSessions) (events : List (ServerEvent R)) :
    ((Server.machine F R environment command sessions).after
            (Server.boot node sessions) events).worker =
        nodeAfter F environment command node
          (events.filterMap ServerEvent.occurrence?) ∧
      ((Server.machine F R environment command sessions).outputs
            (Server.boot node sessions) events).filterMap
          ServerOutput.abci? =
        (abciMachine F environment command).outputs
          (.serving node.world)
          (events.filterMap ServerEvent.occurrence?) := by
  have closed : (Server.boot node sessions).Closed :=
    closed_of_exec started
  have hides :
      Hides (Server.machine F R environment command sessions)
        (abciMachine F environment command) ServerEvent.occurrence?
        ServerOutput.abci? (fun server => server.worker)
        (fun server => server.Closed) :=
    Server.hides reads laws
  rw [← abciMachine_after]
  exact hides.run closed events

section Busy

open LocalTestnet

/-- Queries that ask whether a block is stored. -/
def blockQueries : ReadApi types where
  Request := BlockHeight
  Reply := Bool
  read _ shared height :=
    (decide (shared.database.Stores height), shared)

theorem blockQueries_readLaws : ReadLaws blockQueries :=
  ⟨fun _ _ _ => rfl⟩

/-- Two clients, of whom one hangs up, around a block and a restart. -/
def busyEvents : List (ServerEvent blockQueries) :=
  [.http 1 {
      method := .post
      path := "/graphql"
      body := some (.mutation [
        .dryRun { bytes := [2, 1, 4, 8] } none,
        .submit { bytes := [1, 1, 4, 7] }
          (.ok { status := 200, body := .error "" })]) },
    .abci (1, .beginBlock 1), .advance 0,
    .abci (2, .deliverTx [1, 1, 4, 7]), .advance 0,
    .http 2 {
      method := .post
      path := "/graphql-sub"
      body := some (.subscription (1 : BlockHeight)) },
    .abci (3, .endBlock 1), .hangUp 0, .restart, .gossip 0,
    .abci (4, .info)]

theorem clients_undisturbing_busy :
    ((Server.machine core blockQueries none command 0).after
          (Server.boot firstNode 0)
          busyEvents).worker.state.database.IsLatest 1 ∧
      (((Server.machine core blockQueries none command 0).outputs
            (Server.boot firstNode 0) busyEvents).filterMap
          ServerOutput.abci?).length = 4 := by
  have result :=
    clients_undisturbing blockQueries_readLaws core_graphQLLaws
      exec_fresh 0 busyEvents
  constructor
  · rw [result.1]
    decide
  · rw [result.2]
    rfl

end Busy

end Fuelmint
