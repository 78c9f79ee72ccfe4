import Fuelmint.LocalTestnet

/-!
# The Go relayer

`ABCIRelayer` is an ABCI application that hands each call to a socket client.
Two kinds of call it answers itself: every SetOption, and BeginBlock at
height 1.  Seen from the caller it is the application behind the socket.
-/

namespace Fuelmint

open Foundation

variable {T : Types}

/-- The calls of the Go interface that have a request on the Rust side. -/
inductive Call where
  | info
  | setOption (key value : String)
  | deliverTx (tx : Bytes)
  | checkTx (tx : Bytes)
  | commit
  | query (path : String) (data : Bytes)
  | initChain
  | beginBlock (height : Int64)
  | endBlock (height : Int64)
  | listSnapshots
  | offerSnapshot
  | loadSnapshotChunk
  | applySnapshotChunk
  deriving DecidableEq

def Call.request : Call → Request
  | .info => .info
  | .setOption key value => .setOption key value
  | .deliverTx tx => .deliverTx tx
  | .checkTx tx => .checkTx tx
  | .commit => .commit
  | .query path data => .query path data
  | .initChain => .initChain
  | .beginBlock height => .beginBlock height
  | .endBlock height => .endBlock height
  | .listSnapshots => .listSnapshots
  | .offerSnapshot => .offerSnapshot
  | .loadSnapshotChunk => .loadSnapshotChunk
  | .applySnapshotChunk => .applySnapshotChunk

/-- A method of the client, while the application reads the given clock: the
response, or the error of the socket. -/
abbrev Sync (T : Types) (Result : Type) :=
  Tai64 → EStateM String (World T) Result

/-- The socket client; what is behind it is the world it acts on. -/
structure Client (T : Types) where
  infoSync : Sync T Response.Info
  deliverTxSync : Bytes → Sync T Response.DeliverTx
  checkTxSync : Bytes → Sync T Response.CheckTx
  commitSync : Sync T Response.Commit
  querySync : String → Bytes → Sync T Response.Query
  initChainSync : Sync T Response.InitChain
  beginBlockSync : Int64 → Sync T Response.BeginBlock
  endBlockSync : Int64 → Sync T Response.EndBlock
  listSnapshotsSync : Sync T Response.ListSnapshots
  offerSnapshotSync : Sync T Response.OfferSnapshot
  loadSnapshotChunkSync : Sync T Response.LoadSnapshotChunk
  applySnapshotChunkSync : Sync T Response.ApplySnapshotChunk

/-- `panic(err)`. -/
structure RelayerPanic where
  err : String
  deriving DecidableEq

abbrev Relayed (T : Types) (Result : Type) :=
  EStateM RelayerPanic (World T) Result

/-- The response of the client; its error is a panic. -/
def orPanic {Result : Type}
    (sync : EStateM String (World T) Result) : Relayed T Result :=
  fun world =>
    match sync world with
    | .ok answer next => .ok answer next
    | .error message next => .error { err := message } next

structure ABCIRelayer (T : Types) where
  client : Client T

namespace ABCIRelayer

variable (app : ABCIRelayer T) (now : Tai64)

def info : Relayed T Response.Info :=
  orPanic (app.client.infoSync now)

/-- Answered without the client. -/
def setOption (_app : ABCIRelayer T) (_key _value : String) :
    Relayed T Response.SetOption :=
  pure {}

def deliverTx (tx : Bytes) : Relayed T Response.DeliverTx :=
  orPanic (app.client.deliverTxSync tx now)

def checkTx (tx : Bytes) : Relayed T Response.CheckTx :=
  orPanic (app.client.checkTxSync tx now)

def commit : Relayed T Response.Commit :=
  orPanic (app.client.commitSync now)

def query (path : String) (data : Bytes) : Relayed T Response.Query :=
  orPanic (app.client.querySync path data now)

def initChain : Relayed T Response.InitChain :=
  orPanic (app.client.initChainSync now)

/-- The tower-abci server fails on the request at height 1, so that one is
not relayed. -/
def beginBlock (height : Int64) : Relayed T Response.BeginBlock :=
  if height = 1 then
    pure {}
  else
    orPanic (app.client.beginBlockSync height now)

def endBlock (height : Int64) : Relayed T Response.EndBlock :=
  orPanic (app.client.endBlockSync height now)

def listSnapshots : Relayed T Response.ListSnapshots :=
  orPanic (app.client.listSnapshotsSync now)

def offerSnapshot : Relayed T Response.OfferSnapshot :=
  orPanic (app.client.offerSnapshotSync now)

def loadSnapshotChunk : Relayed T Response.LoadSnapshotChunk :=
  orPanic (app.client.loadSnapshotChunkSync now)

def applySnapshotChunk : Relayed T Response.ApplySnapshotChunk :=
  orPanic (app.client.applySnapshotChunkSync now)

/-- Serve one call of the interface. -/
def call (app : ABCIRelayer T) (timed : Tai64 × Call) :
    Relayed T Response :=
  match timed.2 with
  | .info => return .info (← app.info timed.1)
  | .setOption key value => return .setOption (← app.setOption key value)
  | .deliverTx tx => return .deliverTx (← app.deliverTx timed.1 tx)
  | .checkTx tx => return .checkTx (← app.checkTx timed.1 tx)
  | .commit => return .commit (← app.commit timed.1)
  | .query path data => return .query (← app.query timed.1 path data)
  | .initChain => return .initChain (← app.initChain timed.1)
  | .beginBlock height =>
      return .beginBlock (← app.beginBlock timed.1 height)
  | .endBlock height => return .endBlock (← app.endBlock timed.1 height)
  | .listSnapshots =>
      return .listSnapshots (← app.listSnapshots timed.1)
  | .offerSnapshot =>
      return .offerSnapshot (← app.offerSnapshot timed.1)
  | .loadSnapshotChunk =>
      return .loadSnapshotChunk (← app.loadSnapshotChunk timed.1)
  | .applySnapshotChunk =>
      return .applySnapshotChunk (← app.applySnapshotChunk timed.1)

end ABCIRelayer

/-- The method of the client that a call is handed to, if it is. -/
def Client.target (client : Client T) : Call → Option (Sync T Response)
  | .info => some fun now => return .info (← client.infoSync now)
  | .setOption _ _ => none
  | .deliverTx tx =>
      some fun now => return .deliverTx (← client.deliverTxSync tx now)
  | .checkTx tx =>
      some fun now => return .checkTx (← client.checkTxSync tx now)
  | .commit => some fun now => return .commit (← client.commitSync now)
  | .query path data =>
      some fun now => return .query (← client.querySync path data now)
  | .initChain =>
      some fun now => return .initChain (← client.initChainSync now)
  | .beginBlock height =>
      if height = 1 then
        none
      else
        some fun now =>
          return .beginBlock (← client.beginBlockSync height now)
  | .endBlock height =>
      some fun now => return .endBlock (← client.endBlockSync height now)
  | .listSnapshots =>
      some fun now =>
        return .listSnapshots (← client.listSnapshotsSync now)
  | .offerSnapshot =>
      some fun now =>
        return .offerSnapshot (← client.offerSnapshotSync now)
  | .loadSnapshotChunk =>
      some fun now =>
        return .loadSnapshotChunk (← client.loadSnapshotChunkSync now)
  | .applySnapshotChunk =>
      some fun now =>
        return .applySnapshotChunk (← client.applySnapshotChunkSync now)

variable {F : FuelCore T}

/-- The client delivers this request and brings back the response of the
application unchanged. -/
def Delivers (F : FuelCore T) {Result : Type} (sync : Sync T Result)
    (request : Request) (wrap : Result → Response) : Prop :=
  ∀ now world answer next,
    sync now world = .ok answer next →
      App.call F now request world = .ok (wrap answer) next

/-- Socket client and tower-abci deliver every forwarded request. -/
structure ClientLaws (F : FuelCore T) (client : Client T) : Prop where
  info : Delivers F client.infoSync .info .info
  deliverTx :
    ∀ tx, Delivers F (client.deliverTxSync tx) (.deliverTx tx) .deliverTx
  checkTx :
    ∀ tx, Delivers F (client.checkTxSync tx) (.checkTx tx) .checkTx
  commit : Delivers F client.commitSync .commit .commit
  query :
    ∀ path data,
      Delivers F (client.querySync path data) (.query path data) .query
  initChain : Delivers F client.initChainSync .initChain .initChain
  beginBlock :
    ∀ height, height ≠ 1 →
      Delivers F (client.beginBlockSync height) (.beginBlock height)
        .beginBlock
  endBlock :
    ∀ height,
      Delivers F (client.endBlockSync height) (.endBlock height) .endBlock
  listSnapshots :
    Delivers F client.listSnapshotsSync .listSnapshots .listSnapshots
  offerSnapshot :
    Delivers F client.offerSnapshotSync .offerSnapshot .offerSnapshot
  loadSnapshotChunk :
    Delivers F client.loadSnapshotChunkSync .loadSnapshotChunk
      .loadSnapshotChunk
  applySnapshotChunk :
    Delivers F client.applySnapshotChunkSync .applySnapshotChunk
      .applySnapshotChunk

/-- The response without the fields that ABCI leaves free. -/
def Response.eraseFree : Response → Response
  | .setOption answer => .setOption { answer with log := "", info := "" }
  | .query answer => .query { answer with log := "", info := "" }
  | .checkTx answer => .checkTx { answer with log := "", info := "" }
  | .deliverTx answer => .deliverTx { answer with log := "", info := "" }
  | answer => answer

/-! ## One call -/

section OneCall

variable {Result : Type} {world next : World T} {answer : Response}

theorem orPanic_ok
    {sync : EStateM String (World T) Result} {result : Result} :
    orPanic sync world = .ok result next ↔
      sync world = .ok result next := by
  unfold orPanic
  cases sync world <;> simp

theorem orPanic_wrap
    (sync : EStateM String (World T) Result) (wrap : Result → Response) :
    (do return wrap (← orPanic sync) : Relayed T Response) =
      orPanic (do return wrap (← sync)) := by
  funext world
  simp only [orPanic, bind, EStateM.bind]
  cases sync world <;> rfl

/-- A call with a target is that method of the client, its error a panic. -/
theorem ABCIRelayer.call_of_target
    {app : ABCIRelayer T} {now : Tai64} {call : Call}
    {sync : Sync T Response}
    (target : app.client.target call = some sync) :
    app.call (now, call) = orPanic (sync now) := by
  cases call with
  | setOption key value => cases target
  | beginBlock height =>
      by_cases first : height = 1
      · simp [Client.target, first] at target
      · simp only [Client.target, if_neg first] at target
        cases target
        simp only [ABCIRelayer.call, ABCIRelayer.beginBlock, if_neg first]
        exact orPanic_wrap _ _
  | _ =>
      cases target
      exact orPanic_wrap _ _

/-- A call without one is answered, and changes nothing. -/
theorem ABCIRelayer.call_of_local
    {app : ABCIRelayer T} {now : Tai64} {call : Call}
    (target : app.client.target call = none) (world : World T) :
    ∃ answer, app.call (now, call) world = .ok answer world := by
  cases call with
  | setOption key value => exact ⟨_, rfl⟩
  | beginBlock height =>
      by_cases first : height = 1
      · subst first
        exact ⟨_, rfl⟩
      · simp [Client.target, first] at target
  | _ => cases target

/-- A forwarded call is a request. -/
theorem Delivers.call
    {sync : Sync T Result} {request : Request}
    {wrap : Result → Response} {now : Tai64}
    (delivers : Delivers F sync request wrap)
    (answered :
      (do return wrap (← orPanic (sync now)) : Relayed T Response) world =
        .ok answer next) :
    App.call F now request world = .ok answer next := by
  obtain ⟨result, relayed, rfl⟩ := wrap_ok_iff.mp answered
  exact delivers now world result next (orPanic_ok.mp relayed)

/-- A call on the relayer is the request sent to the application, up to the
free fields.  The two calls it answers itself change nothing behind it. -/
theorem ABCIRelayer.call_ok
    {app : ABCIRelayer T} (laws : ClientLaws F app.client)
    {timed : Tai64 × Call}
    (answered : app.call timed world = .ok answer next) :
    ∃ response,
      App.call F timed.1 timed.2.request world = .ok response next ∧
        answer.eraseFree = response.eraseFree := by
  obtain ⟨now, call⟩ := timed
  cases call with
  | setOption key value =>
      cases answered
      exact ⟨_, rfl, rfl⟩
  | beginBlock height =>
      by_cases first : height = 1
      · subst first
        cases answered
        exact ⟨_, rfl, rfl⟩
      · simp only [ABCIRelayer.call, ABCIRelayer.beginBlock,
          if_neg first] at answered
        exact ⟨answer, (laws.beginBlock height first).call answered, rfl⟩
  | info => exact ⟨answer, laws.info.call answered, rfl⟩
  | deliverTx tx => exact ⟨answer, (laws.deliverTx tx).call answered, rfl⟩
  | checkTx tx => exact ⟨answer, (laws.checkTx tx).call answered, rfl⟩
  | commit => exact ⟨answer, laws.commit.call answered, rfl⟩
  | query path data =>
      exact ⟨answer, (laws.query path data).call answered, rfl⟩
  | initChain => exact ⟨answer, laws.initChain.call answered, rfl⟩
  | endBlock height =>
      exact ⟨answer, (laws.endBlock height).call answered, rfl⟩
  | listSnapshots => exact ⟨answer, laws.listSnapshots.call answered, rfl⟩
  | offerSnapshot => exact ⟨answer, laws.offerSnapshot.call answered, rfl⟩
  | loadSnapshotChunk =>
      exact ⟨answer, laws.loadSnapshotChunk.call answered, rfl⟩
  | applySnapshotChunk =>
      exact ⟨answer, laws.applySnapshotChunk.call answered, rfl⟩

end OneCall

/-- No method of the client returns an error in the run, wherever a call is
handed to it. -/
def NoClientError (app : ABCIRelayer T) (start : World T)
    (calls : List (Tai64 × Call)) : Prop :=
  ∀ before now call after world sync message stuck,
    calls = before ++ (now, call) :: after →
    Answered app.call before start world →
    app.client.target call = some sync →
      sync now world ≠ .error message stuck

/-- A relayer whose client has no error answers every call. -/
theorem NoClientError.answered
    {app : ABCIRelayer T} {start : World T}
    {calls : List (Tai64 × Call)}
    (noError : NoClientError app start calls) :
    ∃ answers finish,
      runAll app.call calls start = .ok answers finish := by
  cases outcome : runAll app.call calls start with
  | ok answers finish =>
      exact ⟨answers, finish, rfl⟩
  | error panic stuck =>
      obtain ⟨before, ⟨now, call⟩, after, world, split, prior, refused⟩ :=
        exists_step_of_runAll_error outcome
      cases target : app.client.target call with
      | none =>
          obtain ⟨answer, answered⟩ :
              ∃ answer, app.call (now, call) world = .ok answer world :=
            ABCIRelayer.call_of_local target world
          rw [answered] at refused
          cases refused
      | some sync =>
          rw [ABCIRelayer.call_of_target target] at refused
          cases response : sync now world with
          | ok answer next =>
              rw [orPanic_ok.mpr response] at refused
              cases refused
          | error message left =>
              exact absurd response
                (noError before now call after world sync message left
                  split prior target)

/-- And only such a relayer does. -/
theorem noClientError_of_answered
    {app : ABCIRelayer T} {start finish : World T}
    {calls : List (Tai64 × Call)}
    (served : Answered app.call calls start finish) :
    NoClientError app start calls := by
  intro before now call after world sync message stuck split prior target
    failed
  subst split
  obtain ⟨middle, earlier, rest⟩ := answered_append.mp served
  obtain ⟨answer, next, stepped, _⟩ := answered_cons.mp rest
  have same := answered_unique earlier prior
  subst same
  rw [ABCIRelayer.call_of_target target] at stepped
  rw [orPanic_ok.mp stepped] at failed
  cases failed

/-- The relayer is transparent: as long as its client has no error it answers
all calls, and the application answers the corresponding requests with the
same responses up to the free fields and ends in the same world. -/
theorem relayer_transparent
    {app : ABCIRelayer T} (laws : ClientLaws F app.client)
    {calls : List (Tai64 × Call)} {start : World T}
    (noError : NoClientError app start calls) :
    ∃ answers responses finish,
      runAll app.call calls start = .ok answers finish ∧
        runAll (serveRequest F)
            (calls.map fun timed => (timed.1, timed.2.request)) start =
          .ok responses finish ∧
        List.Forall₂
          (fun answer response => answer.eraseFree = response.eraseFree)
          answers responses := by
  obtain ⟨answers, finish, served⟩ := noError.answered
  rw [runAll_map]
  obtain ⟨responses, reached, direct, agree, rfl⟩ :=
    runAll_simulation
      (fun answer response : Response =>
        answer.eraseFree = response.eraseFree)
      (fun timed _ world other answer next same answered => by
        subst same
        obtain ⟨response, called, agrees⟩ :=
          ABCIRelayer.call_ok laws answered
        exact ⟨response, next, called, agrees, rfl⟩)
      rfl served
  exact ⟨answers, responses, finish, served, direct, agree⟩

/-! ## A client in front of the application -/

/-- A handler behind a socket: a panic closes the connection. -/
def behindSocket {Result : Type} (handler : Handler T Result) :
    EStateM String (World T) Result :=
  fun world =>
    match handler world with
    | .ok answer next => .ok answer next
    | .error _ stuck => .error "EOF" stuck

theorem behindSocket_delivers
    {Result : Type} (handler : Tai64 → Handler T Result)
    {request : Request} {wrap : Result → Response}
    (handled :
      ∀ now,
        App.call F now request =
          (do return wrap (← handler now) : Handler T Response)) :
    Delivers F (fun now => behindSocket (handler now)) request wrap := by
  intro now world answer next answered
  have direct : handler now world = .ok answer next := by
    unfold behindSocket at answered
    cases outcome : handler now world with
    | error panic stuck =>
        simp [outcome] at answered
    | ok result reached =>
        simpa [outcome] using answered
  rw [handled now]
  exact wrap_ok_iff.mpr ⟨answer, direct, rfl⟩

def directClient (F : FuelCore T) : Client T where
  infoSync := fun _ => behindSocket App.info
  deliverTxSync tx := fun _ => behindSocket (App.deliverTx F tx)
  checkTxSync _ := fun _ => behindSocket (pure {})
  commitSync := fun _ => behindSocket App.commit
  querySync _ _ := fun _ => behindSocket (pure {})
  initChainSync := fun _ => behindSocket (pure {})
  beginBlockSync _ := fun _ => behindSocket (pure {})
  endBlockSync height := fun now => behindSocket (App.endBlock F now height)
  listSnapshotsSync := fun _ => behindSocket (pure {})
  offerSnapshotSync := fun _ => behindSocket (pure {})
  loadSnapshotChunkSync := fun _ => behindSocket (pure {})
  applySnapshotChunkSync := fun _ => behindSocket (pure {})

theorem directClient_laws (F : FuelCore T) :
    ClientLaws F (directClient F) where
  info := behindSocket_delivers (fun _ => App.info) fun _ => rfl
  deliverTx tx :=
    behindSocket_delivers (fun _ => App.deliverTx F tx) fun _ => rfl
  checkTx _ :=
    behindSocket_delivers (fun _ => pure ({} : Response.CheckTx))
      fun _ => rfl
  commit := behindSocket_delivers (fun _ => App.commit) fun _ => rfl
  query _ _ :=
    behindSocket_delivers (fun _ => pure ({} : Response.Query))
      fun _ => rfl
  initChain :=
    behindSocket_delivers (fun _ => pure ({} : Response.InitChain))
      fun _ => rfl
  beginBlock _ _ :=
    behindSocket_delivers (fun _ => pure ({} : Response.BeginBlock))
      fun _ => rfl
  endBlock height :=
    behindSocket_delivers (fun now => App.endBlock F now height)
      fun _ => rfl
  listSnapshots :=
    behindSocket_delivers (fun _ => pure ({} : Response.ListSnapshots))
      fun _ => rfl
  offerSnapshot :=
    behindSocket_delivers (fun _ => pure ({} : Response.OfferSnapshot))
      fun _ => rfl
  loadSnapshotChunk :=
    behindSocket_delivers
      (fun _ => pure ({} : Response.LoadSnapshotChunk)) fun _ => rfl
  applySnapshotChunk :=
    behindSocket_delivers
      (fun _ => pure ({} : Response.ApplySnapshotChunk)) fun _ => rfl

section FirstBlock

open LocalTestnet

/-- The calls of the first block, and every other call around them. -/
def firstBlockCalls : List (Tai64 × Call) :=
  [(1, .info), (2, .setOption "key" "value"), (3, .initChain),
    (4, .checkTx [1, 1, 4, 7]), (5, .beginBlock 1),
    (6, .deliverTx [1, 1, 4, 7]), (7, .endBlock 1), (8, .commit),
    (9, .query "/store" [7]), (10, .listSnapshots), (11, .offerSnapshot),
    (12, .loadSnapshotChunk), (13, .applySnapshotChunk), (14, .info),
    (15, .beginBlock 2)]

theorem relayer_transparent_firstBlock :
    ∃ answers responses finish,
      runAll (ABCIRelayer.call { client := directClient core })
          firstBlockCalls firstNode.world = .ok answers finish ∧
        runAll (serveRequest core)
            (firstBlockCalls.map fun timed => (timed.1, timed.2.request))
            firstNode.world = .ok responses finish ∧
        List.Forall₂
          (fun answer response => answer.eraseFree = response.eraseFree)
          answers responses :=
  relayer_transparent (directClient_laws core)
    (noClientError_of_answered
      (⟨_, rfl⟩ :
        Answered (ABCIRelayer.call { client := directClient core })
          firstBlockCalls firstNode.world _))

end FirstBlock

end Fuelmint
