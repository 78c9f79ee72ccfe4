import Fuelmint.ChainGrowth
import Fuelmint.Foundation.Noninterference
import Fuelmint.RelayerFailures

/-!
# Two processes and a socket

Rollkit calls the application through the relayer, which is connected to
another process.  Either process may be stopped and started, and the
connection may break, before a request arrives or before its answer does.  A
request may also arrive late, when its client has given up or is gone.  A
client that met an error is of no use any more: every later call on it is an
error again.
-/

namespace Fuelmint

open Foundation

variable {T : Types}

/-- What the network makes of a request. -/
inductive Fate where
  | delivered
  | lostRequest
  | lostAnswer
  | late
  deriving DecidableEq

/-- The request is served before the client knows of an error. -/
def Fate.arrives : Fate → Bool
  | .delivered | .lostAnswer => true
  | .lostRequest | .late => false

def Fate.through {Result : Type} :
    Fate → EStateM String (World T) Result →
      EStateM String (World T) Result
  | .delivered, sync => sync
  | .lostAnswer, sync => beforeBreak true sync
  | .lostRequest, _ | .late, _ => fun world => .error "EOF" world

/-- The client over a network of this fate. -/
def Client.through (client : Client T) (fate : Fate) : Client T where
  infoSync now := fate.through (client.infoSync now)
  deliverTxSync tx now := fate.through (client.deliverTxSync tx now)
  checkTxSync tx now := fate.through (client.checkTxSync tx now)
  commitSync now := fate.through (client.commitSync now)
  querySync path data now := fate.through (client.querySync path data now)
  initChainSync now := fate.through (client.initChainSync now)
  beginBlockSync height now :=
    fate.through (client.beginBlockSync height now)
  endBlockSync height now := fate.through (client.endBlockSync height now)
  listSnapshotsSync now := fate.through (client.listSnapshotsSync now)
  offerSnapshotSync now := fate.through (client.offerSnapshotSync now)
  loadSnapshotChunkSync now :=
    fate.through (client.loadSnapshotChunkSync now)
  applySnapshotChunkSync now :=
    fate.through (client.applySnapshotChunkSync now)

/-- A request with the number of the relayer that sent it. -/
abbrev Sent := Nat × TimedRequest

def sentFrom (number : Nat) (requests : List TimedRequest) : List Sent :=
  requests.map fun request => (number, request)

def sentBy (number : Nat) (requests : List Sent) : List TimedRequest :=
  requests.filterMap fun sent =>
    if sent.1 = number then some sent.2 else none

/-- What is served at once of the requests with this fate. -/
def Fate.atOnce (fate : Fate) (sent : List Sent) : List Sent :=
  if fate.arrives then sent else []

/-- What is under way then. -/
def Fate.later (fate : Fate) (sent : List Sent) : List Sent :=
  if fate = .late then sent else []

/-- A rollkit process: whether its client is still connected, and which calls
got an answer. -/
structure Life where
  connected : Bool
  answered : List (Tai64 × ApplicationCall)

/-- Over a dead connection, or with nobody to serve it, a request is lost. -/
def Life.meets (life : Life) (worker : Worker (World T)) (fate : Fate) :
    Fate :=
  if life.connected && worker.isServing then fate else .lostRequest

/-- Of the rollkit processes that have ended, the answered calls are kept. -/
structure Deployment (T : Types) where
  worker : Worker (World T)
  past : List (List (Tai64 × ApplicationCall))
  rollkit : Option Life
  underway : List Sent

inductive DeploymentEvent where
  /-- A panic of the relayer may be recovered by who called it. -/
  | call (timed : Tai64 × ApplicationCall) (fate : Fate)
      (recovered : Bool)
  /-- A late request gets to the application. -/
  | arrive (index : Nat)
  | startRollkit (connects : Bool)
  | stopRollkit
  | disconnect
  | restartApp

namespace Deployment

def boot (node : Node T) : Deployment T where
  worker := .serving node.world
  past := []
  rollkit := none
  underway := []

def disconnected (deployment : Deployment T) : Deployment T :=
  { deployment with
    rollkit :=
      deployment.rollkit.map fun life => { life with connected := false } }

def ended (deployment : Deployment T) : Deployment T :=
  { deployment with
    past :=
      deployment.past ++ (deployment.rollkit.map Life.answered).toList
    rollkit := none }

/-- All rollkit processes so far, by their number. -/
def lives (deployment : Deployment T) : List Life :=
  deployment.past.map (Life.mk false) ++ deployment.rollkit.toList

variable (F : FuelCore T) (environment : Option String)
  (command : Command)

/-- The application gets these requests. -/
def cross (deployment : Deployment T) (crossed : List Sent) :
    Deployment T :=
  { deployment with
    worker :=
      deployment.worker.after (serveRequest F)
        (restart F environment command)
        ((crossed.map Prod.snd).map Occurrence.receive) }

/-- One call: the relayer works on the client, the application on what crosses
the socket. -/
def call (deployment : Deployment T)
    (timed : Tai64 × ApplicationCall) (fate : Fate) (recovered : Bool) :
    Deployment T × List (Occurrence Sent) :=
  match deployment.rollkit with
  | none => (deployment, [])
  | some life =>
      let fate := life.meets deployment.worker fate
      let app : ABCIRelayer T := {
        client := (directClient F).through fate }
      let sent := sentFrom deployment.past.length (socketLog [timed])
      let crossed := fate.atOnce sent
      let moved := {
        deployment.cross F environment command crossed with
        underway := deployment.underway ++ fate.later sent }
      let next :=
        match app.serve timed deployment.worker.state with
        | .ok _ _ =>
            let answered := life.answered ++ [timed]
            { moved with rollkit := some { life with answered := answered } }
        | .error _ _ =>
            if recovered then moved.disconnected else moved.ended
      (next, crossed.map Occurrence.receive)

def arrive (deployment : Deployment T) (index : Nat) :
    Deployment T × List (Occurrence Sent) :=
  match deployment.underway[index]? with
  | none => (deployment, [])
  | some sent =>
      let underway := deployment.underway.eraseIdx index
      ({ deployment.cross F environment command [sent] with
          underway := underway },
        [.receive sent])

/-- A client can connect while the application does not serve; it gets nothing
then but errors. -/
def startRollkit (deployment : Deployment T) (connects : Bool) :
    Deployment T :=
  match deployment.rollkit with
  | some _ => deployment
  | none =>
      if connects then
        let life : Life := {
          connected := deployment.worker.isServing
          answered := [] }
        { deployment with rollkit := some life }
      else
        deployment

/-- With the process its sockets are gone, and what was on its way to it. -/
def restartApp (deployment : Deployment T) : Deployment T :=
  { deployment.disconnected with
    worker := restart F environment command deployment.worker.state
    underway := [] }

/-- The deployment after an event, and what the event was to the
application. -/
def step (deployment : Deployment T) :
    DeploymentEvent → Deployment T × List (Occurrence Sent)
  | .call timed fate recovered =>
      deployment.call F environment command timed fate recovered
  | .arrive index => deployment.arrive F environment command index
  | .startRollkit connects => (deployment.startRollkit connects, [])
  | .stopRollkit => (deployment.ended, [])
  | .disconnect => (deployment.disconnected, [])
  | .restartApp =>
      (deployment.restartApp F environment command, [.restart])

def machine :
    Machine (Deployment T) DeploymentEvent (Occurrence Sent) where
  next deployment event :=
    (deployment.step F environment command event).1
  output deployment event :=
    (deployment.step F environment command event).2

end Deployment

/-! ## The client over a network -/

section Network

variable {F : FuelCore T} {fate : Fate}

theorem Fate.through_ok
    {Result : Type} {sync : EStateM String (World T) Result}
    {world next : World T} {answer : Result}
    (answered : fate.through sync world = .ok answer next) :
    fate.arrives = true ∧ sync world = .ok answer next := by
  cases fate with
  | delivered => exact ⟨rfl, answered⟩
  | lostAnswer => exact ⟨rfl, beforeBreak_ok answered⟩
  | lostRequest => cases answered
  | late => cases answered

theorem Delivers.through
    {Result : Type} {sync : Sync T Result} {request : Request}
    {wrap : Result → Response}
    (delivers : Delivers F sync request wrap) (fate : Fate) :
    Delivers F (fun now => fate.through (sync now)) request wrap := by
  intro now world answer next answered
  exact delivers now world answer next (Fate.through_ok answered).2

/-- What gets through is what the application answered. -/
theorem ClientLaws.through
    {client : Client T} (laws : ClientLaws F client) (fate : Fate) :
    ClientLaws F (client.through fate) where
  info := laws.info.through fate
  deliverTx tx := (laws.deliverTx tx).through fate
  checkTx tx := (laws.checkTx tx).through fate
  commit := laws.commit.through fate
  query path data := (laws.query path data).through fate
  initChain := laws.initChain.through fate
  beginBlock height other := (laws.beginBlock height other).through fate
  endBlock height := (laws.endBlock height).through fate
  listSnapshots := laws.listSnapshots.through fate
  offerSnapshot := laws.offerSnapshot.through fate
  loadSnapshotChunk := laws.loadSnapshotChunk.through fate
  applySnapshotChunk := laws.applySnapshotChunk.through fate

/-- A method that answers has reached the application. -/
theorem Client.arrives_of_through
    {client : Client T} {call : Call} {sync : Sync T Response}
    (target : (client.through fate).target call = some sync)
    {now : Tai64} {world next : World T} {answer : Response}
    (answered : sync now world = .ok answer next) :
    fate.arrives = true := by
  cases call with
  | setOption key value => cases target
  | beginBlock height =>
      by_cases first : height = 1
      · simp [Client.target, first] at target
      · simp only [Client.target, if_neg first] at target
        cases target
        obtain ⟨_, got, _⟩ := wrap_ok_iff.mp answered
        exact (Fate.through_ok got).1
  | _ =>
      cases target
      obtain ⟨_, got, _⟩ := wrap_ok_iff.mp answered
      exact (Fate.through_ok got).1

theorem socketLog_append (earlier later : List (Tai64 × ApplicationCall)) :
    socketLog (earlier ++ later) =
      socketLog earlier ++ socketLog later :=
  List.flatMap_append

theorem length_socketLog_singleton (timed : Tai64 × ApplicationCall) :
    (socketLog [timed]).length ≤ 1 := by
  unfold socketLog
  rw [List.flatMap_singleton]
  cases timed.2.forwarded <;> simp

/-- What is answered has reached the application, or there was nothing to
send. -/
theorem arrives_of_answered
    {client : Client T} {timed : Tai64 × ApplicationCall}
    {world next : World T} {answer : ApplicationAnswer}
    (answered :
      ABCIRelayer.serve { client := client.through fate } timed world =
        .ok answer next) :
    fate.arrives = true ∨ socketLog [timed] = [] := by
  obtain ⟨now, applied⟩ := timed
  cases applied with
  | relayed call =>
      by_cases forwarded : call.isForwarded = true
      · left
        obtain ⟨response, called, _⟩ := wrap_ok_iff.mp answered
        have targeted :=
          ((client.through fate).target_isSome_iff call).mpr forwarded
        obtain ⟨sync, target⟩ := Option.isSome_iff_exists.mp targeted
        have handed :
            ABCIRelayer.call { client := client.through fate }
                (now, call) =
              orPanic (sync now) :=
          ABCIRelayer.call_of_target target
        have synced : sync now world = .ok response next := by
          apply orPanic_ok.mp
          rw [← handed]
          exact called
        exact Client.arrives_of_through target synced
      · right
        simp only [socketLog, List.flatMap_singleton,
          ApplicationCall.forwarded, if_neg forwarded]
        rfl
  | _ => exact Or.inr rfl

/-- What is answered, the application has answered. -/
theorem served_of_answered
    {timed : Tai64 × ApplicationCall} {world next : World T}
    {answer : ApplicationAnswer}
    (answered :
      ABCIRelayer.serve { client := (directClient F).through fate } timed
          world =
        .ok answer next) :
    Answered (serveRequest F) (socketLog [timed]) world next := by
  have laws := (directClient_laws F).through fate
  exact
    @ABCIRelayer.serve_ok T F
      { client := (directClient F).through fate } world laws timed next
      answer answered

end Network

/-! ## Who sent what -/

section Senders

variable {number other : Nat}

@[simp]
theorem sentBy_append (earlier later : List Sent) :
    sentBy number (earlier ++ later) =
      sentBy number earlier ++ sentBy number later :=
  List.filterMap_append

theorem sentBy_sentFrom (number : Nat) (requests : List TimedRequest) :
    sentBy number (sentFrom number requests) = requests := by
  unfold sentBy sentFrom
  rw [List.filterMap_map]
  have same :
      ((fun sent : Sent =>
          if sent.1 = number then some sent.2 else none) ∘
        fun request => (number, request)) = some := by
    funext request
    simp
  rw [same, List.filterMap_some]

theorem sentBy_eq_nil
    {requests : List Sent}
    (others : ∀ sent ∈ requests, sent.1 ≠ number) :
    sentBy number requests = [] := by
  unfold sentBy
  rw [List.filterMap_eq_nil_iff]
  intro sent member
  exact if_neg (others sent member)

theorem map_snd_sentFrom (number : Nat) (requests : List TimedRequest) :
    (sentFrom number requests).map Prod.snd = requests := by
  unfold sentFrom
  rw [List.map_map]
  exact List.map_id _

theorem sender_of_mem_sentFrom
    {requests : List TimedRequest} {sent : Sent}
    (member : sent ∈ sentFrom number requests) : sent.1 = number := by
  obtain ⟨request, _, rfl⟩ := List.mem_map.mp member
  rfl

theorem Fate.length_le (fate : Fate) (sent : List Sent) :
    (fate.atOnce sent).length + (fate.later sent).length ≤
      sent.length := by
  cases fate <;> simp [Fate.atOnce, Fate.later, Fate.arrives]

@[simp]
theorem Fate.atOnce_nil (fate : Fate) : fate.atOnce [] = [] := by
  cases fate <;> rfl

@[simp]
theorem Fate.later_nil (fate : Fate) : fate.later [] = [] := by
  cases fate <;> rfl

theorem Fate.mem_atOnce
    {fate : Fate} {requests : List Sent} {sent : Sent}
    (member : sent ∈ fate.atOnce requests) : sent ∈ requests := by
  unfold Fate.atOnce at member
  split at member
  · exact member
  · cases member

theorem Fate.mem_later
    {fate : Fate} {requests : List Sent} {sent : Sent}
    (member : sent ∈ fate.later requests) : sent ∈ requests := by
  unfold Fate.later at member
  split at member
  · exact member
  · cases member

/-- What is served at once is not late. -/
theorem Fate.atOnce_of_arrives
    {fate : Fate} (arrives : fate.arrives = true) (sent : List Sent) :
    fate.atOnce sent = sent ∧ fate.later sent = [] := by
  cases fate with
  | delivered => exact ⟨rfl, rfl⟩
  | lostAnswer => exact ⟨rfl, rfl⟩
  | lostRequest => cases arrives
  | late => cases arrives

/-- A request that arrives is on its way no more. -/
theorem length_sentBy_eraseIdx
    {underway : List Sent} {index : Nat} {sent : Sent}
    (found : underway[index]? = some sent) :
    (sentBy number [sent]).length +
        (sentBy number (underway.eraseIdx index)).length =
      (sentBy number underway).length := by
  induction underway generalizing index with
  | nil =>
      simp at found
  | cons first rest inductionHypothesis =>
      have split :
          (sentBy number (first :: rest)).length =
            (sentBy number [first]).length +
              (sentBy number rest).length := by
        rw [← List.singleton_append, sentBy_append, List.length_append]
      cases index with
      | zero =>
          simp only [List.getElem?_cons_zero, Option.some.injEq] at found
          subst found
          exact split.symm
      | succ index =>
          simp only [List.getElem?_cons_succ] at found
          have later := inductionHypothesis found
          have splitErased :
              (sentBy number (first :: rest.eraseIdx index)).length =
                (sentBy number [first]).length +
                  (sentBy number (rest.eraseIdx index)).length := by
            rw [← List.singleton_append, sentBy_append,
              List.length_append]
          rw [List.eraseIdx_cons_succ, splitErased, split]
          omega

end Senders

/-! ## One incarnation of the application for each relayer -/

section Incarnations

variable (F : FuelCore T) (environment : Option String)
  (command : Command) (node : Node T)

/-- The node that a log of sent requests leads to. -/
def sentTo (log : List (Occurrence Sent)) : Worker (World T) :=
  nodeAfter F environment command node (log.map (Occurrence.map Prod.snd))

/-- Where a relayer stands in the log: nothing of it is in `before`; then the
application served, in one go, all that the relayer got answers for, and
perhaps late requests of others; in `rest` and under way is at most one more
request of it. -/
structure Standing (log : List (Occurrence Sent)) (underway : List Sent)
    (worker : Worker (World T)) (number : Nat) (life : Life)
    (before : List (Occurrence Sent)) (served : List Sent)
    (rest : List (Occurrence Sent)) (finish : World T) : Prop where
  logged : log = before ++ served.map Occurrence.receive ++ rest
  first : sentBy number (Occurrence.inputs before) = []
  inOrder : sentBy number served = socketLog life.answered
  single :
    (sentBy number (Occurrence.inputs rest)).length +
        (sentBy number underway).length ≤
      1
  serving :
    served ≠ [] →
      (sentTo F environment command node before).isServing = true
  answered :
    Answered (serveRequest F) (served.map Prod.snd)
      (sentTo F environment command node before).state finish
  connected :
    life.connected = true →
      sentBy number (Occurrence.inputs rest) = [] ∧
        sentBy number underway = []
  current :
    life.connected = true →
    worker.isServing = true →
      rest = [] ∧ worker = .serving finish

def Recorded (log : List (Occurrence Sent)) (underway : List Sent)
    (worker : Worker (World T)) (number : Nat) (life : Life) : Prop :=
  ∃ before served rest finish,
    Standing F environment command node log underway worker number life
      before served rest finish

variable {F environment command node} {log : List (Occurrence Sent)}
  {underway : List Sent} {worker : Worker (World T)} {number : Nat}
  {life : Life}

theorem sentTo_append (earlier later : List (Occurrence Sent)) :
    sentTo F environment command node (earlier ++ later) =
      (sentTo F environment command node earlier).after (serveRequest F)
        (restart F environment command)
        (later.map (Occurrence.map Prod.snd)) := by
  unfold sentTo nodeAfter
  rw [List.map_append, Worker.after_append]

/-- What comes after the connection broke belongs to the rest. -/
theorem Standing.extend
    {before : List (Occurrence Sent)} {served : List Sent}
    {rest : List (Occurrence Sent)} {finish : World T}
    (standing :
      Standing F environment command node log underway worker number life
        before served rest finish)
    {more : List (Occurrence Sent)} {next : List Sent}
    (single :
      (sentBy number (Occurrence.inputs rest)).length +
          (sentBy number (Occurrence.inputs more)).length +
          (sentBy number next).length ≤
        1)
    (other : Worker (World T)) :
    Standing F environment command node (log ++ more) next other number
      { life with connected := false } before served (rest ++ more)
      finish := by
  constructor
  · rw [standing.logged, List.append_assoc]
  · exact standing.first
  · exact standing.inOrder
  · rw [Occurrence.inputs_append, sentBy_append, List.length_append]
    exact single
  · exact standing.serving
  · exact standing.answered
  · intro impossible
    cases impossible
  · intro impossible
    cases impossible

/-- Without a connection, what else comes is from others or was still under
way. -/
theorem Recorded.disconnected
    (recorded :
      Recorded F environment command node log underway worker number
        life)
    {more : List (Occurrence Sent)} {next : List Sent}
    (moved :
      (sentBy number (Occurrence.inputs more)).length +
          (sentBy number next).length ≤
        (sentBy number underway).length)
    (other : Worker (World T)) :
    Recorded F environment command node (log ++ more) next other number
      { life with connected := false } := by
  obtain ⟨before, served, rest, finish, standing⟩ := recorded
  have single := standing.single
  refine ⟨before, served, rest ++ more, finish, ?_⟩
  apply standing.extend
  omega

theorem Recorded.disconnect
    (recorded :
      Recorded F environment command node log underway worker number
        life)
    (other : Worker (World T)) :
    Recorded F environment command node log underway other number
      { life with connected := false } := by
  have fits :
      (sentBy number (Occurrence.inputs [])).length +
          (sentBy number underway).length ≤
        (sentBy number underway).length := by
    simp [Occurrence.inputs, sentBy]
  have moved := recorded.disconnected fits other
  rwa [List.append_nil] at moved

/-- A call over a live connection that gets no answer leaves one request in
doubt at most. -/
theorem Recorded.fail
    (recorded :
      Recorded F environment command node log underway worker number
        life)
    (alive : life.connected = true) {crossed late : List Sent}
    (single : crossed.length + late.length ≤ 1)
    (other : Worker (World T)) :
    Recorded F environment command node
      (log ++ crossed.map Occurrence.receive) (underway ++ late) other
      number { life with connected := false } := by
  obtain ⟨before, served, rest, finish, standing⟩ := recorded
  obtain ⟨noRest, noUnderway⟩ := standing.connected alive
  have fewCrossed : (sentBy number crossed).length ≤ crossed.length :=
    List.length_filterMap_le _ _
  have fewLate : (sentBy number late).length ≤ late.length :=
    List.length_filterMap_le _ _
  refine ⟨before, served, _, finish, standing.extend ?_ other⟩
  rw [noRest, sentBy_append, noUnderway, Occurrence.inputs_map_receive,
    List.nil_append]
  simp only [List.length_nil]
  omega

/-- An answer that needed no request. -/
theorem Recorded.answer_locally
    (recorded :
      Recorded F environment command node log underway worker number
        life)
    {timed : Tai64 × ApplicationCall} (unsent : socketLog [timed] = []) :
    Recorded F environment command node log underway worker number
      { life with answered := life.answered ++ [timed] } := by
  obtain ⟨before, served, rest, finish, standing⟩ := recorded
  refine ⟨before, served, rest, finish, ?_⟩
  exact
    { logged := standing.logged
      first := standing.first
      inOrder := by
        rw [socketLog_append, unsent, List.append_nil]
        exact standing.inOrder
      single := standing.single
      serving := standing.serving
      answered := standing.answered
      connected := standing.connected
      current := standing.current }

/-- A client that just connected stands at the end of the log. -/
theorem Recorded.connect
    (reached : worker = sentTo F environment command node log)
    (new : sentBy number (Occurrence.inputs log) = [])
    (nothing : sentBy number underway = []) :
    Recorded F environment command node log underway worker number
      { connected := worker.isServing, answered := [] } := by
  refine ⟨log, [], [], worker.state, ?_⟩
  constructor
  · simp
  · exact new
  · rfl
  · rw [nothing]
    exact Nat.zero_le 1
  · intro some
    exact absurd rfl some
  · rw [← reached]
    exact answered_nil.mpr rfl
  · intro _
    exact ⟨rfl, nothing⟩
  · intro _ serving
    refine ⟨rfl, ?_⟩
    cases worker with
    | serving world => rfl
    | stopped world => cases serving

/-- Requests that are all answered extend what a connected relayer is
served. -/
theorem Standing.serve
    {before : List (Occurrence Sent)} {served : List Sent}
    {rest : List (Occurrence Sent)} {finish next : World T}
    (standing :
      Standing F environment command node log underway worker number life
        before served rest finish)
    (alive : life.connected = true) (up : worker.isServing = true)
    (reached : worker = sentTo F environment command node log)
    {crossed later : List Sent} {answered : List (Tai64 × ApplicationCall)}
    (own :
      sentBy number crossed = socketLog answered)
    (stays : sentBy number later = [])
    (served_crossed :
      Answered (serveRequest F) (crossed.map Prod.snd) worker.state next) :
    Standing F environment command node
      (log ++ crossed.map Occurrence.receive) later
      (worker.after (serveRequest F) (restart F environment command)
        ((crossed.map Prod.snd).map Occurrence.receive))
      number { life with answered := life.answered ++ answered }
      before (served ++ crossed) [] next := by
  obtain ⟨noRest, here⟩ := standing.current alive up
  have written := standing.logged
  rw [noRest, List.append_nil] at written
  rw [here] at served_crossed
  constructor
  · rw [written]
    simp
  · exact standing.first
  · rw [sentBy_append, socketLog_append, standing.inOrder, own]
  · rw [stays]
    exact Nat.zero_le 1
  · intro _
    by_cases nothing : served = []
    · have same : log = before := by
        rw [written, nothing]
        simp
      rw [← same, ← reached]
      exact up
    · exact standing.serving nothing
  · rw [List.map_append]
    exact answered_append.mpr ⟨finish, standing.answered, served_crossed⟩
  · intro _
    exact ⟨rfl, stays⟩
  · intro _ _
    rw [here]
    exact ⟨rfl, Worker.after_receive_of_answered served_crossed⟩

/-- A request of others that is not answered, met by a connected relayer. -/
theorem Recorded.overtaken
    (recorded :
      Recorded F environment command node log underway worker number
        life)
    (alive : life.connected = true) {more : List (Occurrence Sent)}
    {next : List Sent}
    (others : sentBy number (Occurrence.inputs more) = [])
    (stays : sentBy number next = []) {other : Worker (World T)}
    (down : other.isServing = false) :
    Recorded F environment command node (log ++ more) next other number
      life := by
  obtain ⟨before, served, rest, finish, standing⟩ := recorded
  obtain ⟨noRest, _⟩ := standing.connected alive
  have unsent :
      sentBy number (Occurrence.inputs (rest ++ more)) = [] := by
    rw [Occurrence.inputs_append, sentBy_append, noRest, others]
    rfl
  refine ⟨before, served, rest ++ more, finish, ?_⟩
  constructor
  · rw [standing.logged, List.append_assoc]
  · exact standing.first
  · exact standing.inOrder
  · rw [unsent, stays]
    exact Nat.zero_le 1
  · exact standing.serving
  · exact standing.answered
  · intro _
    exact ⟨unsent, stays⟩
  · intro _ up
    rw [down] at up
    cases up

/-- A late request moves from the way into the log. -/
theorem Recorded.arrive
    (recorded :
      Recorded F environment command node log underway worker number
        life)
    (reached : worker = sentTo F environment command node log)
    {index : Nat} {sent : Sent} (found : underway[index]? = some sent) :
    Recorded F environment command node (log ++ [.receive sent])
      (underway.eraseIdx index)
      (worker.after (serveRequest F) (restart F environment command)
        [.receive sent.2])
      number life := by
  have moved := @length_sentBy_eraseIdx number underway index sent found
  by_cases alive : life.connected = true
  · have known := recorded
    obtain ⟨before, served, rest, finish, standing⟩ := known
    obtain ⟨_, noUnderway⟩ := standing.connected alive
    rw [noUnderway, List.length_nil] at moved
    have others :
        sentBy number (Occurrence.inputs [.receive sent]) = [] := by
      apply List.eq_nil_of_length_eq_zero
      change (sentBy number [sent]).length = 0
      omega
    have stays : sentBy number (underway.eraseIdx index) = [] := by
      apply List.eq_nil_of_length_eq_zero
      omega
    cases worker with
    | stopped world =>
        exact recorded.overtaken alive others stays rfl
    | serving world =>
        cases outcome : serveRequest F sent.2 world with
        | ok answer next =>
            have one :
                Answered (serveRequest F) ([sent].map Prod.snd) world
                  next :=
              answered_cons.mpr
                ⟨answer, next, outcome, answered_nil.mpr rfl⟩
            have nothing : socketLog [] = [] := rfl
            have extended :=
              standing.serve alive rfl reached (others.trans nothing.symm)
                stays one
            rw [List.append_nil] at extended
            exact ⟨before, _, [], next, extended⟩
        | error panic stuck =>
            apply recorded.overtaken alive others stays
            rw [Worker.after_cons, Worker.occur, Worker.serve_error outcome]
            rfl
  · have dead : life.connected = false := by
      simpa using alive
    have fits :
        (sentBy number (Occurrence.inputs [.receive sent])).length +
            (sentBy number (underway.eraseIdx index)).length ≤
          (sentBy number underway).length :=
      le_of_eq moved
    have later :=
      recorded.disconnected fits
        (worker.after (serveRequest F) (restart F environment command)
          [.receive sent.2])
    rw [← dead] at later
    exact later

/-- A call that is answered. -/
theorem Recorded.answer
    (recorded :
      Recorded F environment command node log underway worker number
        life)
    (reached : worker = sentTo F environment command node log)
    {timed : Tai64 × ApplicationCall} (fate : Fate)
    {answer : ApplicationAnswer} {next : World T}
    (outcome :
      ABCIRelayer.serve
          { client := (directClient F).through (life.meets worker fate) }
          timed worker.state =
        .ok answer next) :
    Recorded F environment command node
      (log ++
        ((life.meets worker fate).atOnce
          (sentFrom number (socketLog [timed]))).map Occurrence.receive)
      (underway ++
        (life.meets worker fate).later
          (sentFrom number (socketLog [timed])))
      (worker.after (serveRequest F) (restart F environment command)
        ((((life.meets worker fate).atOnce
          (sentFrom number (socketLog [timed]))).map Prod.snd).map
            Occurrence.receive))
      number { life with answered := life.answered ++ [timed] } := by
  rcases arrives_of_answered outcome with arrives | unsent
  · have live : (life.connected && worker.isServing) = true := by
      by_contra dead
      rw [Life.meets, if_neg dead] at arrives
      cases arrives
    obtain ⟨alive, up⟩ := (Bool.and_eq_true _ _).mp live
    obtain ⟨before, served, rest, finish, standing⟩ := recorded
    obtain ⟨_, stays⟩ := standing.connected alive
    obtain ⟨whole, nothing⟩ :=
      Fate.atOnce_of_arrives arrives
        (sentFrom number (socketLog [timed]))
    rw [whole, nothing, List.append_nil]
    refine
      ⟨before, served ++ sentFrom number (socketLog [timed]), [], next,
        ?_⟩
    apply standing.serve alive up reached
    · exact sentBy_sentFrom number _
    · exact stays
    · rw [map_snd_sentFrom]
      exact served_of_answered outcome
  · have none : sentFrom number (socketLog [timed]) = [] := by
      rw [unsent]
      rfl
    rw [none, Fate.atOnce_nil, Fate.later_nil]
    simp only [List.map_nil, List.append_nil, Worker.after_nil]
    exact recorded.answer_locally unsent

/-- A call that is not. -/
theorem Recorded.unanswered
    (recorded :
      Recorded F environment command node log underway worker number
        life)
    (timed : Tai64 × ApplicationCall) (fate : Fate)
    (other : Worker (World T)) :
    Recorded F environment command node
      (log ++
        ((life.meets worker fate).atOnce
          (sentFrom number (socketLog [timed]))).map Occurrence.receive)
      (underway ++
        (life.meets worker fate).later
          (sentFrom number (socketLog [timed])))
      other number { life with connected := false } := by
  by_cases alive : life.connected = true
  · apply recorded.fail alive
    have sum :=
      (life.meets worker fate).length_le
        (sentFrom number (socketLog [timed]))
    have single := length_socketLog_singleton timed
    have same :
        (sentFrom number (socketLog [timed])).length =
          (socketLog [timed]).length :=
      List.length_map _
    omega
  · have lost : life.meets worker fate = .lostRequest := by
      unfold Life.meets
      apply if_neg
      simp [alive]
    have nothing :
        Fate.atOnce .lostRequest (sentFrom number (socketLog [timed])) =
            [] ∧
          Fate.later .lostRequest
              (sentFrom number (socketLog [timed])) =
            [] :=
      ⟨rfl, rfl⟩
    rw [lost, nothing.1, nothing.2, List.map_nil, List.append_nil,
      List.append_nil]
    exact recorded.disconnect other

end Incarnations

/-! ## Every relayer of a deployment -/

section Orderly

variable (F : FuelCore T) (environment : Option String)
  (command : Command) (node : Node T)

/-- The application is the node that its log leads to, and every relayer so
far stands in that log. -/
structure Orderly (log : List (Occurrence Sent))
    (deployment : Deployment T) : Prop where
  worker :
    deployment.worker = sentTo F environment command node log
  past :
    ∀ number answered,
      deployment.past[number]? = some answered →
        Recorded F environment command node log deployment.underway
          deployment.worker number
          { connected := false, answered := answered }
  current :
    ∀ life,
      deployment.rollkit = some life →
        Recorded F environment command node log deployment.underway
          deployment.worker deployment.past.length life
  senders :
    ∀ sent ∈ Occurrence.inputs log ++ deployment.underway,
      sent.1 < deployment.lives.length

variable {F environment command node} {log : List (Occurrence Sent)}
  {deployment : Deployment T}

theorem getElem?_concat_cases {Item : Type} {items : List Item}
    {last found : Item} {number : Nat}
    (located : (items ++ [last])[number]? = some found) :
    items[number]? = some found ∨
      number = items.length ∧ found = last := by
  by_cases early : number < items.length
  · left
    rwa [List.getElem?_append_left early] at located
  · right
    rw [List.getElem?_append_right (Nat.le_of_not_lt early),
      List.getElem?_singleton] at located
    by_cases exactly : number - items.length = 0
    · rw [if_pos exactly] at located
      cases located
      exact ⟨by omega, rfl⟩
    · rw [if_neg exactly] at located
      cases located

theorem Deployment.length_lives (deployment : Deployment T) :
    deployment.lives.length =
      deployment.past.length + deployment.rollkit.toList.length := by
  simp [Deployment.lives]

/-- The relayer that runs has the last number. -/
theorem Orderly.recorded
    (orderly : Orderly F environment command node log deployment)
    {number : Nat} {life : Life}
    (lived : deployment.lives[number]? = some life) :
    Recorded F environment command node log deployment.underway
      deployment.worker number life := by
  have early :
      (deployment.past.map (Life.mk false))[number]? = some life →
        Recorded F environment command node log deployment.underway
          deployment.worker number life := by
    intro found
    rw [List.getElem?_map] at found
    obtain ⟨answered, located, rfl⟩ := Option.map_eq_some_iff.mp found
    exact orderly.past number answered located
  unfold Deployment.lives at lived
  cases running : deployment.rollkit with
  | none =>
      rw [running, Option.toList_none, List.append_nil] at lived
      exact early lived
  | some current =>
      rw [running, Option.toList_some] at lived
      rcases getElem?_concat_cases lived with found | ⟨last, rfl⟩
      · exact early found
      · rw [last, List.length_map]
        exact orderly.current _ running

theorem Orderly.disconnected
    (orderly : Orderly F environment command node log deployment) :
    Orderly F environment command node log deployment.disconnected where
  worker := orderly.worker
  past := orderly.past
  current := by
    intro life same
    obtain ⟨current, running, rfl⟩ := Option.map_eq_some_iff.mp same
    exact (orderly.current current running).disconnect _
  senders := by
    intro sent member
    have earlier := orderly.senders sent member
    rw [Deployment.length_lives] at earlier ⊢
    cases running : deployment.rollkit with
    | none => simpa [Deployment.disconnected, running] using earlier
    | some life => simpa [Deployment.disconnected, running] using earlier

theorem Orderly.ended
    (orderly : Orderly F environment command node log deployment) :
    Orderly F environment command node log deployment.ended := by
  obtain ⟨worker, past, rollkit, underway⟩ := deployment
  cases rollkit with
  | none =>
      unfold Deployment.ended
      simp only [Option.map_none, Option.toList_none, List.append_nil]
      exact orderly
  | some life =>
      constructor
      · exact orderly.worker
      · intro number answered found
        rcases getElem?_concat_cases found with earlier | ⟨last, rfl⟩
        · exact orderly.past number answered earlier
        · rw [last]
          exact (orderly.current life rfl).disconnect worker
      · intro current impossible
        cases impossible
      · intro sent member
        have earlier := orderly.senders sent member
        simpa [Deployment.ended, Deployment.length_lives] using earlier

theorem Orderly.startRollkit
    (orderly : Orderly F environment command node log deployment)
    (connects : Bool) :
    Orderly F environment command node log
      (deployment.startRollkit connects) := by
  obtain ⟨worker, past, rollkit, underway⟩ := deployment
  cases rollkit with
  | some life =>
      exact orderly
  | none =>
      cases connects with
      | false =>
          exact orderly
      | true =>
          have earlier :
              ∀ sent ∈ Occurrence.inputs log ++ underway,
                sent.1 < past.length := by
            intro sent member
            have known := orderly.senders sent member
            simpa [Deployment.length_lives] using known
          have new : sentBy past.length (Occurrence.inputs log) = [] := by
            apply sentBy_eq_nil
            intro sent member
            exact Nat.ne_of_lt
              (earlier sent (List.mem_append_left _ member))
          have nothing : sentBy past.length underway = [] := by
            apply sentBy_eq_nil
            intro sent member
            exact Nat.ne_of_lt
              (earlier sent (List.mem_append_right _ member))
          constructor
          · exact orderly.worker
          · exact orderly.past
          · intro life same
            cases same
            exact Recorded.connect orderly.worker new nothing
          · intro sent member
            have below := earlier sent member
            rw [Deployment.length_lives]
            exact Nat.lt_succ_of_lt below

/-- A late request arrives. -/
theorem Orderly.arrive
    (orderly : Orderly F environment command node log deployment)
    (index : Nat) :
    Orderly F environment command node
      (log ++ (deployment.arrive F environment command index).2)
      (deployment.arrive F environment command index).1 := by
  unfold Deployment.arrive
  cases found : deployment.underway[index]? with
  | none =>
      rw [List.append_nil]
      exact orderly
  | some sent =>
      constructor
      · rw [sentTo_append, ← orderly.worker]
        rfl
      · intro number answered located
        exact
          (orderly.past number answered located).arrive orderly.worker
            found
      · intro life running
        exact
          (orderly.current life running).arrive orderly.worker found
      · intro other member
        apply orderly.senders other
        rw [Occurrence.inputs_append, List.append_assoc,
          List.mem_append] at member
        rcases member with written | moved
        · exact List.mem_append_left _ written
        · apply List.mem_append_right
          rcases List.mem_append.mp moved with here | left
          · have same : other = sent := List.mem_singleton.mp here
            rw [same]
            exact List.mem_of_getElem? found
          · exact List.mem_of_mem_eraseIdx left

/-- A restart of the application. -/
theorem Orderly.restartApp
    (orderly : Orderly F environment command node log deployment) :
    Orderly F environment command node (log ++ [.restart])
      (deployment.restartApp F environment command) := by
  have disconnected := orderly.disconnected
  have fits :
      ∀ number,
        (sentBy number (Occurrence.inputs [.restart])).length +
            (sentBy number []).length ≤
          (sentBy number deployment.underway).length :=
    fun _ => Nat.zero_le _
  constructor
  · rw [sentTo_append, ← orderly.worker]
    rfl
  · intro number answered located
    exact
      (orderly.past number answered located).disconnected (fits number) _
  · intro life same
    obtain ⟨current, running, rfl⟩ := Option.map_eq_some_iff.mp same
    exact (orderly.current current running).disconnected (fits _) _
  · intro sent member
    have same :
        Occurrence.inputs (log ++ [.restart]) ++ [] =
          Occurrence.inputs log := by
      simp [Occurrence.inputs, Occurrence.input?]
    change sent ∈ Occurrence.inputs (log ++ [.restart]) ++ [] at member
    rw [same] at member
    exact disconnected.senders sent (List.mem_append_left _ member)

/-- Requests of the running relayer move the deployment. -/
theorem Orderly.cross
    (orderly : Orderly F environment command node log deployment)
    {life moved : Life} (running : deployment.rollkit = some life)
    {crossed late : List Sent}
    (ownCrossed : ∀ sent ∈ crossed, sent.1 = deployment.past.length)
    (ownLate : ∀ sent ∈ late, sent.1 = deployment.past.length)
    (recorded :
      Recorded F environment command node
        (log ++ crossed.map Occurrence.receive)
        (deployment.underway ++ late)
        (deployment.cross F environment command crossed).worker
        deployment.past.length moved) :
    Orderly F environment command node
      (log ++ crossed.map Occurrence.receive)
      { deployment.cross F environment command crossed with
        underway := deployment.underway ++ late
        rollkit := some moved } := by
  constructor
  · rw [sentTo_append, ← orderly.worker, Occurrence.map_map_receive]
    rfl
  · intro number answered located
    have different : deployment.past.length ≠ number := by
      have early : number < deployment.past.length :=
        (List.getElem?_eq_some_iff.mp located).1
      omega
    have noneCrossed : sentBy number crossed = [] := by
      apply sentBy_eq_nil
      intro sent member
      rw [ownCrossed sent member]
      exact different
    have noneLate : sentBy number late = [] := by
      apply sentBy_eq_nil
      intro sent member
      rw [ownLate sent member]
      exact different
    have fits :
        (sentBy number
              (Occurrence.inputs (crossed.map Occurrence.receive))).length +
            (sentBy number (deployment.underway ++ late)).length ≤
          (sentBy number deployment.underway).length := by
      simp [noneCrossed, noneLate]
    exact (orderly.past number answered located).disconnected fits _
  · intro current same
    cases same
    exact recorded
  · intro sent member
    have last : sent.1 = deployment.past.length ∨
        sent.1 < deployment.lives.length := by
      rw [Occurrence.inputs_append, Occurrence.inputs_map_receive] at member
      simp only [List.mem_append] at member
      rcases member with (written | here) | underway | later
      · exact Or.inr (orderly.senders sent (List.mem_append_left _ written))
      · exact Or.inl (ownCrossed sent here)
      · exact
          Or.inr (orderly.senders sent (List.mem_append_right _ underway))
      · exact Or.inl (ownLate sent later)
    rw [Deployment.length_lives] at last ⊢
    rw [running, Option.toList_some, List.length_singleton] at last
    change sent.1 < deployment.past.length + 1
    omega

/-- A call of the running relayer. -/
theorem Orderly.call
    (orderly : Orderly F environment command node log deployment)
    (timed : Tai64 × ApplicationCall) (fate : Fate) (recovered : Bool) :
    Orderly F environment command node
      (log ++
        (deployment.call F environment command timed fate recovered).2)
      (deployment.call F environment command timed fate recovered).1 := by
  unfold Deployment.call
  cases running : deployment.rollkit with
  | none =>
      rw [List.append_nil]
      exact orderly
  | some life =>
      have known := orderly.current life running
      have ownCrossed :
          ∀ sent ∈ (life.meets deployment.worker fate).atOnce
              (sentFrom deployment.past.length (socketLog [timed])),
            sent.1 = deployment.past.length :=
        fun sent member => sender_of_mem_sentFrom (Fate.mem_atOnce member)
      have ownLate :
          ∀ sent ∈ (life.meets deployment.worker fate).later
              (sentFrom deployment.past.length (socketLog [timed])),
            sent.1 = deployment.past.length :=
        fun sent member => sender_of_mem_sentFrom (Fate.mem_later member)
      cases outcome :
          ABCIRelayer.serve
            { client :=
                (directClient F).through
                  (life.meets deployment.worker fate) }
            timed deployment.worker.state with
      | ok answer next =>
          have moved :=
            orderly.cross running ownCrossed ownLate
              (known.answer orderly.worker fate outcome)
          simpa only [outcome] using moved
      | error panic stuck =>
          have moved :=
            orderly.cross running ownCrossed ownLate
              (known.unanswered timed fate _)
          simp only [outcome]
          cases recovered with
          | true =>
              simpa [Deployment.disconnected, Deployment.cross, running]
                using moved
          | false =>
              simpa [Deployment.ended, Deployment.cross, running]
                using moved.ended

/-- Every event keeps it. -/
theorem Orderly.step
    (orderly : Orderly F environment command node log deployment)
    (event : DeploymentEvent) :
    Orderly F environment command node
      (log ++ (deployment.step F environment command event).2)
      (deployment.step F environment command event).1 := by
  cases event with
  | call timed fate recovered =>
      exact orderly.call timed fate recovered
  | arrive index =>
      exact orderly.arrive index
  | startRollkit connects =>
      simp only [Deployment.step, List.append_nil]
      exact orderly.startRollkit connects
  | stopRollkit =>
      simp only [Deployment.step, List.append_nil]
      exact orderly.ended
  | disconnect =>
      simp only [Deployment.step, List.append_nil]
      exact orderly.disconnected
  | restartApp =>
      exact orderly.restartApp

end Orderly

section Late

open LocalTestnet

end Late

end Fuelmint
