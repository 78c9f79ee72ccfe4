import Fuelmint.Foundation.Accounts
import Fuelmint.HttpApi
import Mathlib.Algebra.BigOperators.Group.List.Basic

/-!
# What becomes of submissions

A submission waits in its document, is sent to rollkit when its field is
resolved, or is abandoned with the document.  A send is answered, or it fails
and nobody knows whether rollkit got it.  The documents of many clients are
executed at a time; this module keeps the books of all of them.
-/

namespace Fuelmint

open Foundation

variable {T : Types} {R : ReadApi T} {F : FuelCore T}

/-! ## The books -/

/-- What a field sends when it is resolved: the bytes of a submission that
decodes. -/
def Mutation.sending (F : FuelCore T) : Mutation T → Option Send
  | .submit tx sent =>
      if (F.fromBytes tx.bytes).isSome then
        some (tx.bytes, sent)
      else
        none
  | .dryRun _ _ | .debug _ | .produceBlocks _ _ => none

def sentBytes (sends : List Send) : Multiset Bytes :=
  (sends.map Prod.fst : List Bytes)

def submissionsIn (F : FuelCore T) (fields : List (Mutation T)) :
    Multiset Bytes :=
  sentBytes (fields.filterMap (Mutation.sending F))

def Operation.fields : Operation R → List (Mutation T)
  | .mutation fields => fields
  | .query _ | .subscription _ | .invalid => []

/-- The fields that a request asks to resolve: those of a mutation that is
posted on one of the two paths of the schema. -/
def HttpRequest.fields (request : HttpRequest R) : List (Mutation T) :=
  match handler? request.method request.path with
  | some .graphQL | some .graphQLSubscription =>
      (request.body.map Operation.fields).getD []
  | some .playground | some .ok | some .metrics | some .health | none => []

def ServerEvent.submissions (F : FuelCore T) :
    ServerEvent R → Multiset Bytes
  | .http _ request => submissionsIn F request.fields
  | .abci _ | .advance _ | .hangUp _ | .gossip _ | .restart => 0

/-- The submissions in the fields to come. -/
def waitingIn (F : FuelCore T) (executions : List (Execution T)) :
    Multiset Bytes :=
  (executions.map fun execution => submissionsIn F execution.remaining).sum

namespace Server

def waiting (F : FuelCore T) (server : Server T) : Multiset Bytes :=
  waitingIn F server.executions

/-- The submissions that an event ends the wait of without sending them:
nobody listens, an earlier field fails, the client hangs up, or the process
is stopped. -/
def abandoned (F : FuelCore T) (server : Server T) :
    ServerEvent R → Multiset Bytes
  | .http _ request =>
      if server.listening then 0 else submissionsIn F request.fields
  | .advance index =>
      match server.executions[index]? with
      | none => 0
      | some execution =>
          match execution.remaining with
          | [] => 0
          | field :: rest =>
              match field.resolve F server.services.graphQL
                  server.gateway with
              | .ok _ _ => 0
              | .error _ _ => submissionsIn F rest
  | .hangUp index =>
      match server.executions[index]? with
      | none => 0
      | some execution => submissionsIn F execution.remaining
  | .restart => server.waiting F
  | .abci _ | .gossip _ => 0

end Server

/-! ## One field -/

@[simp]
theorem submissionsIn_nil : submissionsIn F ([] : List (Mutation T)) = 0 := rfl

theorem sentBytes_append (earlier later : List Send) :
    sentBytes (earlier ++ later) = sentBytes earlier + sentBytes later := by
  unfold sentBytes
  rw [List.map_append, Multiset.coe_add]

/-- What was sent was posted, or the send failed. -/
theorem sentBytes_eq (sends : List Send) :
    sentBytes sends =
      (postedIn sends : Multiset Bytes) + unansweredIn sends := by
  induction sends with
  | nil =>
      rfl
  | cons send rest inductionHypothesis =>
      obtain ⟨bytes, outcome⟩ := send
      have head :
          sentBytes ((bytes, outcome) :: rest) =
            {bytes} + sentBytes rest := rfl
      rw [head, inductionHypothesis]
      cases outcome with
      | ok response =>
          exact (add_assoc _ _ _).symm
      | error message =>
          exact add_left_comm _ _ _

theorem submissionsIn_cons (field : Mutation T) (rest : List (Mutation T)) :
    submissionsIn F (field :: rest) =
      sentBytes (field.sending F).toList + submissionsIn F rest := by
  unfold submissionsIn
  cases sends : field.sending F with
  | none =>
      rw [List.filterMap_cons_none sends]
      exact (zero_add _).symm
  | some send =>
      rw [List.filterMap_cons_some sends]
      exact sentBytes_append [send] _

theorem TxMutation.dryRun_sends
    (context : GraphQLContext T) (tx : HexString)
    (utxoValidation : Option Bool) :
    Frames Gateway.sends
      (TxMutation.dryRun F context tx utxoValidation) := by
  unfold TxMutation.dryRun
  rw [HexString.unwrap_bytes]
  cases F.fromBytes tx.bytes with
  | none =>
      exact Frames.throw _
  | some decoded =>
      apply Frames.get_bind
      intro gateway
      apply Frames.set_bind
      · rfl
      · cases (F.dryRunTx context.producer gateway.toShared decoded none
            utxoValidation).1 with
        | ok receipts => exact Frames.pure receipts
        | error message => exact Frames.throw _

theorem BlockMutation.produceBlocks_sends
    (context : GraphQLContext T) (startTimestamp : Option Tai64)
    (blocksToProduce : UInt64) :
    Frames Gateway.sends
      (BlockMutation.produceBlocks F context startTimestamp
        blocksToProduce) := by
  apply Frames.get_bind
  intro gateway
  apply Frames.set_bind
  · rfl
  · cases (F.produceBlocks context gateway.toShared startTimestamp
        blocksToProduce).1 with
    | ok height => exact Frames.pure height
    | error message => exact Frames.throw _

theorem TxMutation.submit_sends
    (tx : HexString) (sent : SendOutcome) (gateway : Gateway T) :
    (finalState (TxMutation.submit F tx sent gateway)).sends =
      gateway.sends ++
        ((Mutation.submit tx sent).sending F).toList := by
  rw [TxMutation.submit_eq]
  cases decoded : F.fromBytes tx.bytes with
  | none =>
      simp [finalState, Mutation.sending, decoded]
  | some fuelTx =>
      cases sent <;> simp [finalState, Mutation.sending, decoded]

/-- Whether it ends in an answer or a fault, a field sends what it has to
send, once. -/
theorem Mutation.resolve_sends
    (context : GraphQLContext T) (field : Mutation T)
    (gateway : Gateway T) :
    (finalState (field.resolve F context gateway)).sends =
      gateway.sends ++ (field.sending F).toList := by
  cases field with
  | submit tx sent =>
      rw [← TxMutation.submit_sends]
      exact
        congrArg Gateway.sends
          (finalState_wrap MutationAnswer.submit
            (TxMutation.submit F tx sent) gateway)
  | dryRun tx utxoValidation =>
      have framed :
          Frames Gateway.sends
            ((Mutation.dryRun tx utxoValidation).resolve F context) :=
        Frames.bind (TxMutation.dryRun_sends context tx utxoValidation)
          (fun receipts => Frames.pure _)
      rw [framed gateway]
      simp [sending]
  | debug request =>
      exact (List.append_nil gateway.sends).symm
  | produceBlocks startTimestamp blocksToProduce =>
      have framed :
          Frames Gateway.sends
            ((Mutation.produceBlocks startTimestamp
              blocksToProduce).resolve F context) :=
        Frames.bind
          (BlockMutation.produceBlocks_sends context startTimestamp
            blocksToProduce)
          (fun height => Frames.pure _)
      rw [framed gateway]
      simp [sending]

/-! ## One event -/

section Executions

variable {executions : List (Execution T)} {index : Nat}
  {execution : Execution T}

/-- Taking one execution out takes out what waits in it. -/
theorem waitingIn_eraseIdx
    (found : executions[index]? = some execution) :
    waitingIn F executions =
      submissionsIn F execution.remaining +
        waitingIn F (executions.eraseIdx index) := by
  obtain ⟨inside, rfl⟩ := List.getElem?_eq_some_iff.mp found
  have order := List.getElem_cons_eraseIdx_perm inside
  have sums :=
    (order.map fun execution => submissionsIn F execution.remaining).sum_eq
  rw [List.map_cons, List.sum_cons] at sums
  exact sums.symm

theorem waitingIn_set
    (found : executions[index]? = some execution)
    (advanced : Execution T) :
    waitingIn F (executions.set index advanced) =
      submissionsIn F advanced.remaining +
        waitingIn F (executions.eraseIdx index) := by
  obtain ⟨inside, _⟩ := List.getElem?_eq_some_iff.mp found
  have order := List.set_perm_cons_eraseIdx inside advanced
  have sums :=
    (order.map fun execution => submissionsIn F execution.remaining).sum_eq
  rwa [List.map_cons, List.sum_cons] at sums

end Executions

namespace Server

/-- The submissions that were sent or still wait. -/
def kept (F : FuelCore T) (server : Server T) : Multiset Bytes :=
  sentBytes server.sends + server.waiting F

theorem execute_kept
    (server : Server T) (client : Nat) (operation : Operation R) :
    (server.execute client operation).1.kept F =
      server.kept F + submissionsIn F operation.fields := by
  cases operation with
  | mutation fields =>
      simp [execute, kept, waiting, waitingIn, Operation.fields, add_assoc]
  | query request => exact (add_zero _).symm
  | subscription request => exact (add_zero _).symm
  | invalid => exact (add_zero _).symm

theorem executeStream_kept
    (server : Server T) (client : Nat) (operation : Operation R) :
    (server.executeStream client operation).1.kept F =
      server.kept F + submissionsIn F operation.fields := by
  cases operation with
  | subscription request => exact (add_zero _).symm
  | query request => exact server.execute_kept client (.query request)
  | mutation fields => exact server.execute_kept client (.mutation fields)
  | invalid => exact server.execute_kept client (.invalid : Operation R)

/-- A request that is heard opens the documents that it posts. -/
theorem receive_kept
    (server : Server T) (client : Nat) (request : HttpRequest R) :
    server.kept F + submissionsIn F request.fields =
      (if server.listening then 0 else submissionsIn F request.fields) +
        (server.receive client request).1.kept F := by
  unfold receive
  by_cases listens : server.listening = true
  · rw [if_pos listens, if_pos listens, zero_add]
    unfold HttpRequest.fields
    cases handler? request.method request.path with
    | none =>
        exact add_zero _
    | some handler =>
        cases handler with
        | graphQL =>
            cases request.body with
            | none => exact add_zero _
            | some operation =>
                exact (server.execute_kept client operation).symm
        | graphQLSubscription =>
            cases request.body with
            | none => exact add_zero _
            | some operation =>
                exact (server.executeStream_kept client operation).symm
        | playground => exact add_zero _
        | ok => exact add_zero _
        | metrics => exact add_zero _
        | health => exact add_zero _
  · rw [if_neg listens, if_neg listens, add_comm]

/-- The books of one resolved field. -/
theorem regrouped {before after sending : List Send}
    (sent : after = before ++ sending) (rest others : Multiset Bytes) :
    sentBytes before + (sentBytes sending + rest + others) =
      sentBytes after + (rest + others) := by
  rw [sent, sentBytes_append, add_assoc, add_assoc]

/-- The next field is sent, and the rest waits on or is abandoned. -/
theorem advance_kept (server : Server T) (index : Nat) :
    server.kept F =
      server.abandoned F (.advance index : ServerEvent R) +
        (server.advance (R := R) F index).1.kept F := by
  cases found : server.executions[index]? with
  | none =>
      simp only [advance, abandoned, found, zero_add]
  | some execution =>
      have picked := waitingIn_eraseIdx (F := F) found
      obtain ⟨client, remaining, answers⟩ := execution
      cases remaining with
      | nil =>
          simp only [advance, abandoned, found, zero_add]
          simpa [kept, waiting] using picked
      | cons field rest =>
          have sent :=
            field.resolve_sends (F := F) server.services.graphQL
              server.gateway
          rw [submissionsIn_cons] at picked
          cases outcome :
              field.resolve F server.services.graphQL server.gateway with
          | ok answer after =>
              rw [outcome] at sent
              simp only [advance, abandoned, found, outcome, zero_add]
              let advanced : Execution T := {
                client := client
                remaining := rest
                answers := answers ++ [answer] }
              calc
                server.kept F =
                    sentBytes server.sends +
                      (sentBytes (field.sending F).toList +
                          submissionsIn F rest +
                        waitingIn F (server.executions.eraseIdx index)) :=
                  congrArg _ picked
                _ = sentBytes after.sends +
                      (submissionsIn F rest +
                        waitingIn F (server.executions.eraseIdx index)) :=
                  regrouped sent _ _
                _ = sentBytes after.sends +
                      waitingIn F
                        (server.executions.set index advanced) :=
                  congrArg _ (waitingIn_set found advanced).symm
          | error fault after =>
              rw [outcome] at sent
              simp only [advance, abandoned, found, outcome]
              calc
                server.kept F =
                    sentBytes server.sends +
                      (sentBytes (field.sending F).toList +
                          submissionsIn F rest +
                        waitingIn F (server.executions.eraseIdx index)) :=
                  congrArg _ picked
                _ = sentBytes after.sends +
                      (submissionsIn F rest +
                        waitingIn F (server.executions.eraseIdx index)) :=
                  regrouped sent _ _
                _ = submissionsIn F rest +
                      (sentBytes after.sends +
                        waitingIn F (server.executions.eraseIdx index)) :=
                  add_left_comm _ _ _

/-- A restart keeps what was sent, and nothing waits any more. -/
theorem restart_kept
    (environment : Option String) (command : Command)
    (sessions : T.DapSessions) (server : Server T) :
    (server.restart F environment command sessions).kept F =
      sentBytes server.sends := by
  unfold restart
  cases exec F environment command server.worker.state.database with
  | ok node => exact add_zero _
  | error message => exact add_zero _

/-- Every event balances the books. -/
theorem event_kept
    (environment : Option String) (command : Command)
    (sessions : T.DapSessions) (server : Server T)
    (event : ServerEvent R) :
    server.kept F + event.submissions F =
      server.abandoned F event +
        (server.step F environment command sessions event).1.kept F := by
  cases event with
  | abci timed =>
      exact add_comm _ _
  | http client request =>
      exact server.receive_kept client request
  | advance index =>
      rw [ServerEvent.submissions, add_zero]
      exact server.advance_kept index
  | hangUp index =>
      rw [ServerEvent.submissions, add_zero]
      cases found : server.executions[index]? with
      | none =>
          have outside := List.getElem?_eq_none_iff.mp found
          simp only [abandoned, found, zero_add, step, kept, waiting,
            List.eraseIdx_of_length_le outside]
      | some execution =>
          have picked := waitingIn_eraseIdx (F := F) found
          simp only [abandoned, found, step, kept, waiting, picked]
          exact add_left_comm _ _ _
  | gossip poll =>
      exact add_comm _ _
  | restart =>
      rw [ServerEvent.submissions, add_zero]
      have restarted :=
        server.restart_kept (F := F) environment command sessions
      simp only [abandoned, step, restarted]
      exact add_comm _ _

end Server

/-! ## Every history -/

theorem decodes_of_mem_submissionsIn
    {fields : List (Mutation T)} {bytes : Bytes}
    (member : bytes ∈ submissionsIn F fields) :
    (F.fromBytes bytes).isSome := by
  obtain ⟨send, inSends, rfl⟩ :=
    List.mem_map.mp (Multiset.mem_coe.mp member)
  obtain ⟨field, _, sends⟩ := List.mem_filterMap.mp inSends
  cases field with
  | submit tx sent =>
      by_cases decodes : (F.fromBytes tx.bytes).isSome
      · simp only [Mutation.sending, if_pos decodes,
          Option.some.injEq] at sends
        rwa [← sends]
      · simp [Mutation.sending, decodes] at sends
  | dryRun tx utxoValidation => cases sends
  | debug request => cases sends
  | produceBlocks startTimestamp blocksToProduce => cases sends

theorem decodes_of_mem_submissions
    {event : ServerEvent R} {bytes : Bytes}
    (member : bytes ∈ event.submissions F) :
    (F.fromBytes bytes).isSome := by
  cases event with
  | http client request => exact decodes_of_mem_submissionsIn member
  | abci timed => exact absurd member (Multiset.notMem_zero bytes)
  | advance index => exact absurd member (Multiset.notMem_zero bytes)
  | hangUp index => exact absurd member (Multiset.notMem_zero bytes)
  | gossip poll => exact absurd member (Multiset.notMem_zero bytes)
  | restart => exact absurd member (Multiset.notMem_zero bytes)

/-- What was sent or waits is the encoding of a transaction. -/
def Server.Decodes (F : FuelCore T) (server : Server T) : Prop :=
  ∀ bytes ∈ server.kept F, (F.fromBytes bytes).isSome

theorem Server.Decodes.next
    (environment : Option String) (command : Command)
    (sessions : T.DapSessions) {server : Server T}
    (decodes : server.Decodes F) (event : ServerEvent R) :
    (server.step F environment command sessions event).1.Decodes F := by
  intro bytes member
  have there : bytes ∈ server.kept F + event.submissions F := by
    rw [server.event_kept environment command sessions event]
    exact Multiset.mem_add.mpr (Or.inr member)
  rcases Multiset.mem_add.mp there with before | submitted
  · exact decodes bytes before
  · exact decodes_of_mem_submissions submitted

/-- Nothing submitted gets lost or is doubled in the HTTP service.  Over every
interleaving, each submission of a document that was posted to the schema is
posted to rollkit, was sent without an answer, still waits, or was abandoned
with its document before its call came back, exactly as often as it was
submitted; and what is sent decodes. -/
theorem submissions_accounted_for
    (F : FuelCore T) (environment : Option String) (command : Command)
    (node : Node T) (sessions : T.DapSessions)
    (events : List (ServerEvent R)) :
    total (Server.machine F R environment command sessions).next
          (fun _ event => event.submissions F)
          (Server.boot node sessions) events =
        total (Server.machine F R environment command sessions).next
            (Server.abandoned F) (Server.boot node sessions) events +
          (postedIn
                ((Server.machine F R environment command sessions).after
                  (Server.boot node sessions) events).sends +
              unansweredIn
                ((Server.machine F R environment command sessions).after
                  (Server.boot node sessions) events).sends +
            ((Server.machine F R environment command sessions).after
                (Server.boot node sessions) events).waiting F) ∧
      ∀ send ∈
        ((Server.machine F R environment command sessions).after
          (Server.boot node sessions) events).sends,
        (F.fromBytes send.1).isSome := by
  have nothing : (Server.boot node sessions).kept F = 0 := rfl
  have initially : (Server.boot node sessions).Decodes F := by
    intro bytes member
    rw [nothing] at member
    exact absurd member (Multiset.notMem_zero bytes)
  have keeps :
      ∀ (server : Server T) (event : ServerEvent R),
        server.Decodes F →
          ((Server.machine F R environment command sessions).next
            server event).Decodes F :=
    fun _ event decodes =>
      decodes.next environment command sessions event
  constructor
  · have balance :=
      total_balance (Server.kept F) keeps
        (fun server event _ =>
          server.event_kept environment command sessions event)
        initially events
    rw [nothing, zero_add] at balance
    rw [← sentBytes_eq]
    exact balance
  · have decodes :
        ((Server.machine F R environment command sessions).after
          (Server.boot node sessions) events).Decodes F :=
      Machine.after_keeps keeps initially events
    intro send sent
    apply decodes
    have here :
        send.1 ∈ sentBytes
          ((Server.machine F R environment command sessions).after
            (Server.boot node sessions) events).sends :=
      Multiset.mem_coe.mpr (List.mem_map_of_mem sent)
    exact Multiset.mem_add.mpr (Or.inl here)

end Fuelmint
