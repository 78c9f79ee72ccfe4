import Fuelmint.SideDoors

/-!
# What a successful submission says

`submit` posts the transaction to `broadcast_tx_commit`, which answers when
rollkit has checked and delivered it, or has refused it.  The resolver waits
for the answer and drops it: only a call without an answer is an error.
-/

namespace Fuelmint

open Foundation

variable {T : Types} {F : FuelCore T}

/-! ## Rollkit behind the call -/

/-- The requests that rollkit sends to the application while a submission of
these bytes is waiting, and the outcome of the call. -/
abbrev Rollkit (T : Types) :=
  World T → Bytes → List TimedRequest × SendOutcome

def RpcBody.isSuccess : RpcBody → Bool
  | .error _ => false
  | .result codes => codes.checkTxCode == 0 && codes.deliverTxCode == 0

def HttpResponse.isSuccess (response : HttpResponse) : Bool :=
  200 ≤ response.status && response.status < 300 &&
    response.body.isSuccess

/-- The call was answered, and neither the status nor the body reports a
refusal. -/
def reportsSuccess : SendOutcome → Bool
  | .ok response => response.isSuccess
  | .error _ => false

/-- The application answered DeliverTx for these bytes with code 0. -/
def AnswersDeliverTx (F : FuelCore T) (start : World T)
    (requests : List TimedRequest) (bytes : Bytes) : Prop :=
  ∃ before now after reached answer next,
    requests = before ++ (now, .deliverTx bytes) :: after ∧
      Answered (serveRequest F) before start reached ∧
      App.call F now (.deliverTx bytes) reached =
        .ok (.deliverTx answer) next ∧
      answer.code = 0

/-- Rollkit reports a refusal in the status or in the body: without one, the
application answered the delivery with code 0. -/
structure RollkitLaws (F : FuelCore T) (rollkit : Rollkit T) : Prop where
  reports :
    ∀ (world : World T) (bytes : Bytes),
      reportsSuccess (rollkit world bytes).2 = true →
        AnswersDeliverTx F world (rollkit world bytes).1 bytes

/-- A DeliverTx for these bytes was answered with code 0 and put this
transaction into the pool. -/
def Delivered (F : FuelCore T) (start : World T)
    (requests : List TimedRequest) (bytes : Bytes) (tx : T.Tx) : Prop :=
  ∃ before now after reached answer next inserted,
    requests = before ++ (now, .deliverTx bytes) :: after ∧
      Answered (serveRequest F) before start reached ∧
      App.call F now (.deliverTx bytes) reached =
        .ok (.deliverTx answer) next ∧
      answer.code = 0 ∧
      F.fromBytes bytes = some tx ∧
      F.insert reached.app.txPool reached.database reached.pool tx =
        (.ok inserted, next.pool)

/-- What is answered with code 0 was decoded and inserted. -/
theorem AnswersDeliverTx.delivered
    {start : World T} {requests : List TimedRequest} {bytes : Bytes}
    {tx : T.Tx} (answers : AnswersDeliverTx F start requests bytes)
    (decoded : F.fromBytes bytes = some tx) :
    Delivered F start requests bytes tx := by
  obtain ⟨before, now, after, reached, answer, next, split, served,
    answered, code⟩ := answers
  have transition := call_ok.mp answered
  cases transition with
  | unhandled default => cases default
  | deliverTx decodedThere insertion =>
      rw [decoded] at decodedThere
      cases decodedThere
      exact ⟨before, now, after, reached, _, _, _, split, served, answered,
        code, decoded, insertion⟩

/-! ## The resolver -/

/-- `submit` as two tests: do the bytes decode, was the call answered. -/
theorem TxMutation.submit_eq
    (tx : HexString) (sent : SendOutcome) (gateway : Gateway T) :
    TxMutation.submit F tx sent gateway =
      match F.fromBytes tx.bytes with
      | none => .error .fromBytes gateway
      | some fuelTx =>
          let after :=
            { gateway with sends := gateway.sends ++ [(tx.bytes, sent)] }
          match sent with
          | .ok _ => .ok fuelTx after
          | .error message => .error (.error message) after := by
  unfold TxMutation.submit
  rw [HexString.unwrap_bytes]
  cases F.fromBytes tx.bytes with
  | none =>
      rfl
  | some fuelTx =>
      cases sent <;> rfl

/-- A submission that is answered posted exactly these bytes, rollkit accepted
them, and the application put the returned transaction into its pool; any
other submission ends in an error, not in a panic. -/
def SubmitTruthful (F : FuelCore T) (rollkit : Rollkit T)
    (world : World T) (gateway : Gateway T) (tx : HexString) : Prop :=
  match TxMutation.submit F tx (rollkit world tx.bytes).2 gateway with
  | .ok submitted after =>
      after.posted = gateway.posted ++ [tx.bytes] ∧
        reportsSuccess (rollkit world tx.bytes).2 = true ∧
        Delivered F world (rollkit world tx.bytes).1 tx.bytes submitted
  | .error fault _ => fault ≠ .unwrapNone

/-- A submission is truthful exactly when the bytes do not decode, the call is
not answered, or the answer reports success. -/
theorem submit_truthful_iff
    {rollkit : Rollkit T} (laws : RollkitLaws F rollkit)
    (world : World T) (gateway : Gateway T) (tx : HexString) :
    SubmitTruthful F rollkit world gateway tx ↔
      F.fromBytes tx.bytes = none ∨
        (∃ message, (rollkit world tx.bytes).2 = .error message) ∨
        reportsSuccess (rollkit world tx.bytes).2 = true := by
  unfold SubmitTruthful
  rw [TxMutation.submit_eq]
  cases decoded : F.fromBytes tx.bytes with
  | none =>
      simp
  | some fuelTx =>
      cases sent : (rollkit world tx.bytes).2 with
      | error message =>
          simp
      | ok response =>
          constructor
          · rintro ⟨_, success, _⟩
            exact Or.inr (Or.inr success)
          · rintro (undecoded | ⟨message, unanswered⟩ | success)
            · cases undecoded
            · cases unanswered
            · have answers :=
                laws.reports world tx.bytes (by rw [sent]; exact success)
              have posted :
                  postedIn (gateway.sends ++ [(tx.bytes, .ok response)]) =
                    postedIn gateway.sends ++ [tx.bytes] := by
                simp [postedIn]
              exact ⟨posted, success, answers.delivered decoded⟩

/-- Refusals in the status, in an error object and in either code. -/
def refusals : List SendOutcome :=
  [.ok { status := 500, body := .error "internal error" },
    .ok { status := 500, body := .result ⟨0, 0⟩ },
    .ok { status := 200, body := .error "tx already exists in cache" },
    .ok { status := 200, body := .result ⟨1, 0⟩ },
    .ok { status := 200, body := .result ⟨0, 1⟩ }]

/-- A rollkit that answers so and delivers nothing. -/
def refusing (sent : SendOutcome) : Rollkit T :=
  fun _ _ => ([], sent)

/-- Whatever the transaction is, each refusal is reported, and each is taken
for a success. -/
theorem refusal_taken_for_success
    {tx : HexString} (decodes : (F.fromBytes tx.bytes).isSome)
    (world : World T) (gateway : Gateway T) :
    ∀ sent ∈ refusals,
      RollkitLaws F (refusing sent) ∧
        ¬ SubmitTruthful F (refusing sent) world gateway tx := by
  obtain ⟨fuelTx, decoded⟩ := Option.isSome_iff_exists.mp decodes
  have refused :
      ∀ sent ∈ refusals,
        reportsSuccess sent = false ∧ ∃ response, sent = .ok response := by
    simp [refusals, reportsSuccess, HttpResponse.isSuccess,
      RpcBody.isSuccess]
  intro sent member
  obtain ⟨refusal, response, rfl⟩ := refused sent member
  have laws : RollkitLaws F (refusing (.ok response)) := by
    constructor
    intro _ _ success
    rw [refusing, refusal] at success
    cases success
  refine ⟨laws, ?_⟩
  intro truthful
  unfold SubmitTruthful at truthful
  rw [TxMutation.submit_eq, decoded] at truthful
  have success : reportsSuccess (.ok response) = true := truthful.2.1
  rw [refusal] at success
  cases success

/-- A rollkit that delivers what it is posted in the first block and reports
what the application answered. -/
def delivering (F : FuelCore T) : Rollkit T :=
  fun world bytes =>
    match serveRequest F (3, .deliverTx bytes) world with
    | .ok _ _ =>
        ([(1, .checkTx bytes), (2, .beginBlock 1), (3, .deliverTx bytes),
            (4, .endBlock 1), (5, .commit)],
          .ok { status := 200, body := .result ⟨0, 0⟩ })
    | .error _ _ =>
        ([(1, .checkTx bytes), (2, .beginBlock 1), (3, .deliverTx bytes)],
          .ok { status := 500, body := .error "EOF" })

theorem delivering_laws : RollkitLaws F (delivering F) where
  reports := by
    intro world bytes success
    unfold delivering at success ⊢
    cases outcome : serveRequest F (3, .deliverTx bytes) world with
    | error panic stuck =>
        rw [outcome] at success
        cases success
    | ok answer next =>
        have transition := serveRequest_ok.mp outcome
        cases transition with
        | unhandled default => cases default
        | deliverTx decoded insertion =>
            exact ⟨[(1, .checkTx bytes), (2, .beginBlock 1)], 3, _, world,
              _, _, rfl, ⟨_, rfl⟩, outcome, rfl⟩

section EmptyScript

open LocalTestnet

/-- The word at an index of an encoding, big-endian. -/
def wordAt (bytes : Bytes) (index : Nat) : Nat :=
  ((bytes.drop (8 * index)).take 8).foldl
    (fun word byte => 256 * word + byte.toNat) 0

/-- The fixed part of a script transaction: its kind, gas price, gas limit and
maturity, the sizes of script, data, inputs, outputs and witnesses, and 32
bytes for the receipts.  Only transactions without any of the five are read;
the small chain tells them apart by their maturity. -/
def decodeScript (bytes : Bytes) : Option Transfer :=
  if bytes.length = 104 ∧ wordAt bytes 0 = 0 ∧
      [4, 5, 6, 7, 8].all fun size => wordAt bytes size == 0 then
    some {
      id := .transfer (wordAt bytes 3)
      gasPrice := wordAt bytes 1
      gas := wordAt bytes 2
      spends := [] }
  else
    none

/-- The small chain with the encoding of the crate. -/
def scriptChain : FuelCore types :=
  { core with fromBytes := decodeScript }

/-- The script transaction that does nothing. -/
def emptyScript : HexString where
  bytes := List.replicate 104 0

theorem fromBytes_emptyScript :
    scriptChain.fromBytes emptyScript.bytes =
      some { id := .transfer 0, gasPrice := 0, gas := 0, spends := [] } :=
  rfl

/-- The GraphQL side of the first node. -/
def firstGateway : Gateway types :=
  (System.boot firstNode 0).gateway

/-- The empty script decodes, and any transaction does as well: each refusal
is reported, and each is taken for a success. -/
theorem submit_drops_refusals :
    ((scriptChain.fromBytes emptyScript.bytes).isSome ∧
        ∀ sent ∈ refusals,
          RollkitLaws scriptChain (refusing sent) ∧
            ¬ SubmitTruthful scriptChain (refusing sent) firstNode.world
              firstGateway emptyScript) ∧
      ∀ (T : Types) (F : FuelCore T) (tx : HexString) (world : World T)
        (gateway : Gateway T),
        (F.fromBytes tx.bytes).isSome →
          ∀ sent ∈ refusals,
            RollkitLaws F (refusing sent) ∧
              ¬ SubmitTruthful F (refusing sent) world gateway tx := by
  have decodes : (scriptChain.fromBytes emptyScript.bytes).isSome := by
    rw [fromBytes_emptyScript]
    rfl
  refine ⟨⟨decodes, ?_⟩, ?_⟩
  · exact refusal_taken_for_success decodes firstNode.world firstGateway
  · intro T F tx world gateway decodes
    exact refusal_taken_for_success decodes world gateway

theorem submit_truthful_delivered :
    SubmitTruthful scriptChain (delivering scriptChain) firstNode.world
      firstGateway emptyScript := by
  have answered :
      serveRequest scriptChain (3, .deliverTx emptyScript.bytes)
        firstNode.world = .ok _ _ :=
    call_ok.mpr (Transition.deliverTx fromBytes_emptyScript rfl)
  have success :
      reportsSuccess
        (delivering scriptChain firstNode.world emptyScript.bytes).2 =
          true := by
    simp only [delivering, answered]
    rfl
  have laws : RollkitLaws scriptChain (delivering scriptChain) :=
    delivering_laws
  rw [submit_truthful_iff laws]
  exact Or.inr (Or.inr success)

end EmptyScript

end Fuelmint
