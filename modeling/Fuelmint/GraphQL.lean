import Fuelmint.BlockContents
import Fuelmint.Foundation.Hex

/-!
# GraphQL next to ABCI

The mutations of the schema work on the same pool and database as the ABCI
application.  A system is the application worker together with the GraphQL
service and the gossip side of the pool; its events are served one by one, in
any order.
-/

namespace Fuelmint

open Foundation

variable {T : Types}

/-! ## Mutations -/

/-- The hex scalar of the schema. -/
structure HexString where
  bytes : Bytes
  deriving DecidableEq

def HexString.toString (tx : HexString) : List Char :=
  ['0', 'x'] ++ Hex.encode tx.bytes

/-- The codes of a JSON-RPC result of `broadcast_tx_commit`. -/
structure BroadcastResult where
  checkTxCode : UInt32
  deliverTxCode : UInt32

inductive RpcBody where
  | error (message : String)
  | result (codes : BroadcastResult)

structure HttpResponse where
  status : UInt16
  body : RpcBody

/-- What `send` comes back with: a response of any status, or the error of the
transport. -/
abbrev SendOutcome := Except String HttpResponse

/-- A call of `send`: the bytes in the body of its request, and its outcome. -/
abbrev Send := Bytes × SendOutcome

/-- The bytes that a server answered the post of. -/
def postedIn (sends : List Send) : List Bytes :=
  sends.filterMap fun send =>
    match send.2 with
    | .ok _ => some send.1
    | .error _ => none

/-- The bytes of the sends that failed.  Nobody knows whether they left. -/
def unansweredIn (sends : List Send) : List Bytes :=
  sends.filterMap fun send =>
    match send.2 with
    | .ok _ => none
    | .error _ => some send.1

/-- The mutations of the merged schema.  A submission comes with the outcome
of its request to rollkit. -/
inductive Mutation (T : Types) where
  | dryRun (tx : HexString) (utxoValidation : Option Bool)
  | submit (tx : HexString) (sent : SendOutcome)
  | debug (request : T.DapRequest)
  | produceBlocks (startTimestamp : Option Tai64)
      (blocksToProduce : UInt64)

inductive MutationAnswer (T : Types) where
  | dryRun (receipts : List T.Receipt)
  | submit (tx : T.Tx)
  | debug
  | produceBlocks (height : UInt64)

/-- How a resolver ends without an answer: an unwrap of `None`, or an error of
the decoder, the producer, the transport or the schema. -/
inductive MutationFault where
  | unwrapNone
  | fromBytes
  | error (message : String)
  deriving DecidableEq

/-- What the resolvers see and write: the shared stores, the sessions of the
debugger and the calls of `send`. -/
structure Gateway (T : Types) extends Shared T where
  sessions : T.DapSessions
  sends : List Send

/-- What was posted to rollkit. -/
def Gateway.posted (gateway : Gateway T) : List Bytes :=
  postedIn gateway.sends

abbrev Resolver (T : Types) (Result : Type) :=
  EStateM MutationFault (Gateway T) Result

def unwrapSome {Result : Type} : Option Result → Resolver T Result
  | some value => pure value
  | none => throw .unwrapNone

namespace TxMutation

variable (F : FuelCore T)

def dryRun (context : GraphQLContext T) (tx : HexString)
    (utxoValidation : Option Bool) : Resolver T (List T.Receipt) := do
  let hexString := tx.toString
  let text ← unwrapSome (['0', 'x'].isPrefixOf? hexString)
  let bytes ← unwrapSome (Hex.decode text)
  match F.fromBytes bytes with
  | none => throw .fromBytes
  | some tx =>
      let gateway ← get
      let (result, shared) :=
        F.dryRunTx context.producer gateway.toShared tx none
          utxoValidation
      set { gateway with toShared := shared }
      match result with
      | .ok receipts => return receipts
      | .error message => throw (.error message)

/-- The response is dropped: only a failure to send is an error. -/
def submit (tx : HexString) (sent : SendOutcome) : Resolver T T.Tx := do
  let hexString := tx.toString
  let text ← unwrapSome (['0', 'x'].isPrefixOf? hexString)
  let bytes ← unwrapSome (Hex.decode text)
  match F.fromBytes bytes with
  | none => throw .fromBytes
  | some fuelTx =>
      modify fun gateway =>
        { gateway with sends := gateway.sends ++ [(bytes, sent)] }
      match sent with
      | .ok _ => return fuelTx
      | .error message => throw (.error message)

end TxMutation

def DapMutation.debug (F : FuelCore T) (context : GraphQLContext T)
    (request : T.DapRequest) : Resolver T Unit := do
  let gateway ← get
  let (sessions, shared) :=
    F.dapMutation context gateway.toShared gateway.sessions request
  set { gateway with toShared := shared, sessions := sessions }

def BlockMutation.produceBlocks (F : FuelCore T)
    (context : GraphQLContext T) (startTimestamp : Option Tai64)
    (blocksToProduce : UInt64) : Resolver T UInt64 := do
  let gateway ← get
  let (result, shared) :=
    F.produceBlocks context gateway.toShared startTimestamp
      blocksToProduce
  set { gateway with toShared := shared }
  match result with
  | .ok height => return height
  | .error message => throw (.error message)

def Mutation.resolve (F : FuelCore T) (context : GraphQLContext T) :
    Mutation T → Resolver T (MutationAnswer T)
  | .dryRun tx utxoValidation =>
      return .dryRun (← TxMutation.dryRun F context tx utxoValidation)
  | .submit tx sent => return .submit (← TxMutation.submit F tx sent)
  | .debug request => do
      DapMutation.debug F context request
      return .debug
  | .produceBlocks startTimestamp blocksToProduce =>
      return .produceBlocks
        (← BlockMutation.produceBlocks F context startTimestamp
          blocksToProduce)

variable {F : FuelCore T}

/-- The two unwraps of the resolvers never meet `None`: what follows them gets
the bytes of the scalar. -/
theorem HexString.unwrap_bytes {Result : Type} (tx : HexString)
    (next : Bytes → Resolver T Result) :
    (do
      let text ← unwrapSome (['0', 'x'].isPrefixOf? tx.toString)
      let bytes ← unwrapSome (Hex.decode text)
      next bytes) = next tx.bytes := by
  have stripped :
      ['0', 'x'].isPrefixOf? tx.toString = some (Hex.encode tx.bytes) :=
    rfl
  rw [stripped]
  change
    (do
      let bytes ← unwrapSome (Hex.decode (Hex.encode tx.bytes))
      next bytes) = _
  rw [Hex.decode_encode]
  rfl

/-! ## No mutation writes the shared stores -/

section Frames

variable {context : GraphQLContext T}

theorem TxMutation.dryRun_frames
    (laws : GraphQLLaws F) (tx : HexString)
    (utxoValidation : Option Bool) :
    Frames Gateway.toShared
      (TxMutation.dryRun F context tx utxoValidation) := by
  unfold TxMutation.dryRun
  rw [HexString.unwrap_bytes]
  cases F.fromBytes tx.bytes with
  | none =>
      exact Frames.throw _
  | some decoded =>
      apply Frames.get_bind
      intro gateway
      apply Frames.set_bind
      · exact laws.dryRun context.producer gateway.toShared decoded none
          utxoValidation
      · cases (F.dryRunTx context.producer gateway.toShared decoded none
            utxoValidation).1 with
        | ok receipts => exact Frames.pure receipts
        | error message => exact Frames.throw _

theorem TxMutation.submit_frames (tx : HexString) (sent : SendOutcome) :
    Frames Gateway.toShared (TxMutation.submit F tx sent) := by
  unfold TxMutation.submit
  rw [HexString.unwrap_bytes]
  cases F.fromBytes tx.bytes with
  | none =>
      exact Frames.throw _
  | some decoded =>
      refine Frames.bind (Frames.update (fun _ => rfl)) ?_
      intro _
      cases sent with
      | ok response => exact Frames.pure decoded
      | error message => exact Frames.throw _

theorem DapMutation.debug_frames
    (laws : GraphQLLaws F) (request : T.DapRequest) :
    Frames Gateway.toShared (DapMutation.debug F context request) := by
  apply Frames.get_bind
  intro gateway
  exact laws.debugger context gateway.toShared gateway.sessions request

/-- Without a consensus module there is nobody to produce the blocks. -/
theorem BlockMutation.produceBlocks_frames
    (laws : GraphQLLaws F)
    (refusing : context.consensusModule = PoAAdapter.new none)
    (startTimestamp : Option Tai64) (blocksToProduce : UInt64) :
    Frames Gateway.toShared
      (BlockMutation.produceBlocks F context startTimestamp
        blocksToProduce) := by
  apply Frames.get_bind
  intro gateway
  have throughConsensus :
      (F.manuallyProduceBlocks context.consensusModule gateway.toShared
          startTimestamp blocksToProduce).2 =
        gateway.toShared := by
    obtain ⟨message, refused⟩ :=
      laws.refuses gateway.toShared startTimestamp blocksToProduce
    rw [refusing, refused]
  apply Frames.set_bind
  · exact laws.producesThroughConsensus context gateway.toShared
      startTimestamp blocksToProduce throughConsensus
  · cases (F.produceBlocks context gateway.toShared startTimestamp
        blocksToProduce).1 with
    | ok height => exact Frames.pure height
    | error message => exact Frames.throw _

theorem Mutation.resolve_frames
    (laws : GraphQLLaws F)
    (refusing : context.consensusModule = PoAAdapter.new none)
    (mutation : Mutation T) :
    Frames Gateway.toShared (mutation.resolve F context) := by
  cases mutation with
  | dryRun tx utxoValidation =>
      exact Frames.bind (TxMutation.dryRun_frames laws tx utxoValidation)
        (fun receipts => Frames.pure _)
  | submit tx sent =>
      exact Frames.bind (TxMutation.submit_frames tx sent)
        (fun submitted => Frames.pure _)
  | debug request =>
      exact Frames.bind (DapMutation.debug_frames laws request)
        (fun _ => Frames.pure _)
  | produceBlocks startTimestamp blocksToProduce =>
      exact Frames.bind
        (BlockMutation.produceBlocks_frames laws refusing startTimestamp
          blocksToProduce)
        (fun height => Frames.pure _)

end Frames

end Fuelmint
