import Fuelmint.Primitives

/-!
# ABCI requests and responses

The cases of the Rust `Request` and `Response` enums.  A request carries the
fields that the application or the relayer reads; a response carries the
fields a handler fills in and the ones ABCI sets to their default.  Records
nested in a response that are never filled in stay byte strings.
-/

namespace Fuelmint

inductive Request where
  | info
  | setOption (key value : String)
  | initChain
  | query (path : String) (data : Bytes)
  | flush
  | echo (message : String)
  | beginBlock (height : Int64)
  | checkTx (tx : Bytes)
  | deliverTx (tx : Bytes)
  | endBlock (height : Int64)
  | commit
  | listSnapshots
  | offerSnapshot
  | loadSnapshotChunk
  | applySnapshotChunk
  deriving DecidableEq

structure Event where
  kind : String
  attributes : List (String × String)
  deriving DecidableEq

namespace Response

structure Info where
  data : String
  version : String
  appVersion : UInt64
  lastBlockHeight : Height
  lastBlockAppHash : Bytes
  deriving DecidableEq

structure SetOption where
  code : UInt32 := 0
  log : String := ""
  info : String := ""
  deriving DecidableEq

structure InitChain where
  consensusParams : Option Bytes := none
  validators : List Bytes := []
  appHash : Bytes := []
  deriving DecidableEq

structure Query where
  code : UInt32 := 0
  log : String := ""
  info : String := ""
  index : Int64 := 0
  key : Bytes := []
  value : Bytes := []
  proof : Option Bytes := none
  height : Height := Height.default
  codespace : String := ""
  deriving DecidableEq

structure Echo where
  message : String := ""
  deriving DecidableEq

structure BeginBlock where
  events : List Event := []
  deriving DecidableEq

structure CheckTx where
  code : UInt32 := 0
  data : Bytes := []
  log : String := ""
  info : String := ""
  gasWanted : Int64 := 0
  gasUsed : Int64 := 0
  events : List Event := []
  codespace : String := ""
  deriving DecidableEq

structure DeliverTx where
  code : UInt32 := 0
  data : Bytes := []
  log : String := ""
  info : String := ""
  gasWanted : Int64 := 0
  gasUsed : Int64 := 0
  events : List Event := []
  codespace : String := ""
  deriving DecidableEq

structure EndBlock where
  validatorUpdates : List Bytes := []
  consensusParamUpdates : Option Bytes := none
  events : List Event := []
  deriving DecidableEq

structure Commit where
  data : Bytes
  retainHeight : UInt32
  deriving DecidableEq

structure ListSnapshots where
  snapshots : List Bytes := []
  deriving DecidableEq

/-- `UNKNOWN` is the default verdict on a snapshot or a chunk. -/
inductive SnapshotVerdict where
  | unknown
  | accept
  | abort
  | retry
  | reject
  deriving DecidableEq

structure OfferSnapshot where
  result : SnapshotVerdict := .unknown
  deriving DecidableEq

structure LoadSnapshotChunk where
  chunk : Bytes := []
  deriving DecidableEq

structure ApplySnapshotChunk where
  result : SnapshotVerdict := .unknown
  refetchChunks : List UInt32 := []
  rejectSenders : List String := []
  deriving DecidableEq

end Response

inductive Response where
  | info (answer : Response.Info)
  | setOption (answer : Response.SetOption)
  | initChain (answer : Response.InitChain)
  | query (answer : Response.Query)
  | flush
  | echo (answer : Response.Echo)
  | beginBlock (answer : Response.BeginBlock)
  | checkTx (answer : Response.CheckTx)
  | deliverTx (answer : Response.DeliverTx)
  | endBlock (answer : Response.EndBlock)
  | commit (answer : Response.Commit)
  | listSnapshots (answer : Response.ListSnapshots)
  | offerSnapshot (answer : Response.OfferSnapshot)
  | loadSnapshotChunk (answer : Response.LoadSnapshotChunk)
  | applySnapshotChunk (answer : Response.ApplySnapshotChunk)
  deriving DecidableEq

end Fuelmint
