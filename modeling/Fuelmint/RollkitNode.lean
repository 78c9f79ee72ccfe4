import Fuelmint.Foundation.Actions
import Fuelmint.Foundation.FixedWidth
import Fuelmint.Foundation.Hex

/-!
# From the flags of the Go node to its configuration

`newRollup` reads the Tendermint configuration and the flags, fills in a
`NodeConfig` and creates the rollkit node with it.  The packages it calls are
parameters; the record it fills in is the repository's.
-/

namespace Fuelmint

open Foundation

/-! ## Packages the node is built with -/

/-- Types of these packages that `newRollup` only passes on. -/
structure GoTypes where
  Settings : Type
  TendermintConfig : Type
  /-- The fields of a node configuration that come from Tendermint's. -/
  Translated : Type
  Logger : Type
  FilePV : Type
  NodeKey : Type
  PrivKey : Type
  GenesisDoc : Type
  Application : Type
  Client : Type
  Node : Type
  Server : Type

/-- What comes of a function that does not hand back its value: an error, a
panic, or the end of the process. -/
inductive Failure where
  | error (err : String)
  | panic (err : String)
  | exit (code : Nat)
  deriving DecidableEq

/-- Errors get the text of the caller in front; the rest passes through. -/
def Failure.wrap (text : String) : Failure → Failure
  | .error err => .error (text ++ err)
  | .panic err => .panic err
  | .exit code => .exit code

/-- `time.Duration`: nanoseconds in an `int64`. -/
abbrev Duration := Int64

/-- `time.Second`. -/
def Duration.second : Duration := 1000000000

structure BlockManagerConfig where
  blockTime : Duration
  fraudProofs : Bool
  daStartHeight : UInt64
  deriving DecidableEq

structure NodeConfig (G : GoTypes) where
  aggregator : Bool
  blockManagerConfig : BlockManagerConfig
  daLayer : String
  daConfig : String
  namespaceId : Vector UInt8 8
  translated : G.Translated

structure GoPackages (G : GoTypes) where
  dir : String → String
  defaultConfig : G.TendermintConfig
  setRootDir : G.TendermintConfig → String → G.TendermintConfig
  readInConfig : String → Except String G.Settings
  unmarshal :
    G.Settings → G.TendermintConfig → Except String G.TendermintConfig
  validateBasic : G.TendermintConfig → Except String Unit
  /-- What `hex.DecodeString` says of a text that it refuses. -/
  decodeError : String → String
  zeroTranslated : G.Translated
  getNodeConfig : NodeConfig G → G.TendermintConfig → NodeConfig G
  translateAddresses : NodeConfig G → Except String (NodeConfig G)
  parseLogLevel : G.TendermintConfig → Except String G.Logger
  /-- It hands back no error: with a key that it cannot read it exits. -/
  loadFilePV : G.TendermintConfig → Except Failure G.FilePV
  loadNodeKey : G.TendermintConfig → Except String G.NodeKey
  /-- The node key made of the key of the validator. -/
  validatorKey : G.FilePV → G.NodeKey
  getNodeKey : G.NodeKey → Except String G.PrivKey
  genesisDocFromFile : G.TendermintConfig → Except String G.GenesisDoc
  newABCIClient : G.Application → Except String G.Client
  /-- The client it is given is the relayer, which may panic in a call. -/
  newNode :
    NodeConfig G → G.PrivKey → G.PrivKey → G.Client → G.GenesisDoc →
      G.Logger → Except Failure G.Node
  newServer : G.Node → G.TendermintConfig → G.Logger → G.Server

/-! ## The node -/

/-- The flags that `newRollup` reads, with their defaults. -/
structure Flags where
  namespaceId : String := "0000000000000000"
  daStartHeight : UInt64 := 0
  aggregator : Bool := true
  daLayer : String := "celestia"
  daConfig : String :=
    "\x7b\"base_url\":\"http://localhost:26659\",\"timeout\":60000000000,\"gas_limit\":6000000,\"fee\":6000\x7d"
  fraudProofs : Bool := false
  blockTime : UInt64 := 5
  deriving DecidableEq

section NewRollup

variable {G : GoTypes} (P : GoPackages G)

def decodeString (text : String) : Except String (List UInt8) :=
  match Hex.decode text.toList with
  | some bytes => .ok bytes
  | none => .error (P.decodeError text)

/-- The record that `newRollup` fills in, with the decoded namespace copied
over its array of zeros. -/
def Flags.nodeConfig (flags : Flags) (bytes : List UInt8) :
    NodeConfig G where
  aggregator := true
  blockManagerConfig := {
    blockTime := flags.blockTime.toInt64 * Duration.second
    fraudProofs := flags.fraudProofs
    daStartHeight := flags.daStartHeight }
  daLayer := "celestia"
  daConfig := flags.daConfig
  namespaceId := FixedWidth.copyInto (Vector.replicate 8 0) bytes
  translated := P.zeroTranslated

/-- The node and its server, with the configuration that the node was created
with. -/
structure Rollup (G : GoTypes) where
  nodeConfig : NodeConfig G
  node : G.Node
  server : G.Server

def newRollup (flags : Flags) (app : G.Application)
    (configFile : String) : Except Failure (Rollup G) := do
  let config :=
    P.setRootDir P.defaultConfig (P.dir (P.dir configFile))
  let settings ←
    (P.readInConfig configFile).mapError fun err =>
      .error ("viper failed to read config file: " ++ err)
  let config ←
    (P.unmarshal settings config).mapError fun err =>
      .error ("viper failed to unmarshal config: " ++ err)
  (P.validateBasic config).mapError fun err =>
    .error ("config is invalid: " ++ err)
  let bytes ← (decodeString P flags.namespaceId).mapError .error
  let nodeConfig := P.getNodeConfig (flags.nodeConfig P bytes) config
  let nodeConfig ← (P.translateAddresses nodeConfig).mapError .error
  let logger ←
    (P.parseLogLevel config).mapError fun err =>
      .error ("failed to parse log level: " ++ err)
  let pv ← P.loadFilePV config
  let nodeKey ←
    (P.loadNodeKey config).mapError fun err =>
      .error ("failed to load node's key: " ++ err)
  let p2pKey ← (P.getNodeKey nodeKey).mapError .error
  let signingKey ← (P.getNodeKey (P.validatorKey pv)).mapError .error
  let genesisDoc ← (P.genesisDocFromFile config).mapError .error
  let client ← (P.newABCIClient app).mapError .error
  let node ←
    (P.newNode nodeConfig p2pKey signingKey client genesisDoc
      logger).mapError (Failure.wrap "failed to create new rollkit node: ")
  let server := P.newServer node config logger
  return { nodeConfig := nodeConfig, node := node, server := server }

end NewRollup

/-! ## What the configuration takes from the flags -/

section Image

variable {G : GoTypes} {P : GoPackages G}

/-- The fields that flags are meant for. -/
def NodeConfig.flagFields (nodeConfig : NodeConfig G) :
    Vector UInt8 8 × Duration × Bool × String :=
  (nodeConfig.namespaceId, nodeConfig.blockManagerConfig.blockTime,
    nodeConfig.aggregator, nodeConfig.daLayer)

/-- The two translations from the Tendermint configuration write other
fields. -/
structure TranslationLaws (P : GoPackages G) : Prop where
  getNodeConfig :
    ∀ (nodeConfig : NodeConfig G) (config : G.TendermintConfig),
      (P.getNodeConfig nodeConfig config).flagFields =
        nodeConfig.flagFields
  translateAddresses :
    ∀ {nodeConfig translated : NodeConfig G},
      P.translateAddresses nodeConfig = .ok translated →
        translated.flagFields = nodeConfig.flagFields

theorem decodeString_ok {text : String} {bytes : List UInt8} :
    decodeString P text = .ok bytes ↔
      Hex.decode text.toList = some bytes := by
  unfold decodeString
  cases Hex.decode text.toList with
  | none =>
      simp
  | some decoded =>
      simp

/-- A node that is created has decoded its namespace, and the four fields of
the record that was filled in. -/
theorem newRollup_ok
    (laws : TranslationLaws P) {flags : Flags} {app : G.Application}
    {configFile : String} {rollup : Rollup G}
    (built : newRollup P flags app configFile = .ok rollup) :
    ∃ bytes,
      Hex.decode flags.namespaceId.toList = some bytes ∧
        rollup.nodeConfig.flagFields =
          (flags.nodeConfig P bytes).flagFields := by
  unfold newRollup at built
  obtain ⟨settings, _, built⟩ := except_bind_ok_iff.mp built
  obtain ⟨config, _, built⟩ := except_bind_ok_iff.mp built
  obtain ⟨_, _, built⟩ := except_bind_ok_iff.mp built
  obtain ⟨bytes, decoded, built⟩ := except_bind_ok_iff.mp built
  obtain ⟨nodeConfig, translated, built⟩ := except_bind_ok_iff.mp built
  obtain ⟨logger, _, built⟩ := except_bind_ok_iff.mp built
  obtain ⟨pv, _, built⟩ := except_bind_ok_iff.mp built
  obtain ⟨nodeKey, _, built⟩ := except_bind_ok_iff.mp built
  obtain ⟨p2pKey, _, built⟩ := except_bind_ok_iff.mp built
  obtain ⟨signingKey, _, built⟩ := except_bind_ok_iff.mp built
  obtain ⟨genesisDoc, _, built⟩ := except_bind_ok_iff.mp built
  obtain ⟨client, _, built⟩ := except_bind_ok_iff.mp built
  obtain ⟨node, _, built⟩ := except_bind_ok_iff.mp built
  cases built
  have bytesDecoded := except_mapError_ok_iff.mp decoded
  have addresses := except_mapError_ok_iff.mp translated
  refine ⟨bytes, decodeString_ok.mp bytesDecoded, ?_⟩
  rw [laws.translateAddresses addresses, laws.getNodeConfig]

/-- The configuration says what the flags say: the namespace is the decoded
byte string, the block time is that many seconds, and so on. -/
structure FaithfulImage (flags : Flags) (nodeConfig : NodeConfig G) :
    Prop where
  namespaceId :
    Hex.decode flags.namespaceId.toList =
      some nodeConfig.namespaceId.toList
  blockTime :
    nodeConfig.blockManagerConfig.blockTime.toInt =
      flags.blockTime.toNat * 1000000000
  aggregator : nodeConfig.aggregator = flags.aggregator
  daLayer : nodeConfig.daLayer = flags.daLayer

/-- The flags that have such an image: eight bytes, a block time within the
range of a duration, and the two values that are written for any flag. -/
structure Flags.Representable (flags : Flags) : Prop where
  namespaceId :
    ∃ bytes,
      Hex.decode flags.namespaceId.toList = some bytes ∧ bytes.length = 8
  blockTime : flags.blockTime.toNat ≤ 9223372036
  aggregator : flags.aggregator = true
  daLayer : flags.daLayer = "celestia"

theorem toInt_blockTime_eq_iff (seconds : UInt64) :
    (seconds.toInt64 * Duration.second).toInt =
        seconds.toNat * 1000000000 ↔
      seconds.toNat ≤ 9223372036 := by
  have exact :=
    FixedWidth.toInt_toInt64_mul_eq_iff seconds Duration.second
  have second : Duration.second.toInt = 1000000000 := rfl
  rw [second] at exact
  rw [exact]
  omega

theorem copied_namespace_iff (bytes : List UInt8) :
    some bytes =
        some (FixedWidth.copyInto (Vector.replicate 8 0) bytes).toList ↔
      bytes.length = 8 := by
  rw [Option.some_inj, eq_comm]
  exact FixedWidth.toList_copyInto_eq_iff _ bytes

/-- The four fields of the record, against the flags. -/
theorem faithfulImage_iff
    {flags : Flags} {nodeConfig : NodeConfig G} {bytes : List UInt8}
    (decoded : Hex.decode flags.namespaceId.toList = some bytes)
    (fields :
      nodeConfig.flagFields = (flags.nodeConfig P bytes).flagFields) :
    FaithfulImage flags nodeConfig ↔ flags.Representable := by
  simp only [NodeConfig.flagFields, Prod.mk.injEq] at fields
  obtain ⟨namespaceId, blockTime, aggregator, daLayer⟩ := fields
  have namespaceFits :
      Hex.decode flags.namespaceId.toList =
          some nodeConfig.namespaceId.toList ↔
        bytes.length = 8 := by
    rw [decoded, namespaceId]
    exact copied_namespace_iff bytes
  have blockTimeFits :
      nodeConfig.blockManagerConfig.blockTime.toInt =
          flags.blockTime.toNat * 1000000000 ↔
        flags.blockTime.toNat ≤ 9223372036 := by
    rw [blockTime]
    exact toInt_blockTime_eq_iff flags.blockTime
  constructor
  · intro image
    exact
      { namespaceId := ⟨bytes, decoded, namespaceFits.mp image.namespaceId⟩
        blockTime := blockTimeFits.mp image.blockTime
        aggregator := by rw [← image.aggregator, aggregator]; rfl
        daLayer := by rw [← image.daLayer, daLayer]; rfl }
  · intro representable
    obtain ⟨found, same, eight⟩ := representable.namespaceId
    have foundBytes : bytes = found := by
      rw [decoded] at same
      exact Option.some_inj.mp same
    exact
      { namespaceId := namespaceFits.mpr (by rw [foundBytes, eight])
        blockTime := blockTimeFits.mpr representable.blockTime
        aggregator := by rw [aggregator, representable.aggregator]; rfl
        daLayer := by rw [daLayer, representable.daLayer]; rfl }

/-- The configuration of a node that is created is a faithful image of its
flags exactly when they are representable, and among representable flags the
namespace tells the decoded byte strings apart. -/
theorem nodeConfig_faithful_iff
    (laws : TranslationLaws P) {flags : Flags} {app : G.Application}
    {configFile : String} {rollup : Rollup G}
    (built : newRollup P flags app configFile = .ok rollup) :
    (FaithfulImage flags rollup.nodeConfig ↔ flags.Representable) ∧
      ∀ other otherApp otherFile otherRollup,
        newRollup P other otherApp otherFile = .ok otherRollup →
        flags.Representable → other.Representable →
        rollup.nodeConfig.namespaceId =
            otherRollup.nodeConfig.namespaceId →
          Hex.decode flags.namespaceId.toList =
            Hex.decode other.namespaceId.toList := by
  obtain ⟨bytes, decoded, fields⟩ := newRollup_ok laws built
  refine ⟨faithfulImage_iff decoded fields, ?_⟩
  intro other otherApp otherFile otherRollup otherBuilt representable
    otherRepresentable same
  obtain ⟨otherBytes, otherDecoded, otherFields⟩ :=
    newRollup_ok laws otherBuilt
  have image := (faithfulImage_iff decoded fields).mpr representable
  have otherImage :=
    (faithfulImage_iff otherDecoded otherFields).mpr otherRepresentable
  rw [image.namespaceId, otherImage.namespaceId, same]

end Image

section Bench

/-- Packages that never fail and keep nothing. -/
@[reducible]
def benchTypes : GoTypes where
  Settings := Unit
  TendermintConfig := String
  Translated := Unit
  Logger := Unit
  FilePV := Unit
  NodeKey := Unit
  PrivKey := Unit
  GenesisDoc := Unit
  Application := Unit
  Client := Unit
  Node := Unit
  Server := Unit

def bench : GoPackages benchTypes where
  dir := fun _ => "."
  defaultConfig := ""
  setRootDir := fun _ root => root
  readInConfig := fun _ => .ok ()
  unmarshal := fun _ config => .ok config
  validateBasic := fun _ => .ok ()
  decodeError := fun text => "encoding/hex: " ++ text
  zeroTranslated := ()
  getNodeConfig := fun nodeConfig _ => nodeConfig
  translateAddresses := .ok
  parseLogLevel := fun _ => .ok ()
  loadFilePV := fun _ => .ok ()
  loadNodeKey := fun _ => .ok ()
  validatorKey := fun _ => ()
  getNodeKey := fun _ => .ok ()
  genesisDocFromFile := fun _ => .ok ()
  newABCIClient := fun _ => .ok ()
  newNode := fun _ _ _ _ _ _ => .ok ()
  newServer := fun _ _ _ => ()

theorem bench_laws : TranslationLaws bench where
  getNodeConfig := fun _ _ => rfl
  translateAddresses := by
    intro nodeConfig translated succeeded
    cases succeeded
    rfl

theorem newRollup_bench
    {flags : Flags} {bytes : List UInt8}
    (decoded : Hex.decode flags.namespaceId.toList = some bytes) :
    newRollup bench flags () "config.toml" =
      .ok {
        nodeConfig := flags.nodeConfig bench bytes
        node := ()
        server := () } := by
  unfold newRollup decodeString
  rw [decoded]
  rfl

/-- A short and a long namespace, a block time that overflows, and the two
flags that nothing reads. -/
def distortedFlags : List Flags :=
  [{ namespaceId := "0000" }, { namespaceId := "000000000000000001" },
    { blockTime := 9223372037 }, { aggregator := false },
    { daLayer := "mock" }]

/-- None of these flags is refused and none has a faithful image; the first
two give one namespace. -/
theorem flags_distorted :
    (∀ flags ∈ distortedFlags,
      ∃ rollup,
        newRollup bench flags () "config.toml" = .ok rollup ∧
          ¬ FaithfulImage flags rollup.nodeConfig) ∧
      ∃ short long : Rollup benchTypes,
        newRollup bench { namespaceId := "0000" } () "config.toml" =
            .ok short ∧
          newRollup bench { namespaceId := "000000000000000001" } ()
            "config.toml" = .ok long ∧
          short.nodeConfig.namespaceId = long.nodeConfig.namespaceId := by
  have zeros :
      Hex.decode "0000000000000000".toList =
        some [0, 0, 0, 0, 0, 0, 0, 0] := by
    decide
  have two : Hex.decode "0000".toList = some [0, 0] := by
    decide
  have nine :
      Hex.decode "000000000000000001".toList =
        some [0, 0, 0, 0, 0, 0, 0, 0, 1] := by
    decide
  constructor
  · intro flags member
    simp only [distortedFlags, List.mem_cons, List.not_mem_nil,
      or_false] at member
    rcases member with rfl | rfl | rfl | rfl | rfl
    · refine ⟨_, newRollup_bench two, ?_⟩
      intro image
      exact absurd image.namespaceId (by decide)
    · refine ⟨_, newRollup_bench nine, ?_⟩
      intro image
      exact absurd image.namespaceId (by decide)
    · refine ⟨_, newRollup_bench zeros, ?_⟩
      intro image
      exact absurd image.blockTime (by decide)
    · refine ⟨_, newRollup_bench zeros, ?_⟩
      intro image
      cases image.aggregator
    · refine ⟨_, newRollup_bench zeros, ?_⟩
      intro image
      exact absurd image.daLayer (by decide)
  · exact ⟨_, _, newRollup_bench two, newRollup_bench nine, by decide⟩

theorem nodeConfig_faithful_default :
    ∃ rollup,
      newRollup bench {} () "config.toml" = .ok rollup ∧
        FaithfulImage {} rollup.nodeConfig := by
  have zeros :
      Hex.decode "0000000000000000".toList =
        some [0, 0, 0, 0, 0, 0, 0, 0] := by
    decide
  have built := @newRollup_bench {} _ zeros
  refine ⟨_, built, ?_⟩
  exact
    (nodeConfig_faithful_iff bench_laws built).1.mpr
      { namespaceId := ⟨_, zeros, rfl⟩
        blockTime := by decide
        aggregator := rfl
        daLayer := rfl }

end Bench

end Fuelmint
