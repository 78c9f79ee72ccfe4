import Fuelmint.FuelCore
import Fuelmint.Foundation.Actions

/-!
# From the command line to the node configuration

`Command::get_config` and the resolution of the consensus key.  Parsing of a
chain configuration, an address or a key is fuel-core's; the fallbacks between
flags, environment and development key are the repository's.
-/

namespace Fuelmint

open Foundation

variable {T : Types} (F : FuelCore T)

/-- The flags of `fuelmint run` that reach the configuration. -/
structure Command where
  chainConfig : String
  manualBlocksEnabled : Bool
  vmBacktrace : Bool
  utxoValidation : Bool
  minGasPrice : UInt64
  consensusKey : Option String
  consensusDevKey : Bool
  coinbaseRecipient : Option String
  metrics : Bool

/-- `TxPoolConfig::new`. -/
def TxPoolConfig.new (chainConfig : ChainConfig T)
    (minGasPrice : UInt64) (utxoValidation : Bool) : TxPoolConfig T where
  chainConfig := chainConfig
  minGasPrice := minGasPrice
  utxoValidation := utxoValidation

/-- The key given on the command line, else the one in the environment
variable `CONSENSUS_KEY_SECRET`. -/
def loadConsensusKey (environment : Option String)
    (cliArg : Option String) : Except String (Option T.SecretKey) :=
  match cliArg <|> environment with
  | some key => (F.parseSecretKey key).map some
  | none => .ok none

/-- The fee recipient: the flag if there is one, else the address of the
consensus key. -/
def resolveCoinbaseRecipient (coinbaseRecipient : Option String)
    (consensusKey : Option T.SecretKey) : Except String T.Address :=
  match coinbaseRecipient with
  | some recipient => F.parseAddress recipient
  | none =>
      .ok (F.publicKeyHash (consensusKey.getD F.defaultSecretKey))

def Command.getConfig (environment : Option String)
    (command : Command) : Except String (Config T) := do
  let chainConf ← F.parseChainConfig command.chainConfig
  let loaded ← loadConsensusKey F environment command.consensusKey
  -- without a configured key, fall back to the development key
  let consensusKey :=
    loaded <|>
      if command.consensusDevKey then
        some F.defaultConsensusDevKey
      else
        none
  let coinbaseRecipient ←
    resolveCoinbaseRecipient F command.coinbaseRecipient consensusKey
  return {
    chainConf := chainConf
    utxoValidation := command.utxoValidation
    manualBlocksEnabled := command.manualBlocksEnabled
    blockProduction := .never
    vm := { backtrace := command.vmBacktrace }
    txpool :=
      TxPoolConfig.new chainConf command.minGasPrice
        command.utxoValidation
    blockProducer := {
      utxoValidation := command.utxoValidation
      coinbaseRecipient := coinbaseRecipient
      metrics := command.metrics }
    consensusKey := consensusKey }

variable {F}

/-- Everything a configuration takes from its flags, in one place. -/
theorem Command.getConfig_spec
    {environment : Option String} {command : Command}
    {config : Config T}
    (configured : command.getConfig F environment = .ok config) :
    F.parseChainConfig command.chainConfig = .ok config.chainConf ∧
      config.utxoValidation = command.utxoValidation ∧
      config.manualBlocksEnabled = command.manualBlocksEnabled ∧
      config.txpool =
        TxPoolConfig.new config.chainConf command.minGasPrice
          command.utxoValidation ∧
      config.blockProducer.utxoValidation = command.utxoValidation ∧
      resolveCoinbaseRecipient F command.coinbaseRecipient
          config.consensusKey =
        .ok config.blockProducer.coinbaseRecipient := by
  unfold Command.getConfig at configured
  obtain ⟨chainConf, parsed, configured⟩ :=
    except_bind_ok_iff.mp configured
  obtain ⟨loaded, _, configured⟩ := except_bind_ok_iff.mp configured
  obtain ⟨recipient, resolved, configured⟩ :=
    except_bind_ok_iff.mp configured
  cases configured
  exact ⟨parsed, rfl, rfl, rfl, rfl, resolved⟩

/-- An explicit fee recipient wins over every consensus key. -/
theorem resolveCoinbaseRecipient_some
    (recipient : String) (consensusKey : Option T.SecretKey) :
    resolveCoinbaseRecipient F (some recipient) consensusKey =
      F.parseAddress recipient := rfl

end Fuelmint
