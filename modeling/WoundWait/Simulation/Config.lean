import WoundWait.Options
import WoundWait.AccessCounter
import WoundWait.Decimal.Shortest
import WoundWait.Random.ChaCha

/-!
The shape of a simulated workload, and the plans of its transactions.
-/

namespace WoundWait

structure SimulationConfig where
  transactions : Nat
  workers : Nat
  operationsPerTransaction : Nat
  writeRatio : Float
  abandonRatio : Float
  maxAttempts : Nat
  retryBackoff : Nat
  seed : Nat

inductive ConfigError where
  | noWorkers
  | noOperations
  | noAttempts
  | ratioOutside (name : String) (ratio : Float)

def ConfigError.message : ConfigError → String
  | noWorkers => "workers must be at least 1"
  | noOperations => "operations_per_transaction must be at least 1"
  | noAttempts => "max_attempts must be at least 1"
  | ratioOutside name ratio =>
      name ++ " must be within [0, 1], got " ++ FloatLayout.message.write ratio

namespace SimulationConfig

instance : Inhabited SimulationConfig :=
  ⟨{ transactions := 200
     workers := 8
     operationsPerTransaction := 3
     writeRatio := 0.5
     abandonRatio := 0.0
     maxAttempts := 1000
     retryBackoff := 1
     seed := 7 }⟩

def standard : SimulationConfig := default

def isRatio (ratio : Float) : Bool :=
  0.0 ≤ ratio && ratio ≤ 1.0

def validate (config : SimulationConfig) : Except ConfigError Unit :=
  if config.workers = 0 then .error .noWorkers
  else if config.operationsPerTransaction = 0 then .error .noOperations
  else if config.maxAttempts = 0 then .error .noAttempts
  else if !isRatio config.writeRatio then .error (.ratioOutside "write_ratio" config.writeRatio)
  else if !isRatio config.abandonRatio then
    .error (.ratioOutside "abandon_ratio" config.abandonRatio)
  else .ok ()

def retryBackoffDuration (config : SimulationConfig) : Duration :=
  .ofMilliseconds config.retryBackoff

end SimulationConfig

structure TransactionPlan where
  modes : List AccessMode
  abandons : Bool
  deriving DecidableEq, Repr

namespace TransactionPlan

def drawModes (writeRatio : Float) : Nat → RandomSource → List AccessMode × RandomSource
  | 0, source => ([], source)
  | operations + 1, source =>
      let drawn := source.chance writeRatio
      let later := drawModes writeRatio operations drawn.2
      ((if drawn.1 then .write else .read) :: later.1, later.2)

def draw (config : SimulationConfig) (source : RandomSource) : TransactionPlan × RandomSource :=
  let modes := drawModes config.writeRatio config.operationsPerTransaction source
  let abandons := modes.2.chance config.abandonRatio
  ({ modes := modes.1, abandons := abandons.1 }, abandons.2)

end TransactionPlan

end WoundWait
