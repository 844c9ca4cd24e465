import CrawlFrontier.Config.Read
import CrawlFrontier.Digest.Sha256
import CrawlFrontier.Text.Utf8

/-!
# Loading configurations

A configuration is used only if its numbers are in range and its keys are such that a query can hold
them as they are.
-/

namespace CrawlFrontier

/-- Why a configuration is not used. -/
inductive ConfigError where
  | unreadable (cause : ReadError)
  | malformed
  | validation (cause : String)
  | invalidPattern (cause : String)
  deriving DecidableEq, Repr

/-- The wording of an error. -/
def ConfigError.message : ConfigError → String
  | .unreadable cause => "Failed to read config file: " ++ cause.message
  | .malformed => "Failed to parse TOML"
  | .validation cause => "Validation error: " ++ cause
  | .invalidPattern cause => "Invalid pattern: " ++ cause

namespace Config

/-- The largest number of workers. -/
def maxWorkers : Nat := 256

/-- Whether a number of workers is in range. -/
def validWorkers (workers : Nat) : Bool := 1 ≤ workers && workers ≤ maxWorkers

/-- Whether a character may stand in the key of a tracking parameter. -/
def isParamChar (c : Char) : Bool := c.isAlphanum || c == '_' || c == '-' || c == '.'

/-- Checks the key of a tracking parameter. -/
def checkParam (param : String) : Except ConfigError Unit :=
  if param = "" then .error (.invalidPattern "Tracking parameter name cannot be empty")
  else if param.toList.all isParamChar then .ok ()
  else
    .error (.invalidPattern ("Tracking parameter '" ++ param ++ "' contains invalid characters"))

/-- Checks a configuration: first its numbers, then its keys in order. -/
def validate (config : Config) : Except ConfigError Unit := do
  if !validWorkers config.workers then
    throw (.validation
      ("workers must be between 1 and " ++ toString maxWorkers ++ ", got " ++
        toString config.workers))
  if config.progressInterval = 0 then throw (.validation "progress_interval must be >= 1")
  config.rules.trackingParams.forM checkParam

/-- Reads a configuration and checks it. -/
def parse (text : String) : Except ConfigError Config :=
  match Toml.parse? text >>= ofValue? with
  | none => .error .malformed
  | some config => (validate config).map fun _ => config

/-- Loads a configuration from a file with the given bytes. -/
def load (bytes : Option (List UInt8)) : Except ConfigError Config :=
  match CrawlFrontier.readText bytes with
  | .ok text => parse text
  | .error cause => .error (.unreadable cause)

/-- The digest of the text of a file with the given bytes. -/
def digest (bytes : Option (List UInt8)) : Except ConfigError String :=
  match CrawlFrontier.readText bytes with
  | .ok text => .ok (Sha256.digest (Text.utf8 text.toList))
  | .error cause => .error (.unreadable cause)

end Config

end CrawlFrontier
