import Enrolment.Config.CallbackPath
import Enrolment.Keyset
import Enrolment.Network.IpAddress
import Enrolment.Registry.Backoff

/-!
# Settings

The settings of a subscriber come as named texts, which may be padded; a blank
one counts as left out.  They are read in a fixed order, and the first fault is
reported with the name of the setting.

## Main definitions

* `Config`, `Config.load` — the settings, and how they are read.
* `ConfigError`, `ConfigError.message` — the faults, and their wording.
-/

namespace Enrolment

/-- How much is logged. -/
inductive LogLevel
  /-- Errors only. -/
  | error
  /-- Warnings too. -/
  | warn
  /-- What the subscriber does. -/
  | info
  /-- How it does it. -/
  | debug
  /-- Everything. -/
  | trace
  deriving DecidableEq, Repr

namespace LogLevel

/-- The levels from the least to the most. -/
def all : List LogLevel := [error, warn, info, debug, trace]

/-- The name of a level. -/
def name : LogLevel → String
  | error => "ERROR"
  | warn => "WARN"
  | info => "INFO"
  | debug => "DEBUG"
  | trace => "TRACE"

/-- The level that a text gives, by its name in any case or by its place. -/
def read? (s : String) : Option LogLevel :=
  match Text.readNatural (Text.maxUnsigned 64) s.toList with
  | .ok (n + 1) => all[n]?
  | .ok 0 => none
  | .error _ => all.find? fun level => Text.sameIgnoringCase level.name s

end LogLevel

/-- What is wrong with the text of a setting. -/
inductive SettingError
  /-- It is no integer of the right size. -/
  | integer (raw : String) (e : Text.IntegerError)
  /-- It is no internet address. -/
  | address (raw : String)
  /-- It is no level. -/
  | level (raw : String)
  /-- It is no address of the web. -/
  | notWeb
  /-- It is no key. -/
  | key (e : KeyError)
  /-- It is zero. -/
  | zero
  /-- It holds a path that cannot serve. -/
  | path (e : CallbackPathError)
  deriving DecidableEq, Repr

/-- The wording of what is wrong with a setting. -/
def SettingError.message : SettingError → String
  | integer raw e => Text.shown raw ++ ": " ++ e.message
  | address raw => Text.shown raw ++ ": invalid IP address syntax"
  | level raw =>
    Text.shown raw ++ ": error parsing level: expected one of " ++
      "\"error\", \"warn\", \"info\", \"debug\", \"trace\", or a number 1-5"
  | notWeb => "must be an http(s) URL"
  | key e => (ServiceError.crypto e).message
  | zero => "must be at least 1"
  | path (.notLiteral p) => Text.shown p ++ " is not a literal path"
  | path (.reserved p) => p ++ " is already routed"

/-- What is wrong with the settings. -/
inductive ConfigError
  /-- A setting is left out that must be there. -/
  | missing (name : String)
  /-- A setting is wrong. -/
  | invalid (name : String) (e : SettingError)
  deriving DecidableEq, Repr

/-- The wording of the fault. -/
def ConfigError.message : ConfigError → String
  | missing name => name ++ " is required"
  | invalid name e => name ++ " is invalid: " ++ e.message

/-- How the registry is reached. -/
structure RegistrySettings where
  /-- Its address. -/
  baseUrl : String
  /-- The seconds that an answer may take. -/
  timeout : Nat
  /-- The number of connections that are kept. -/
  maxIdle : Nat
  /-- The seconds that they are kept. -/
  idleTimeout : Nat
  deriving DecidableEq, Repr

/-- The settings of a subscriber. -/
structure Config where
  /-- The address that it listens at. -/
  host : IpAddress
  /-- The port that it listens at. -/
  port : Nat
  /-- How much it logs. -/
  logLevel : LogLevel
  /-- How it reaches the registry. -/
  registry : RegistrySettings
  /-- The key that the registry seals challenges with. -/
  registryKey : String
  /-- How it tries again. -/
  retry : Backoff
  /-- Where it takes challenges besides. -/
  callbackPaths : List String
  /-- The seconds that it takes to shut down. -/
  shutdownTimeout : Nat
  /-- Its database, if it has one. -/
  databaseUrl : Option String

namespace Config

/-- Where the settings come from: the text of a name, if there is one. -/
abbrev Source := String → Option String

/-- The names of the settings. -/
def names : List String :=
  ["SUBSCRIBER_HOST", "SUBSCRIBER_PORT", "SUBSCRIBER_LOG_LEVEL", "SUBSCRIBER_REGISTRY_URL",
    "SUBSCRIBER_REGISTRY_TIMEOUT_SECS", "SUBSCRIBER_REGISTRY_MAX_IDLE_PER_HOST",
    "SUBSCRIBER_REGISTRY_IDLE_TIMEOUT_SECS", "SUBSCRIBER_REGISTRY_ENCR_PUBLIC_KEY",
    "SUBSCRIBER_RETRY_MAX_ATTEMPTS", "SUBSCRIBER_RETRY_INITIAL_DELAY_MS",
    "SUBSCRIBER_RETRY_MAX_DELAY_MS", "SUBSCRIBER_CALLBACK_PATHS",
    "SUBSCRIBER_SHUTDOWN_TIMEOUT_SECS", "DATABASE_URL"]

/-- A setting without the blanks around it, unless it is left out. -/
def setting (source : Source) (name : String) : Option String :=
  ((source name).map Text.trimmed).filter (· ≠ "")

/-- A setting that may be left out. -/
def readOr {α : Type} (source : Source) (name : String) (otherwise : α)
    (read : String → Except SettingError α) : Except ConfigError α :=
  match setting source name with
  | none => .ok otherwise
  | some raw => (read raw).mapError (.invalid name)

/-- A setting that must be there. -/
def demand {α : Type} (source : Source) (name : String)
    (read : String → Except SettingError α) : Except ConfigError α :=
  match setting source name with
  | none => .error (.missing name)
  | some raw => (read raw).mapError (.invalid name)

/-- A natural number of so many bits. -/
def readWord (bits : Nat) (raw : String) : Except SettingError Nat :=
  (Text.readNatural (Text.maxUnsigned bits) raw.toList).mapError (.integer raw)

/-- An internet address. -/
def readHost (raw : String) : Except SettingError IpAddress :=
  match IpAddress.read? raw.toList with
  | some a => .ok a
  | none => .error (.address raw)

/-- A level. -/
def readLevel (raw : String) : Except SettingError LogLevel :=
  match LogLevel.read? raw with
  | some level => .ok level
  | none => .error (.level raw)

/-- An address of the web. -/
def readBaseUrl (raw : String) : Except SettingError String :=
  if (afterScheme raw.toList).isSome then .ok raw else .error .notWeb

/-- An advertised key. -/
def readKey (raw : String) : Except SettingError String :=
  match decodeKey raw with
  | .ok _ => .ok raw
  | .error e => .error (.key e)

/-- Paths. -/
def readPaths (raw : String) : Except SettingError (List String) :=
  (readCallbackPaths raw).mapError .path

/-- The settings that a source gives. -/
def load (source : Source) : Except ConfigError Config := do
  let host ← readOr source "SUBSCRIBER_HOST" (.v4 [0, 0, 0, 0]) readHost
  let port ← readOr source "SUBSCRIBER_PORT" 8080 (readWord 16)
  let logLevel ← readOr source "SUBSCRIBER_LOG_LEVEL" .info readLevel
  let baseUrl ← demand source "SUBSCRIBER_REGISTRY_URL" readBaseUrl
  let timeout ← readOr source "SUBSCRIBER_REGISTRY_TIMEOUT_SECS" 10 (readWord 64)
  let maxIdle ← readOr source "SUBSCRIBER_REGISTRY_MAX_IDLE_PER_HOST" 8 (readWord 64)
  let idleTimeout ← readOr source "SUBSCRIBER_REGISTRY_IDLE_TIMEOUT_SECS" 90 (readWord 64)
  let registryKey ← demand source "SUBSCRIBER_REGISTRY_ENCR_PUBLIC_KEY" readKey
  let maxAttempts ← readOr source "SUBSCRIBER_RETRY_MAX_ATTEMPTS" 5 (readWord 32)
  let initialDelay ← readOr source "SUBSCRIBER_RETRY_INITIAL_DELAY_MS" 500 (readWord 64)
  let maxDelay ← readOr source "SUBSCRIBER_RETRY_MAX_DELAY_MS" 30000 (readWord 64)
  if maxAttempts = 0 then throw (.invalid "SUBSCRIBER_RETRY_MAX_ATTEMPTS" .zero)
  let callbackPaths ← readOr source "SUBSCRIBER_CALLBACK_PATHS" [] readPaths
  let shutdownTimeout ← readOr source "SUBSCRIBER_SHUTDOWN_TIMEOUT_SECS" 10 (readWord 64)
  return {
    host := host
    port := port
    logLevel := logLevel
    registry := ⟨baseUrl, timeout, maxIdle, idleTimeout⟩
    registryKey := registryKey
    retry := { Backoff.standard with
      maxAttempts := maxAttempts, initialDelay := initialDelay, maxDelay := maxDelay }
    callbackPaths := callbackPaths
    shutdownTimeout := shutdownTimeout
    databaseUrl := setting source "DATABASE_URL" }

/-- The address and the port that the subscriber listens at. -/
def bindAddress (c : Config) : String := c.host.withPort c.port

end Config

end Enrolment
