import CountBridge.Config
import CountBridge.Text.Blank

/-!
Configuration from the environment. Each variable that is set replaces one
default. The first text that cannot be read is reported, in the order policy,
threshold, maximum, and only then is the whole configuration validated.
-/

namespace CountBridge.Config

def policyKey : String := "CFISH_RELEASE_POLICY"
def thresholdKey : String := "CFISH_DEFERRED_FLUSH_THRESHOLD"
def maximumKey : String := "CFISH_MAX_STRING_BYTES"

structure Environment where
  policy : Option String := none
  threshold : Option String := none
  maximum : Option String := none
deriving DecidableEq, Repr

namespace Environment

/-- A variable whose bytes are not well-formed text counts as unset. -/
def ofBytes (policy threshold maximum : Option ByteArray) : Environment where
  policy := policy.bind String.fromUTF8?
  threshold := threshold.bind String.fromUTF8?
  maximum := maximum.bind String.fromUTF8?

def readPolicy (text : String) : Except ConfigError ReleasePolicy :=
  match ReleasePolicy.ofText? text with
  | some policy => .ok policy
  | none => .error (.unrecognised policyKey text)

/-- Numbers may be surrounded by blanks; the report shows the text as given. -/
def readNumber (key text : String) : Except ConfigError UInt64 :=
  match Text.readCount (Text.trim text.toList) with
  | some value => .ok value
  | none => .error (.unrecognised key text)

def override (given : Option String) (read : String → Except ConfigError α) (default : α) :
    Except ConfigError α :=
  match given with
  | some text => read text
  | none => .ok default

def config (environment : Environment) : Except ConfigError Config := do
  let defaults : Config := {}
  let policy ← override environment.policy readPolicy defaults.policy
  let threshold ← override environment.threshold (readNumber thresholdKey) defaults.flushThreshold
  let maximum ← override environment.maximum (readNumber maximumKey) defaults.maxTextBytes
  Config.validate { policy, flushThreshold := threshold, maxTextBytes := maximum }

end Environment

end CountBridge.Config
