import CountBridge.Text.Outline

/-!
How a binding behaves: when dropped wrappers give their unit back, how large the
backlog may grow, and how long a text may be. Both limits must be positive, and
a zero backlog is reported before a zero length.
-/

namespace CountBridge

open Text (Outline)

inductive ReleasePolicy where
  | immediate
  | deferred
deriving DecidableEq, Repr, Inhabited

namespace ReleasePolicy

def name : ReleasePolicy → String
  | .immediate => "immediate"
  | .deferred => "deferred"

def outline : ReleasePolicy → Outline
  | .immediate => .word "Immediate"
  | .deferred => .word "Deferred"

/-- Each policy has two names. Case does not matter in ASCII letters; anything
around the name does. -/
def ofText? (text : String) : Option ReleasePolicy :=
  let lowered := text.toList.map Char.toLower
  if lowered = "immediate".toList ∨ lowered = "eager".toList then some .immediate
  else if lowered = "deferred".toList ∨ lowered = "lazy".toList then some .deferred
  else none

end ReleasePolicy

structure Config where
  policy : ReleasePolicy := .immediate
  flushThreshold : UInt64 := 4096
  maxTextBytes : UInt64 := 67108864
deriving DecidableEq, Repr, Inhabited

inductive ConfigError where
  | invalid (reason : String)
  | unrecognised (key value : String)
deriving DecidableEq, Repr

namespace ConfigError

def message : ConfigError → String
  | .invalid reason => "invalid bridge configuration: " ++ reason
  | .unrecognised key value => "unrecognised value " ++ Text.quoted value ++ " for " ++ key

def outline : ConfigError → Outline
  | .invalid reason => .around "Invalid" (.text reason)
  | .unrecognised key value => .record "BadEnv" [("key", .text key), ("value", .text value)] true

end ConfigError

namespace Config

def outline (config : Config) : Outline :=
  .record "BridgeConfig"
    [("release_policy", config.policy.outline),
      ("deferred_flush_threshold", .number config.flushThreshold.toNat),
      ("max_string_bytes", .number config.maxTextBytes.toNat)] true

def validate (config : Config) : Except ConfigError Config :=
  if config.flushThreshold = 0 then
    .error (.invalid "deferred_flush_threshold must be greater than zero")
  else if config.maxTextBytes = 0 then
    .error (.invalid "max_string_bytes must be greater than zero")
  else .ok config

theorem validate_eq_ok (config : Config) :
    config.validate = .ok config ↔ config.flushThreshold ≠ 0 ∧ config.maxTextBytes ≠ 0 := by
  rw [validate]
  split
  next none => exact ⟨nofun, fun positive => absurd none positive.1⟩
  next some =>
    split
    next none => exact ⟨nofun, fun positive => absurd none positive.2⟩
    next some' => exact ⟨fun _ => ⟨some, some'⟩, fun _ => rfl⟩

/-- One choice of a builder; a later choice of the same field wins. -/
inductive Choice where
  | policy (value : ReleasePolicy)
  | flushThreshold (value : UInt64)
  | maxTextBytes (value : UInt64)
deriving DecidableEq, Repr

def choose (config : Config) : Choice → Config
  | .policy value => { config with policy := value }
  | .flushThreshold value => { config with flushThreshold := value }
  | .maxTextBytes value => { config with maxTextBytes := value }

def build (choices : List Choice) : Except ConfigError Config :=
  (choices.foldl choose {}).validate

end Config

end CountBridge
