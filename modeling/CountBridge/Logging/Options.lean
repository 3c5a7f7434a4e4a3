import CountBridge.Logging.Level
import CountBridge.Text.Outline
import CountBridge.Text.Utf8

/-!
Settings of the log, taken from the environment. A level that is not known is
ignored, so a mistyped variable never silences warnings.
-/

namespace CountBridge.Logging

def levelKey : String := "CFISH_LOG_LEVEL"

structure Options where
  level : Level := .warn
  ansi : Bool := false
deriving DecidableEq, Repr

namespace Options

def outline (options : Options) : Text.Outline :=
  .record "LogOptions" [("level", .word options.level.word), ("ansi", .flag options.ansi)] true

/-- The bytes of the variable are read leniently. -/
def ofEnvironment (value : Option ByteArray) : Options :=
  match value.bind fun bytes => Level.ofText? (Text.decode bytes) with
  | some level => { level }
  | none => {}

end Options

end CountBridge.Logging
