/-!
Levels of diagnostic output, from the most urgent to the most verbose.
-/

namespace CountBridge.Logging

inductive Level where
  | error
  | warn
  | info
  | debug
  | trace
deriving DecidableEq, Repr, Inhabited

namespace Level

def all : List Level := [.error, .warn, .info, .debug, .trace]

/-- How much a level lets through; more verbose levels let through more. -/
def verbosity : Level → Nat
  | .error => 1
  | .warn => 2
  | .info => 3
  | .debug => 4
  | .trace => 5

instance : Ord Level := ⟨fun a b => compare a.verbosity b.verbosity⟩

def name : Level → String
  | .error => "error"
  | .warn => "warn"
  | .info => "info"
  | .debug => "debug"
  | .trace => "trace"

/-- The word that stands before a recorded event. -/
def label : Level → String
  | .error => "ERROR"
  | .warn => "WARN"
  | .info => "INFO"
  | .debug => "DEBUG"
  | .trace => "TRACE"

def word : Level → String
  | .error => "Error"
  | .warn => "Warn"
  | .info => "Info"
  | .debug => "Debug"
  | .trace => "Trace"

def ofText? (text : String) : Option Level :=
  let lowered := text.toList.map Char.toLower
  if lowered = "error".toList ∨ lowered = "err".toList then some .error
  else if lowered = "warn".toList ∨ lowered = "warning".toList then some .warn
  else if lowered = "info".toList then some .info
  else if lowered = "debug".toList then some .debug
  else if lowered = "trace".toList ∨ lowered = "verbose".toList then some .trace
  else none

end Level

end CountBridge.Logging
