import CountBridge.Program.Answer
import CountBridge.Program.Numbering

/-!
How a run is written down. Calls and events become lines only if they are
wanted, in the order in which they happened, and only lines that are written
mention anything.
-/

namespace CountBridge.Program

def callLine (call : Call) : StateM Numbering String := do
  match call with
  | .version => pure "abi_version"
  | .boot => pure "boot"
  | .increment id => return "inc_refcount(" ++ (← mentionHandle id) ++ ")"
  | .decrement id remaining =>
    return "dec_refcount(" ++ (← mentionHandle id) ++ ")=" ++ toString remaining
  | .newString size made =>
    return "str_new_steal_utf8(" ++ toString size ++ ")=" ++ (← mentionHandle made)
  | .newError mess made =>
    let given ← mentionHandle mess
    return "err_new(" ++ given ++ ")=" ++ (← mentionHandle made)
  | .messageOf id answer =>
    let asked ← mentionHandle id
    return "err_get_mess(" ++ asked ++ ")=" ++ (← mentionHandle answer)
  | .isString id answer =>
    return "is_string(" ++ (← mentionHandle id) ++ ")=" ++ toString answer
  | .toString id => return "to_string(" ++ (← mentionHandle id) ++ ")"
  | .toStringReturned answer => return "to_string -> " ++ (← mentionHandle answer)
  | .stringBytes id answer size =>
    let asked ← mentionHandle id
    let numbering ← get
    let shown := match answer with
      | some bytes => toString (numbering.redact bytes).size
      | none => "null," ++ toString size
    return "str_bytes(" ++ asked ++ ")=" ++ shown
  | .className id => return "class_name(" ++ (← mentionHandle id) ++ ")"

def eventLine (event : Event) : StateM Numbering String := do
  let words ← match event with
    | .bootstrapped policy =>
      pure ("bridge runtime bootstrapped abi=" ++ toString hookVersion ++ " policy=" ++ policy.name)
    | .raising err => pure ("raising native error handle=" ++ (← mentionDiagnostic err))
    | .trapped err => pure ("trapped native error handle=" ++ (← mentionDiagnostic err))
    | .released id remaining =>
      pure ("released native handle handle=" ++ (← mentionDiagnostic (some id)) ++ " remaining=" ++
        toString remaining)
    | .deferred id pending =>
      pure ("deferred native release handle=" ++ (← mentionDiagnostic (some id)) ++ " pending=" ++
        toString pending)
    | .processed count => pure ("Processed " ++ toString count ++ " deferred releases")
    | .alreadyBooted => pure "LocalHeap already booted, keeping existing hooks"
    | .unreadable err nested =>
      let whose ← mentionDiagnostic err
      pure ("failed to extract native error message handle=" ++ whose ++ " nested=" ++
        (← mentionDiagnostic nested))
  pure (event.level.label ++ " " ++ words)

/-- Which of what can be observed is wanted. -/
structure Wanted where
  calls : Bool := false
  events : Option Logging.Level := none

def Wanted.any (wanted : Wanted) : Bool := wanted.calls || wanted.events.isSome

structure Lines where
  calls : Array String := #[]
  events : Array String := #[]

def Lines.add (wanted : Wanted) (lines : Lines) (entry : Entry) : StateM Numbering Lines := do
  match entry with
  | .call call _ =>
    if wanted.calls then return { lines with calls := lines.calls.push (← callLine call) }
    else pure lines
  | .event event =>
    if (wanted.events.map (·.verbosity)).getD 0 < event.level.verbosity then pure lines
    else return { lines with events := lines.events.push (← eventLine event) }
  | .shown handle =>
    let _ ← mentionHandle handle
    pure lines

def Step.lines (wanted : Wanted) (step : Step α) : StateM Numbering Lines :=
  step.journal.foldlM (Lines.add wanted) {}

/-- The text of a fault, which speaks of objects by their addresses. -/
def mentionFault (cause : Fault) : StateM Numbering String := do
  let origin := (← get).origin
  mentionFailure (cause.message fun handle => (Address.ofHandle origin handle).diagnostic)

end CountBridge.Program
