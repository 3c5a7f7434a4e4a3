import CountBridge.Bound

/-!
Binding an object system. The configuration is checked first, then the version
of the hooks, and only then whether another system was bound before; the system
is booted and published if nothing stands against it.
-/

namespace CountBridge

open Bridge

def checkVersion (found : UInt32) : Except BridgeError Unit :=
  if found = hookVersion then .ok ()
  else .error (.versionMismatch hookName hookVersion found)

def bootstrap (heap : HeapId) (config : Config) (version : UInt32) :
    Bridge (Except BridgeError Config) := do
  match config.validate with
  | .error error => pure (.error (.config error))
  | .ok config =>
    Bound.askVersion
    match checkVersion version with
    | .error error => pure (.error error)
    | .ok () =>
      if (← get).binding?.isSome then pure (.error .alreadyBootstrapped)
      else
        Bound.boot heap
        modify fun world => { world with binding? := some { heap, config } }
        report (.bootstrapped config.policy)
        pure (.ok config)

end CountBridge
