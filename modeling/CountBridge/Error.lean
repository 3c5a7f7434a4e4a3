import CountBridge.Config

/-!
Failures of the bridge itself. Faults raised by native code are not among them:
those unwind, and a trap hands them back as wrappers.
-/

namespace CountBridge

open Text (Outline)

/-- Version of the hook contract that both sides have to agree on. -/
def hookVersion : UInt32 := 1

def hookName : String := "cfish"

inductive BridgeError where
  | notBootstrapped
  | alreadyBootstrapped
  | versionMismatch (name : String) (expected found : UInt32)
  | nullHandle
  | textTooLong (length limit : Nat)
  | config (error : ConfigError)
deriving DecidableEq, Repr

namespace BridgeError

def message : BridgeError → String
  | .notBootstrapped => "bridge runtime has not been bootstrapped"
  | .alreadyBootstrapped => "bridge runtime is already bootstrapped"
  | .versionMismatch name expected found =>
    name ++ " ABI mismatch: expected version " ++ toString expected ++ ", found " ++ toString found
  | .nullHandle => "native handle is null"
  | .textTooLong length limit =>
    "text of " ++ toString length ++ " bytes exceeds max_string_bytes (" ++ toString limit ++ ")"
  | .config error => error.message

def outline : BridgeError → Outline
  | .notBootstrapped => .word "NotBootstrapped"
  | .alreadyBootstrapped => .word "AlreadyBootstrapped"
  | .versionMismatch name expected found =>
    .record "AbiMismatch"
      [("name", .text name), ("expected", .number expected.toNat), ("found", .number found.toNat)] true
  | .nullHandle => .word "NullHandle"
  | .textTooLong length limit =>
    .record "StringTooLong" [("len", .number length), ("max", .number limit)] true
  | .config error => error.outline

end BridgeError

end CountBridge
