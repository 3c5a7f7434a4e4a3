import CountBridge.Ownership

/-!
Text and errors across the boundary. Text goes out as a new string, refused when
it is too long; an error's message is cut instead, so that reporting an error
never fails. Text comes back from any object, by way of a temporary string where
it is not one itself; what goes wrong on the way comes back as a trapped error.
-/

namespace CountBridge

open Bridge

def newStringUnchecked (text : String) : Bridge Wrapper := do
  let made ← Bound.newString text.toUTF8
  pure ⟨.text, some made⟩

def newString (text : String) : Bridge (Except BridgeError Wrapper) := do
  let limit := (← binding).config.maxTextBytes.toNat
  if limit < text.utf8ByteSize then pure (.error (.textTooLong text.utf8ByteSize limit))
  else .ok <$> newStringUnchecked text

/-- A new error whose message is as much of the text as is allowed. -/
def newError (text : String) : Bridge Wrapper := do
  let mess ← newStringUnchecked (Text.clamp text (← binding).config.maxTextBytes.toNat)
  let made ← Bound.newError mess.handle
  pure ⟨.error, some made⟩

/-- The text of a string. -/
def copyText (id : ObjectId) : Bridge String := do
  match ← Bound.stringBytes id with
  | (some bytes, _) => pure (Text.decode bytes)
  | (none, _) => pure ""

/-- The text of any object, and nothing for null. The temporary string is given
back at once, whatever the policy. -/
def extractText (handle : Handle) : Bridge (Except Wrapper String) := do
  match handle with
  | none => pure (.ok "")
  | some id =>
    if ← Bound.isString id then .ok <$> copyText id
    else match ← trap (Bound.toString id) with
      | .error err => pure (.error err)
      | .ok coerced =>
        let text ← copyText coerced
        releaseHandle coerced
        pure (.ok text)

namespace Wrapper

/-- The message of an error, or the error met while reading it. -/
def tryMessage (err : Wrapper) : Bridge (Except Wrapper String) := do
  match err.handle with
  | none => pure (.ok "")
  | some id => extractText (← Bound.messageOf id)

/-- The message of an error, empty if it cannot be read. -/
def message (err : Wrapper) : Bridge String := do
  match ← err.tryMessage with
  | .ok text => pure text
  | .error nested =>
    report (.unreadable err.handle nested.handle)
    nested.drop
    pure ""

/-- The text of a string wrapper, empty if it cannot be read. -/
def display (string : Wrapper) : Bridge String := do
  match ← extractText string.handle with
  | .ok text => pure text
  | .error nested =>
    nested.drop
    pure ""

end Wrapper

end CountBridge
