import CountBridge.Handle.Occurrence
import CountBridge.Text.Utf8
import Std.Data.HashMap

/-!
Numbers for objects, in the order in which their addresses are first mentioned,
so that what is written of a run does not depend on addresses. An address inside
a text gives way to the number of its object.
-/

namespace CountBridge.Program

/-- The numbers of the addresses mentioned so far, and where the first object lies. -/
structure Numbering where
  origin : Nat
  numbers : Std.HashMap Nat Nat := {}

namespace Numbering

def number? (numbering : Numbering) (address : Nat) : Option Nat := numbering.numbers[address]?

/-- Mentions an address: its number, the next one if it has none. -/
def mention (address : Nat) : StateM Numbering Nat := do
  match (← get).number? address with
  | some number => pure number
  | none =>
    let next := (← get).numbers.size + 1
    modify fun numbering => { numbering with numbers := numbering.numbers.insert address next }
    pure next

/-- Mentions an object: the number of its address. -/
def mentionObject (id : ObjectId) : StateM Numbering Nat := do
  mention (Address.location (← get).origin id)

end Numbering

def numbered (number : Nat) : String := "#" ++ toString number

/-- A handle as a line writes it. -/
def mentionHandle : Handle → StateM Numbering String
  | none => pure "null"
  | some id => return numbered (← Numbering.mentionObject id)

/-- A handle as diagnostic text writes its address. -/
def mentionAddress : Handle → StateM Numbering String
  | none => pure Address.null.pointer
  | some id => return numbered (← Numbering.mentionObject id)

def mentionDiagnostic (handle : Handle) : StateM Numbering String :=
  return "ObjPtr(" ++ (← mentionAddress handle) ++ ")"

/-- What is written so far, and the rest with numbers for the addresses that are given one:
the bytes before a place as they are, and what follows it. -/
def replaceFrom (numberOf : Nat → StateM Numbering (Option Nat)) (bytes : ByteArray)
    (start place : Nat) (written : ByteArray) : StateM Numbering ByteArray := do
  match _ : nextOccurrence bytes place with
  | none => pure (written ++ bytes.extract start bytes.size)
  | some found =>
    match ← numberOf found.address with
    | some number =>
      let written := written ++ bytes.extract start found.start ++ (numbered number).toUTF8
      replaceFrom numberOf bytes found.stop found.stop written
    | none => replaceFrom numberOf bytes start found.stop written
termination_by bytes.size - place
decreasing_by
  all_goals
    have := lt_stop_of_nextOccurrence ‹_›
    omega

/-- The number of an address that was mentioned before. -/
def numberKnown (address : Nat) : StateM Numbering (Option Nat) := return (← get).number? address

/-- Bytes with the numbers of mentioned objects in place of their addresses. Bytes that
are no text show no addresses. -/
def Numbering.redact (numbering : Numbering) (bytes : ByteArray) : ByteArray :=
  match nextOccurrence bytes 0 with
  | none => bytes
  | some _ =>
    if bytes.validateUTF8 then (replaceFrom numberKnown bytes 0 0 ByteArray.empty numbering).1
    else bytes

def Numbering.redactText (numbering : Numbering) (text : String) : String :=
  let bytes := text.toUTF8
  match nextOccurrence bytes 0 with
  | none => text
  | some _ => Text.decode (numbering.redact bytes)

def occursIn (part : List Char) : List Char → Bool
  | [] => part.isEmpty
  | c :: rest => part.isPrefixOf (c :: rest) || occursIn part rest

/-- The number of any address but null. What does not fit in 64 bits is no address. -/
def numberAny (address : Nat) : StateM Numbering (Option Nat) := do
  if address = 0 ∨ UInt64.size ≤ address then pure none
  else some <$> Numbering.mention address

/-- The text of a failure. One that shows an address the way diagnostics do has
all its addresses mentioned, whether or not an object ever lay there; otherwise
only those that were mentioned before give way to numbers. -/
def mentionFailure (message : String) : StateM Numbering String := do
  if occursIn "ObjPtr(0x".toList message.toList then
    return Text.decode (← replaceFrom numberAny message.toUTF8 0 0 ByteArray.empty)
  else return (← get).redactText message

end CountBridge.Program
