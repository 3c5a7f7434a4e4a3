import CountBridge.Handle

/-!
Objects of the counted heap. An object is born with one count unit. An error
owns a unit of its message and a vector one unit for each place an item takes;
the other kinds own nothing.
-/

namespace CountBridge

inductive Payload where
  | plain (className : String)
  | string (bytes : ByteArray)
  | error (mess : Handle)
  | bytes (bytes : ByteArray)
  | vector (items : Array Handle)

namespace Payload

/-- The handles whose units belong to the object, in the order of giving back. -/
def slots : Payload → List Handle
  | .error mess => [mess]
  | .vector items => items.toList
  | .plain _ | .string _ | .bytes _ => []

def kind : Payload → String
  | .plain _ => "Obj"
  | .string _ => "String"
  | .error _ => "Err"
  | .bytes _ => "ByteBuf"
  | .vector _ => "Vector"

end Payload

def stringClass : String := "Clownfish::String"
def errorClass : String := "Clownfish::Err"
def bytesClass : String := "Clownfish::ByteBuf"
def vectorClass : String := "Clownfish::Vector"

structure Object where
  count : UInt32 := 1
  payload : Payload

namespace Object

def className (object : Object) : String :=
  match object.payload with
  | .plain name => name
  | .string _ => stringClass
  | .error _ => errorClass
  | .bytes _ => bytesClass
  | .vector _ => vectorClass

def isString (object : Object) : Bool :=
  match object.payload with
  | .string _ => true
  | _ => false

/-- The bytes of a string; no other kind shows any. -/
def stringBytes? (object : Object) : Option ByteArray :=
  match object.payload with
  | .string bytes => some bytes
  | _ => none

/-- The message of an error; other kinds have none. -/
def message (object : Object) : Handle :=
  match object.payload with
  | .error mess => mess
  | _ => none

def itemCount (object : Object) : Nat :=
  match object.payload with
  | .vector items => items.size
  | _ => 0

/-- One unit more. The counter is a 32-bit word and turns over unnoticed. -/
def increment (object : Object) : Object := { object with count := object.count + 1 }

def decrement (object : Object) : Object := { object with count := object.count - 1 }

end Object

end CountBridge
