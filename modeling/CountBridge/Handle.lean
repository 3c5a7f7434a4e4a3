import CountBridge.Text.Numeral

/-!
Handles of objects. Inside the library an object is known by its place in the
order of allocation, and a handle is such a place or null. Outside, a handle is
an address: objects lie one after another from an origin on, so distinct objects
have distinct addresses, and null is address zero.
-/

namespace CountBridge

/-- Place of an object in the order of allocation. Places are never used twice. -/
abbrev ObjectId := Nat

/-- A reference to an object that owns nothing; nothing is the null handle. -/
abbrev Handle := Option ObjectId

structure Address where
  value : UInt64
deriving DecidableEq, Repr

namespace Address

def null : Address := ⟨0⟩

def isNull (address : Address) : Bool := address.value == 0

def pointer (address : Address) : String := "0x" ++ Text.hexadecimal address.value.toNat

/-- All sixteen digits. -/
def fullPointer (address : Address) : String :=
  "0x" ++ Text.padLeft '0' 16 (Text.hexadecimal address.value.toNat)

def paddedPointer (address : Address) : String := Text.padLeft ' ' 20 address.pointer

def diagnostic (address : Address) : String := "ObjPtr(" ++ address.pointer ++ ")"

/-- The bytes from an object to the next. -/
def spacing : Nat := 16

/-- Where an object lies, given where the first one does. -/
def location (origin : Nat) (id : ObjectId) : Nat := origin + spacing * id

theorem location_injective {origin : Nat} {first second : ObjectId}
    (same : location origin first = location origin second) : first = second :=
  Nat.eq_of_mul_eq_mul_left (by decide) (Nat.add_left_cancel same)

def ofHandle (origin : Nat) : Handle → Address
  | none => null
  | some id => ⟨UInt64.ofNat (location origin id)⟩

end Address

end CountBridge
