import CountBridge.Handle

/-!
Addresses in text. An address is written as `0x` and the hexadecimal digits that
follow, however many there are.
-/

namespace CountBridge

/-- The value of digits with one more. A value that does not fit in 64 bits stays as it
is, so that dividing it by sixteen still gives the values of shorter runs that do. -/
def appendDigit (value digit : Nat) : Nat :=
  if value < UInt64.size then value * 16 + digit else value

/-- The longest run of hexadecimal digits from a place: where it ends, and its value. -/
def readHexadecimal (bytes : ByteArray) (place value : Nat) : Nat × Nat :=
  if inside : place < bytes.size then
    match Text.hexadecimalDigit? bytes[place].toNat with
    | some digit => readHexadecimal bytes (place + 1) (appendDigit value digit)
    | none => (place, value)
  else (place, value)
termination_by bytes.size - place

theorem le_readHexadecimal (bytes : ByteArray) (place value : Nat) :
    place ≤ (readHexadecimal bytes place value).1 := by
  fun_induction readHexadecimal bytes place value with
  | case1 place value inside digit found ih => omega
  | case2 => exact Nat.le_refl _
  | case3 => exact Nat.le_refl _

/-- An address in a text: where it begins and ends, and its value. -/
structure Occurrence where
  start : Nat
  stop : Nat
  address : Nat

/-- The first address at or after a place. -/
def nextOccurrence (bytes : ByteArray) (place : Nat) : Option Occurrence :=
  if inside : place < bytes.size then
    if bytes[place] == 0x30 && bytes[place + 1]?.any (· == 0x78) then
      let (stop, address) := readHexadecimal bytes (place + 2) 0
      some { start := place, stop, address }
    else nextOccurrence bytes (place + 1)
  else none
termination_by bytes.size - place

theorem lt_stop_of_nextOccurrence {bytes : ByteArray} {place : Nat} {found : Occurrence}
    (next : nextOccurrence bytes place = some found) :
    place < found.stop ∧ place < bytes.size := by
  fun_induction nextOccurrence bytes place with
  | case1 place inside marked stop address read =>
    have later := le_readHexadecimal bytes (place + 2) 0
    rw [read] at later
    cases next
    exact ⟨by simp only at later ⊢; omega, inside⟩
  | case2 place inside unmarked ih =>
    have later := ih next
    omega
  | case3 => contradiction

end CountBridge
