/-!
UTF-8 at the boundary. Bytes that come back from the object system are read
leniently, one replacement character for each longest start of a character that
leads nowhere, and text that goes out is cut only between characters. Both are
the identity where nothing is wrong, which is why no text changes on its way.
-/

namespace CountBridge.Text

/-- What must follow a first byte: the bits it contributes and, for each further
byte of its character, the range that byte has to lie in. -/
structure Opening where
  bits : Nat
  ranges : List (UInt8 × UInt8)
deriving DecidableEq, Repr

/-- The first bytes of well-formed characters. Overlong forms, surrogates and
code points past the last plane are shut out by the range of the second byte. -/
def opening? (first : UInt8) : Option Opening :=
  if first ≤ 0x7F then some ⟨first.toNat, []⟩
  else if 0xC2 ≤ first ∧ first ≤ 0xDF then some ⟨first.toNat - 0xC0, [(0x80, 0xBF)]⟩
  else if first = 0xE0 then some ⟨0, [(0xA0, 0xBF), (0x80, 0xBF)]⟩
  else if first = 0xED then some ⟨0xD, [(0x80, 0x9F), (0x80, 0xBF)]⟩
  else if 0xE1 ≤ first ∧ first ≤ 0xEF then some ⟨first.toNat - 0xE0, [(0x80, 0xBF), (0x80, 0xBF)]⟩
  else if first = 0xF0 then some ⟨0, [(0x90, 0xBF), (0x80, 0xBF), (0x80, 0xBF)]⟩
  else if 0xF1 ≤ first ∧ first ≤ 0xF3 then
    some ⟨first.toNat - 0xF0, [(0x80, 0xBF), (0x80, 0xBF), (0x80, 0xBF)]⟩
  else if first = 0xF4 then some ⟨4, [(0x80, 0x8F), (0x80, 0xBF), (0x80, 0xBF)]⟩
  else none

/-- Reads the further bytes of a character. Stops before the first byte that
cannot continue it, so that byte may begin the next character. -/
def continueWith (bits : Nat) : List (UInt8 × UInt8) → List UInt8 → Option Nat × List UInt8
  | [], bytes => (some bits, bytes)
  | _ :: _, [] => (none, [])
  | (low, high) :: ranges, byte :: bytes =>
    if low ≤ byte ∧ byte ≤ high then continueWith (bits * 64 + (byte.toNat - 0x80)) ranges bytes
    else (none, byte :: bytes)

theorem continueWith_length_le (bits : Nat) (ranges : List (UInt8 × UInt8)) (bytes : List UInt8) :
    (continueWith bits ranges bytes).2.length ≤ bytes.length := by
  induction bytes generalizing bits ranges with
  | nil => cases ranges <;> simp [continueWith]
  | cons byte bytes ih =>
    cases ranges with
    | nil => simp [continueWith]
    | cons range ranges =>
      rw [continueWith]
      split
      · exact Nat.le_succ_of_le (ih _ _)
      · simp

/-- Reads one character from bytes that begin with `first`; no number stands
for a beginning that is not well formed. -/
def readCharacter (first : UInt8) (bytes : List UInt8) : Option Nat × List UInt8 :=
  match opening? first with
  | some opening => continueWith opening.bits opening.ranges bytes
  | none => (none, bytes)

theorem readCharacter_length_le (first : UInt8) (bytes : List UInt8) :
    (readCharacter first bytes).2.length ≤ bytes.length := by
  rw [readCharacter]
  split
  · exact continueWith_length_le _ _ _
  · exact Nat.le_refl _

def replacement : Char := '\uFFFD'

/-- The characters of any bytes, with one replacement for every longest stretch
that begins a character without finishing it. -/
def decodeLeniently : List UInt8 → List Char
  | [] => []
  | first :: bytes =>
    ((readCharacter first bytes).1.map Char.ofNat).getD replacement ::
      decodeLeniently (readCharacter first bytes).2
termination_by bytes => bytes.length
decreasing_by
  have := readCharacter_length_le first bytes
  simp only [List.length_cons]
  omega

/-- Text of any bytes: the text they encode, or a lenient reading of them. -/
def decode (bytes : ByteArray) : String :=
  match String.fromUTF8? bytes with
  | some text => text
  | none => String.ofList (decodeLeniently bytes.data.toList)

/-- The last position not after `limit` at which `text` may be cut. -/
def cutPosition (text : String) : Nat → Nat
  | 0 => 0
  | limit + 1 =>
    if String.Pos.Raw.isValid text ⟨limit + 1⟩ then limit + 1 else cutPosition text limit

/-- Keeps as many whole characters as fit in `limit` bytes. -/
def clamp (text : String) (limit : Nat) : String :=
  if text.utf8ByteSize ≤ limit then text
  else String.Pos.Raw.extract text 0 ⟨cutPosition text limit⟩

end CountBridge.Text
