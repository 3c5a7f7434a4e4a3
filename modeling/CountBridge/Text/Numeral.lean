/-!
Numbers as text: counts of 64 bits are read in plain decimal and refused when
they do not fit, addresses are written in hexadecimal.
-/

namespace CountBridge.Text

def decimalDigit? (c : Char) : Option Nat :=
  if '0' ≤ c ∧ c ≤ '9' then some (c.toNat - '0'.toNat) else none

/-- The value of a text that consists of decimal digits, if it fits in 64 bits. -/
def readDigits (digits : List Char) (value : Nat) : Option UInt64 :=
  match digits with
  | [] => some (UInt64.ofNat value)
  | c :: rest =>
    match decimalDigit? c with
    | some digit =>
      let longer := value * 10 + digit
      if longer < UInt64.size then readDigits rest longer else none
    | none => none

/-- A count: one plus sign at most, then at least one digit, of a value that
fits in 64 bits. -/
def readCount (text : List Char) : Option UInt64 :=
  let digits := match text with
    | '+' :: rest => rest
    | _ => text
  if digits.isEmpty then none else readDigits digits 0

/-- The mark of an exponent, one sign at most, and at least one digit. -/
def isExponent : List Char → Bool
  | [] => false
  | mark :: text =>
    let digits := match text with
      | '+' :: rest | '-' :: rest => rest
      | _ => text
    mark.toLower == 'e' && !digits.isEmpty && digits.all Char.isDigit

/-- A number: one sign at most, and then digits with at most one point among them or
beside them and perhaps an exponent, or a word for what is infinite or no number. -/
def isReal (text : List Char) : Bool :=
  let unsigned := match text with
    | '+' :: rest | '-' :: rest => rest
    | _ => text
  let whole := unsigned.takeWhile Char.isDigit
  let rest := unsigned.dropWhile Char.isDigit
  let (fraction, rest) := match rest with
    | '.' :: rest => (rest.takeWhile Char.isDigit, rest.dropWhile Char.isDigit)
    | _ => ([], rest)
  ["inf", "infinity", "nan"].contains (String.ofList (unsigned.map Char.toLower)) ||
    (!(whole ++ fraction).isEmpty && (rest.isEmpty || isExponent rest))

/-- The value of a hexadecimal digit of either case, given as a code point. -/
@[inline] def hexadecimalDigit? (code : Nat) : Option Nat :=
  if 0x30 ≤ code ∧ code ≤ 0x39 then some (code - 0x30)
  else if 0x61 ≤ code ∧ code ≤ 0x66 then some (code - 0x57)
  else if 0x41 ≤ code ∧ code ≤ 0x46 then some (code - 0x37)
  else none

/-- Lower-case hexadecimal digits without leading zeros. -/
def hexadecimal (value : Nat) : String := String.ofList (Nat.toDigits 16 value)

/-- Fills up on the left to a width counted in characters. -/
def padLeft (fill : Char) (width : Nat) (text : String) : String :=
  String.ofList (List.replicate (width - text.length) fill) ++ text

end CountBridge.Text
