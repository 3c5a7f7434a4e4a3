import CountBridge.Logging.Pattern.Flags
import CountBridge.Text.Numeral

/-!
The smallest parts of a pattern, and escapes, with which many of them are
written. Nothing is known here about characters beyond ASCII, so what depends on
their case, on their kind or on the edges of words is only read where bytes are
matched; and there nothing may match a part of a character.
-/

namespace CountBridge.Logging.Pattern

inductive Atom where
  /-- A character, perhaps written as the value of a byte. -/
  | literal (c : Char) (asByte : Bool)
  | anything
  | lineEdge
  | wordEdge
  /-- A named class of characters or, if it is negated, all others. -/
  | named (negated : Bool)

/-- Whether a part can be read where it stands alone. -/
def Atom.isReadable (flags : Flags) : Atom → Bool
  | .literal c asByte =>
    if flags.unicode then !flags.caseless else !asByte || c.toNat < 0x80
  | .anything => flags.unicode
  | .lineEdge => true
  | .wordEdge => !flags.unicode
  | .named negated => !flags.unicode && !negated

/-- Whether a part can be read inside a class of characters. -/
def Atom.isMember (flags : Flags) : Atom → Bool
  | .literal c _ => if flags.unicode then !flags.caseless else c.toNat < 0x80
  | .named negated => !flags.unicode && !negated
  | _ => false

/-- A character given by a number of hexadecimal digits, which blanks may separate. -/
def readCode (flags : Flags) (digits value : Nat) (text : List Char) :
    Option (Char × List Char) :=
  match digits with
  | 0 => if value.isValidChar then some (Char.ofNat value, text) else none
  | digits + 1 =>
    match flags.skip text with
    | [] => none
    | c :: rest =>
      (Text.hexadecimalDigit? c.toNat).bind fun digit =>
        readCode flags digits (value * 16 + digit) rest

/-- What follows a backslash. Signs of ASCII stand for themselves. -/
def readEscape (flags : Flags) : List Char → Option (Atom × List Char)
  | [] => none
  | c :: rest =>
    let code (digits : Nat) : Option (Atom × List Char) :=
      (readCode flags digits 0 rest).map fun (c, rest) => (.literal c (digits == 2), rest)
    match c with
    | 'x' => code 2
    | 'u' => code 4
    | 'U' => code 8
    | 'd' | 's' | 'w' => some (.named false, rest)
    | 'D' | 'S' | 'W' => some (.named true, rest)
    | 'a' => some (.literal '\x07' false, rest)
    | 'f' => some (.literal '\x0c' false, rest)
    | 't' => some (.literal '\t' false, rest)
    | 'n' => some (.literal '\n' false, rest)
    | 'r' => some (.literal '\r' false, rest)
    | 'v' => some (.literal '\x0b' false, rest)
    | 'A' | 'z' => some (.lineEdge, rest)
    | 'b' | 'B' | '<' | '>' => some (.wordEdge, rest)
    | _ => if c.isAlphanum || 0x80 ≤ c.toNat then none else some (.literal c false, rest)

end CountBridge.Logging.Pattern
