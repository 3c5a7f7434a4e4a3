import CountBridge.Logging.Pattern.Atom
import CountBridge.Logging.Pattern.Nesting

/-!
Classes of characters, which stand in brackets. A class holds characters, ranges,
named classes and further classes; two signs of a kind between its parts take what
both sides have in common, or what only one of them has.
-/

namespace CountBridge.Logging.Pattern

/-- What is open while a class is read, from the innermost outwards: a bracket with
the parts that stand before it, or the left side of an operation. -/
inductive ClassFrame where
  | bracket (before : Parts)
  | operation (left : Nat)

/-- Complements hold what is no part of a character. -/
def mayNegate (flags : Flags) : Bool := flags.unicode

def classNames : List String :=
  ["alnum", "alpha", "ascii", "blank", "cntrl", "digit", "graph", "lower", "print", "punct",
    "space", "upper", "word", "xdigit"]

/-- A named class between colons, after its bracket: whether it is negated. -/
def readNamedClass : List Char → Option (Bool × List Char)
  | ':' :: text =>
    let negated := text.head? == some '^'
    let text := if negated then text.drop 1 else text
    match text.dropWhile (· != ':') with
    | ':' :: ']' :: rest =>
      if classNames.contains (String.ofList (text.takeWhile (· != ':'))) then some (negated, rest)
      else none
    | _ => none
  | _ => none

/-- Minus signs at the beginning of a class, which stand for themselves. -/
def readMinusSigns (flags : Flags) (turns : Nat) (parts : Parts) (text : List Char) :
    Parts × List Char :=
  match turns, text with
  | turns + 1, '-' :: rest => readMinusSigns flags turns (parts.add 0) (flags.skip rest)
  | _, _ => (parts, text)

/-- The beginning of a class, after its bracket: a sign that negates it, and minus signs
or a closing bracket that stand for themselves. -/
def openClass (flags : Flags) (turns : Nat) (text : List Char) : Option (Parts × List Char) :=
  let text := flags.skip text
  let negated := text.head? == some '^'
  let text := if negated then flags.skip (text.drop 1) else text
  let (parts, text) := readMinusSigns flags turns {} text
  let (parts, text) := match parts.count, text with
    | 0, ']' :: rest => (parts.add 0, flags.skip rest)
    | _, _ => (parts, text)
  if (negated && !mayNegate flags) || (0 < parts.count && !(Atom.literal '-' false).isMember flags)
  then none
  else some (parts, text)

/-- One character, or what an escape stands for. -/
def readMember (flags : Flags) : List Char → Option (Atom × List Char)
  | [] => none
  | '\\' :: rest => readEscape flags rest
  | c :: rest => some (.literal c false, rest)

/-- A member of a class, or a range of characters in ascending order. A minus sign is
none of a range if another one or the end of the class follows. -/
def readRange (flags : Flags) (text : List Char) : Option (List Char) := do
  let (first, rest) ← readMember flags text
  if !first.isMember flags then none
  else match flags.skip rest with
    | '-' :: rest =>
      match flags.peek rest with
      | some ']' | some '-' => some ('-' :: rest)
      | _ =>
        let (last, rest) ← readMember flags (flags.skip rest)
        match first, last with
        | .literal low _, .literal high _ =>
          if low ≤ high && last.isMember flags then some rest else none
        | _, _ => none
    | rest => some rest

/-- Closes the operation that is open, if there is one. -/
def closeOperation (frames : List ClassFrame) (right : Nat) : Nat × List ClassFrame :=
  match frames with
  | .operation left :: outer => (max left right + 1, outer)
  | _ => (right, frames)

/-- Reads on inside a class: how deeply it is nested, and what follows it. Each turn takes
a character at least. -/
def readClass (flags : Flags) (turns : Nat) (frames : List ClassFrame) (parts : Parts)
    (text : List Char) : Option (Nat × List Char) :=
  match turns with
  | 0 => none
  | turns + 1 =>
    let operate (rest : List Char) : Option (Nat × List Char) :=
      let (left, outer) := closeOperation frames parts.nesting
      readClass flags turns (.operation left :: outer) {} rest
    match flags.skip text with
    | [] => none
    | '[' :: rest =>
      match readNamedClass rest with
      | some (negated, rest) =>
        if (Atom.literal 'a' false).isMember flags && (!negated || mayNegate flags) then
          readClass flags turns frames (parts.add 0) rest
        else none
      | none =>
        match openClass flags turns rest with
        | some (inner, rest) => readClass flags turns (.bracket parts :: frames) inner rest
        | none => none
    | ']' :: rest =>
      match closeOperation frames parts.nesting with
      | (nesting, [.bracket _]) => some (nesting + 1, rest)
      | (nesting, .bracket before :: outer) =>
        readClass flags turns outer (before.add (nesting + 1)) rest
      | _ => none
    | '&' :: '&' :: rest => operate rest
    | '-' :: '-' :: rest => operate rest
    | '~' :: '~' :: rest => operate rest
    | text =>
      match readRange flags text with
      | some rest => readClass flags turns frames (parts.add 0) rest
      | none => none

end CountBridge.Logging.Pattern
