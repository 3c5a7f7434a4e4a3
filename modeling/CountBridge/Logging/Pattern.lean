import CountBridge.Logging.Pattern.CharacterClass
import CountBridge.Text.Alphanumeric
import Std.Data.HashSet

/-!
Patterns that the values of fields are compared with. Only whether a pattern can
be read is decided here: its groups and classes close, what it repeats is there,
its names differ, and it is not nested too deeply. Counted repetitions, which
stand in braces, cannot be written in a field and so are not read.
-/

namespace CountBridge.Logging.Pattern

/-- What was read in a row: a switch, which cannot be repeated, or a part. -/
inductive Item where
  | switch
  | part (nesting : Nat)

def Item.nesting : Item → Nat
  | .switch => 0
  | .part nesting => nesting

/-- An open group, or the pattern itself: the alternatives that are complete, and the
items of the one that is being read, newest first. -/
structure OpenGroup where
  alternatives : Parts := {}
  items : List Item := []

namespace OpenGroup

def rowNesting (group : OpenGroup) : Nat :=
  (group.items.foldr (fun item parts => parts.add item.nesting) ({} : Parts)).nesting

/-- Ends an alternative, and another one begins. -/
def endAlternative (group : OpenGroup) : OpenGroup :=
  { alternatives := group.alternatives.add group.rowNesting }

def nesting (group : OpenGroup) : Nat := (group.alternatives.add group.rowNesting).nesting

def addPart (group : OpenGroup) (nesting : Nat) : OpenGroup :=
  { group with items := .part nesting :: group.items }

def repeatLast? (group : OpenGroup) : Option OpenGroup :=
  match group.items with
  | .part nesting :: items => some { group with items := .part (nesting + 1) :: items }
  | _ => none

end OpenGroup

/-- What is read so far: the group that is being read, and those around it with the
switches that hold again when it is closed. -/
structure Reading where
  flags : Flags := {}
  names : Std.HashSet String := {}
  group : OpenGroup := {}
  outer : List (OpenGroup × Flags) := []

namespace Reading

def addPart (reading : Reading) (nesting : Nat) : Reading :=
  { reading with group := reading.group.addPart nesting }

/-- Adds a part if it can be read here. -/
def addAtom? (reading : Reading) (atom : Atom) : Option Reading :=
  if atom.isReadable reading.flags then some (reading.addPart 0) else none

/-- Opens a group with switches of its own. -/
def openGroup (reading : Reading) (flags : Flags) : Reading :=
  { reading with
    flags
    group := {}
    outer := (reading.group, reading.flags) :: reading.outer }

def closeGroup? (reading : Reading) : Option Reading :=
  match reading.outer with
  | (group, flags) :: outer =>
    some { reading with flags, outer, group := group.addPart (reading.group.nesting + 1) }
  | [] => none

/-- A name begins with a letter and goes on with letters, numbers and some signs. -/
def isGroupName : List Char → Bool
  | [] => false
  | c :: rest =>
    (c == '_' || Text.isAlphabetic c) &&
      rest.all fun c => "_.[]".toList.contains c || Text.isAlphanumeric c

/-- A group with a name, which no other group has. -/
def openNamed? (reading : Reading) (text : List Char) : Option (Reading × List Char) :=
  let letters := text.takeWhile (· != '>')
  let name := String.ofList letters
  match text.dropWhile (· != '>') with
  | [] => none
  | _ :: rest =>
    if isGroupName letters && !reading.names.contains name then
      some ({ reading with names := reading.names.insert name }.openGroup reading.flags, rest)
    else none

/-- Switches for the rest of the group, or with a group of their own. -/
def openSwitched? (reading : Reading) (text : List Char) : Option (Reading × List Char) :=
  let letters := text.takeWhile fun c => c != ':' && c != ')'
  let flags := reading.flags.switch letters
  if Flags.areLetters letters then
    match text.drop letters.length with
    | ':' :: rest => some (reading.openGroup flags, rest)
    | _ :: rest =>
      if letters.isEmpty then none
      else some ({ reading with
        flags, group.items := .switch :: reading.group.items }, rest)
    | [] => none
  else none

/-- What follows the parenthesis that opens a group. Patterns cannot look around. -/
def open? (reading : Reading) (text : List Char) : Option (Reading × List Char) :=
  match reading.flags.skip text with
  | '?' :: '!' :: _ | '?' :: '=' :: _ | '?' :: '<' :: '!' :: _ | '?' :: '<' :: '=' :: _ => none
  | '?' :: 'P' :: '<' :: rest => reading.openNamed? rest
  | '?' :: '<' :: rest => reading.openNamed? rest
  | '?' :: rest => reading.openSwitched? rest
  | rest => some (reading.openGroup reading.flags, rest)

/-- A sign of repetition. A question mark behind it tells how much is repeated. -/
def repeat? (reading : Reading) (text : List Char) : Option (Reading × List Char) :=
  let rest := match text with
    | '?' :: rest => rest
    | _ => text
  reading.group.repeatLast?.map fun group => ({ reading with group }, rest)

/-- Reads what begins with a character. -/
def next? (reading : Reading) (turns : Nat) (c : Char) (rest : List Char) :
    Option (Reading × List Char) :=
  let atom (atom : Atom) : Option (Reading × List Char) := (reading.addAtom? atom).map (·, rest)
  match c with
  | '(' => reading.open? rest
  | ')' => reading.closeGroup?.map (·, rest)
  | '|' => some ({ reading with group := reading.group.endAlternative }, rest)
  | '[' => do
    let (parts, rest) ← openClass reading.flags turns rest
    let (nesting, rest) ← readClass reading.flags turns [.bracket {}] parts rest
    some (reading.addPart nesting, rest)
  | '*' | '+' | '?' => reading.repeat? rest
  | '{' => none
  | '\\' => do
    let (escaped, rest) ← readEscape reading.flags rest
    let reading ← reading.addAtom? escaped
    some (reading, rest)
  | '.' => atom .anything
  | '^' | '$' => atom .lineEdge
  | _ => atom (.literal c false)

/-- Reads to the end. Each turn takes a character at least. -/
def canFinish (turns : Nat) (reading : Reading) (text : List Char) : Bool :=
  match reading.flags.skip text with
  | [] => reading.outer.isEmpty && reading.group.nesting ≤ deepestAllowed
  | c :: rest =>
    match turns with
    | 0 => false
    | turns + 1 =>
      match reading.next? (turns + 1) c rest with
      | some (reading, rest) => canFinish turns reading rest
      | none => false

end Reading

def canBeRead (text : List Char) : Bool := Reading.canFinish text.length {} text

end CountBridge.Logging.Pattern
