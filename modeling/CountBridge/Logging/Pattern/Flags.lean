import CountBridge.Text.Blank

/-!
Switches inside a pattern. Letters turn them on or, after a minus sign, off, for
the rest of the group they stand in or for a group of their own. One of them lets
blanks and comments stand between the parts of a pattern.
-/

namespace CountBridge.Logging.Pattern

structure Flags where
  /-- Blanks, and comments up to the end of a line, are passed over. -/
  spaced : Bool := false
  caseless : Bool := false
  /-- Characters are matched, and not bytes. -/
  unicode : Bool := true

namespace Flags

/-- Every letter is known, none stands twice, and the minus sign is followed by one. -/
def areLetters (letters : List Char) : Bool :=
  letters.length ≤ 8 && letters.all "imsURux-".toList.contains && decide letters.Nodup &&
    letters.getLast? != some '-'

def switch (flags : Flags) (letters : List Char) : Flags :=
  let on := letters.takeWhile (· != '-')
  let off := letters.dropWhile (· != '-')
  let switched (letter : Char) (before : Bool) : Bool :=
    on.contains letter || (before && !off.contains letter)
  { spaced := switched 'x' flags.spaced
    caseless := switched 'i' flags.caseless
    unicode := switched 'u' flags.unicode }

/-- What follows blanks and comments. -/
def pastBlanks (inComment : Bool) : List Char → List Char
  | [] => []
  | c :: rest =>
    if inComment then pastBlanks (c != '\n') rest
    else if c = '#' then pastBlanks true rest
    else if Text.isBlank c then pastBlanks false rest
    else c :: rest

/-- Passes over what may stand between two parts. -/
def skip (flags : Flags) (text : List Char) : List Char :=
  if flags.spaced then pastBlanks false text else text

/-- The first character that is neither blank nor the first mark of a comment. -/
def visible (marked : Bool) : List Char → Option Char
  | [] => none
  | c :: rest =>
    if Text.isBlank c then visible marked rest
    else if c = '#' ∧ !marked then visible true rest
    else some c

/-- The next character, or if blanks do not count the next visible one; where nothing
is visible, blanks count after all. -/
def peek (flags : Flags) (text : List Char) : Option Char :=
  if flags.spaced then (visible false text).or text.head? else text.head?

end Flags

end CountBridge.Logging.Pattern
