import CountBridge.Logging.Level
import CountBridge.Logging.Pattern
import CountBridge.Text.Alphanumeric
import CountBridge.Text.Blank
import CountBridge.Text.Numeral

/-!
Directives of a filter, and how they are read. A directive limits the targets
that begin with a text. Brackets narrow it to what happens within a span, and
braces inside the brackets to what carries a field, perhaps of a certain value.
-/

namespace CountBridge.Logging

structure Field where
  name : List Char
  value : Option (List Char) := none
deriving DecidableEq, Repr

/-- A limit for targets that begin with `start`; without a level nothing passes. -/
structure Directive where
  start : List Char := []
  span : Option (List Char) := none
  field : Option Field := none
  limit : Option Level := some .trace
deriving DecidableEq, Repr

def verbosityOf : Option Level → Nat
  | some level => level.verbosity
  | none => 0

/-- The limits by number, from nothing to everything. -/
def limits : List (Option Level) := none :: Level.all.map some

/-- A limit is a number, a level or the word off. Case does not matter in ASCII letters. -/
def readLimit (text : List Char) : Option (Option Level) :=
  match (Text.readCount text).bind fun number => limits[number.toNat]? with
  | some limit => some limit
  | none =>
    let lowered := text.map Char.toLower
    if lowered = "off".toList then some none
    else (Level.all.find? fun level => lowered = level.name.toList).map some

def startsTarget (c : Char) : Bool := c == '-' || c == ':' || c == '_' || Text.isAlphanumeric c

/-- A name, or a name and a value, which is a number or a pattern. What follows a
second equals sign is ignored. -/
def Field.ofText? (text : List Char) : Option Field :=
  let name := text.takeWhile (· != '=')
  match text.dropWhile (· != '=') with
  | [] => if name.isEmpty then none else some { name }
  | _ :: rest =>
    let value := rest.takeWhile (· != '=')
    if Text.isReal value || Pattern.canBeRead value then some { name, value := some value } else none

namespace Directive

/-- The part of a directive that is being read, and the place where it begins. -/
inductive Stage where
  | blank
  | target
  | span (start : Nat)
  | field (start : Nat)
  | fieldEnd
  | bracketEnd
  | limit (start : Nat)
deriving DecidableEq, Repr

/-- What is left after a number of bytes. -/
def after : Nat → List Char → List Char
  | _, [] => []
  | bytes, c :: rest => if bytes = 0 then c :: rest else after (bytes - c.utf8Size) rest

/-- The characters that begin within a number of bytes, after those already taken, which
come in reverse. -/
def within (taken : List Char) : Nat → List Char → List Char
  | _, [] => taken.reverse
  | bytes, c :: rest =>
    if bytes = 0 then taken.reverse else within (c :: taken) (bytes - c.utf8Size) rest

/-- What lies between two places of a text, which are counted in bytes. -/
def between (text : List Char) (start stop : Nat) : List Char :=
  within [] (stop - start) (after start text)

/-- Goes over one character, at a place. -/
def advance (text : List Char) (place : Nat) (c : Char) (stage : Stage) (read : Directive) :
    Option (Stage × Directive) :=
  match stage with
  | .blank =>
    if c = '[' then some (.span (place + 1), read)
    else if startsTarget c then some (.target, read) else none
  | .target =>
    if c = '=' then some (.limit (place + 1), { read with start := between text 0 place })
    else if c = '[' then some (.span (place + 1), { read with start := between text 0 place })
    else some (stage, read)
  | .span start =>
    if c = ']' then some (.bracketEnd, { read with span := some (between text start place) })
    else if c = '{' then
      let name := between text start place
      some (.field (place + 1), { read with span := if name.isEmpty then none else some name })
    else some (stage, read)
  | .field start =>
    if c = '}' then
      (Field.ofText? (between text start place)).map fun field =>
        (.fieldEnd, { read with field := some field })
    else some (stage, read)
  | .fieldEnd => if c = ']' then some (.bracketEnd, read) else none
  | .bracketEnd => if c = '=' then some (.limit (place + 1), read) else none
  | .limit _ => some (stage, read)

/-- What was read when the text ends. A text without brackets or equals sign is a
limit for everything, or else a target that is fully open. -/
def complete (text : List Char) (stage : Stage) (read : Directive) : Option Directive :=
  match stage with
  | .target =>
    match readLimit text with
    | some limit => some { read with limit }
    | none => some { read with start := text }
  | .limit start =>
    let word := after start text
    if word.isEmpty then some read else (readLimit word).map ({ read with limit := · })
  | .bracketEnd => some read
  | _ => none

def readFrom (text : List Char) (place : Nat) (stage : Stage) (read : Directive) :
    List Char → Option Directive
  | [] => complete text stage read
  | c :: rest =>
    match advance text place c stage read with
    | some (stage, read) => readFrom text (place + c.utf8Size) stage read rest
    | none => none

/-- Blanks around a directive are passed over, and places are counted from the first
character that is no blank; but what lies between two places is taken from the text
with its blanks. -/
def ofText? (text : List Char) : Option Directive := readFrom text 0 .blank {} (Text.trim text)

/-- Whether events of a target may be concerned outside all spans. They may carry
any field, but no value of one is known before. -/
def concerns (directive : Directive) (target : String) : Bool :=
  directive.span.isNone && directive.field.all (·.value.isNone) &&
    directive.start.isPrefixOf target.toList

/-- Of two directives for one target, the one with the longer text is more
specific, then the one with a field, then the one with the later name of a field. -/
def lessSpecific (first second : Directive) : Bool :=
  if first.start.length = second.start.length then
    match first.field, second.field with
    | none, none => false
    | none, some _ => true
    | some _, none => false
    | some field, some other => decide (field.name < other.name)
  else decide (first.start.length < second.start.length)

/-- The most verbose level that a directive may have to let through. Values of fields
are only known when they are recorded, so all that could carry them is let through. -/
def reach (directive : Directive) : Option Level :=
  if directive.field.any (·.value.isSome) then some .trace else directive.limit

end Directive

end CountBridge.Logging
