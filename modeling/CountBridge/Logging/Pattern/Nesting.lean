/-!
How deeply a pattern is nested. Characters are not nested at all; a group, a class
and a repetition are nested one deeper than what they hold, and so are several
parts in a row.
-/

namespace CountBridge.Logging.Pattern

/-- Parts in a row: how many there are, and how deeply the deepest of them is nested. -/
structure Parts where
  count : Nat := 0
  deepest : Nat := 0

namespace Parts

def add (parts : Parts) (nesting : Nat) : Parts :=
  ⟨parts.count + 1, max parts.deepest nesting⟩

/-- One part alone is no deeper than it is by itself. -/
def nesting (parts : Parts) : Nat :=
  if parts.count ≤ 1 then parts.deepest else parts.deepest + 1

end Parts

/-- A pattern may not be nested deeper. -/
def deepestAllowed : Nat := 250

end CountBridge.Logging.Pattern
