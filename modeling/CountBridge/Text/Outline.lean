import CountBridge.Text.Quoted

/-!
Structured values as diagnostic text, on one line or spread over several. A
value is a word, a record of named fields, or a name around values; a record
may admit that it does not show all of its fields.
-/

namespace CountBridge.Text

inductive Outline where
  | word (text : String)
  | record (name : String) (fields : List (String × Outline)) (complete : Bool)
  | around (name : String) (content : Outline)

namespace Outline

def text (value : String) : Outline := .word (quoted value)

def number (value : Nat) : Outline := .word (toString value)

def flag (value : Bool) : Outline := .word (if value then "true" else "false")

mutual

def line : Outline → String
  | .word text => text
  | .around name content => name ++ "(" ++ content.line ++ ")"
  | .record name fields complete =>
    let ending := if complete then [] else [".."]
    name ++ " \x7b " ++ ", ".intercalate (fieldLines fields ++ ending) ++ " \x7d"

def fieldLines : List (String × Outline) → List String
  | [] => []
  | (name, value) :: rest => (name ++ ": " ++ value.line) :: fieldLines rest

end

def indentation (depth : Nat) : String := String.ofList (List.replicate (4 * depth) ' ')

mutual

/-- One field a line, four spaces deeper than the line that opens the record. -/
def spread (depth : Nat) : Outline → String
  | .word text => text
  | .around name content =>
    name ++ "(\n" ++ indentation (depth + 1) ++ content.spread (depth + 1) ++ ",\n" ++
      indentation depth ++ ")"
  | .record name fields complete =>
    let ending := if complete then "" else indentation (depth + 1) ++ "..\n"
    name ++ " \x7b\n" ++ spreadFields (depth + 1) fields ++ ending ++ indentation depth ++ "\x7d"

def spreadFields (depth : Nat) : List (String × Outline) → String
  | [] => ""
  | (name, value) :: rest =>
    indentation depth ++ name ++ ": " ++ value.spread depth ++ ",\n" ++ spreadFields depth rest

end

end Outline

end CountBridge.Text
