import CountBridge.Text.Standalone
import CountBridge.Text.Numeral

/-!
Text between double quotes, fit for a log line: quotes and backslashes are
escaped, and so is every character that would not be seen as itself.
-/

namespace CountBridge.Text

/-- Writes one more character between the quotes. -/
def addQuoted (written : String) (c : Char) : String :=
  if c = '"' then written ++ "\\\""
  else if c = '\\' then written ++ "\\\\"
  else if c = '\n' then written ++ "\\n"
  else if c = '\t' then written ++ "\\t"
  else if c = '\r' then written ++ "\\r"
  else if c = '\x00' then written ++ "\\0"
  else if standsAlone c then written.push c
  else written ++ "\\u\x7b" ++ hexadecimal c.toNat ++ "\x7d"

def quoted (text : String) : String := (text.toList.foldl addQuoted "\"").push '"'

end CountBridge.Text
