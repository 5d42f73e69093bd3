import BootRom.Text.Escaped
import BootRom.Text.Numeral

/-!
# Quoted text

Text between double quotes, on one line and visible throughout: a quote, a
backslash and the common controls have short escapes, any other character of
`isEscaped` is spelled by its code point, and the rest stands for itself.
-/

namespace BootRom.Text

/-- A character as it stands between double quotes. -/
def quotedChar (c : Char) : String :=
  if c = '\x00' then "\\0"
  else if c = '\t' then "\\t"
  else if c = '\r' then "\\r"
  else if c = '\n' then "\\n"
  else if c = '"' then "\\\""
  else if c = '\\' then "\\\\"
  else if isEscaped c then "\\u\x7b" ++ hex c.toNat ++ "\x7d"
  else c.toString

/-- Text between double quotes. -/
def quoted (text : String) : String :=
  "\"" ++ String.join (text.toList.map quotedChar) ++ "\""

end BootRom.Text
