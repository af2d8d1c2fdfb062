import SetterResolution.Text.Hidden

/-!
# Quoted texts

A text between double quotes, as error messages show names. Quotes, backslashes and line ends are
written with a backslash, hidden characters by their code point; everything else stands for itself.
-/

namespace SetterResolution.Text

/-- A character as it stands in a quoted text. -/
def escaped (c : Char) : String :=
  if c = '\x22' then "\\\""
  else if c = '\\' then "\\\\"
  else if c = '\t' then "\\t"
  else if c = '\n' then "\\n"
  else if c = '\r' then "\\r"
  else if c.toNat = 0 then "\\0"
  else if isHidden c then "\\u\x7b" ++ String.ofList (Nat.toDigits 16 c.toNat) ++ "\x7d"
  else String.ofList [c]

/-- A text in double quotes. -/
def quoted (text : String) : String :=
  "\"" ++ String.join (text.toList.map escaped) ++ "\""

/-- A list of texts in double quotes, in brackets. -/
def quotedList (texts : List String) : String :=
  "[" ++ ", ".intercalate (texts.map quoted) ++ "]"

end SetterResolution.Text
