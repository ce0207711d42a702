import SchemaFold.Text.CodePoint
import SchemaFold.Text.Printable

/-! Texts shown inside messages: in quotes, with the quote in use, the backslash and everything
unprintable escaped. -/

namespace SchemaFold.Text

/-- Single quotes, unless the text holds one and no double quote. -/
def quoteMark (s : String) : Char :=
  if s.toList.contains '\'' && !s.toList.contains '"' then '"' else '\''

def escape (mark c : Char) : String :=
  if c == mark || c == '\\' then String.ofList ['\\', c]
  else if c == '\n' then "\\n"
  else if c == '\r' then "\\r"
  else if c == '\t' then "\\t"
  else if isPrintable c then String.singleton c
  else codeEscape c

def quoted (s : String) : String :=
  let mark := quoteMark s
  String.singleton mark ++ String.join (s.toList.map (escape mark)) ++ String.singleton mark

end SchemaFold.Text
