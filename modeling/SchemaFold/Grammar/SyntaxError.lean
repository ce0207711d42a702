import SchemaFold.Grammar.Lexeme
import SchemaFold.Text.Position

/-! What is wrong with a text that is no document, and where. -/

namespace SchemaFold

/-- A word that the grammar asks for. -/
inductive SyntaxError.Wanted where
  | name
  | punctuator (p : Punctuator)
  | keyword (word : String)
  deriving DecidableEq

inductive SyntaxError.Cause where
  | unexpectedCharacter (c : Char)
  | singleQuote
  | digitAfterZero (c : Char)
  | digitExpected (found : Option Char)
  | unterminatedString
  | invalidEscape (shown : String)
  | invalidUnicodeEscape (shown : String)
  | expected (wanted : SyntaxError.Wanted) (found : Lexeme)
  | unexpected (found : Lexeme)
  | unexpectedDescription
  | describedShorthand
  | reservedEnumValue (found : Lexeme)
  | constantVariable (name : Name)
  | nestedTooDeeply
  deriving DecidableEq

/-- The cause, and the number of characters before the place it is reported at. -/
structure SyntaxError where
  cause : SyntaxError.Cause
  offset : Nat
  deriving DecidableEq

/-- Visible ASCII in quotes, any other character by its number in at least four digits. -/
def SyntaxError.showCharacter (c : Char) : String :=
  if 0x20 ≤ c.toNat && c.toNat ≤ 0x7E then "'" ++ String.singleton c ++ "'"
  else
    let digits := (Nat.toDigits 16 c.toNat).map Char.toUpper
    "U+" ++ String.ofList (List.replicate (4 - digits.length) '0' ++ digits)

def SyntaxError.Wanted.describe : SyntaxError.Wanted → String
  | .name => "Name"
  | .punctuator p => "'" ++ p.text ++ "'"
  | .keyword word => "'" ++ word ++ "'"

def SyntaxError.Cause.message : SyntaxError.Cause → String
  | .unexpectedCharacter c => "Unexpected character: " ++ showCharacter c ++ "."
  | .singleQuote =>
    "Unexpected single quote character ('), did you mean to use a double quote (\")?"
  | .digitAfterZero c => "Invalid number, unexpected digit after 0: " ++ showCharacter c ++ "."
  | .digitExpected found =>
    "Invalid number, expected digit but got: " ++ (found.map showCharacter).getD "<EOF>" ++ "."
  | .unterminatedString => "Unterminated string."
  | .invalidEscape shown => "Invalid character escape sequence: '" ++ shown ++ "'."
  | .invalidUnicodeEscape shown => "Invalid Unicode escape sequence: '" ++ shown ++ "'."
  | .expected wanted found =>
    "Expected " ++ wanted.describe ++ ", found " ++ found.describe ++ "."
  | .unexpected found => "Unexpected " ++ found.describe ++ "."
  | .unexpectedDescription =>
    "Unexpected description, only GraphQL definitions support descriptions."
  | .describedShorthand =>
    "Unexpected description, descriptions are not supported on shorthand queries."
  | .reservedEnumValue found =>
    found.describe ++ " is reserved and cannot be used for an enum value."
  | .constantVariable name => "Unexpected variable '$" ++ name.text ++ "' in constant value."
  | .nestedTooDeeply => "Document is nested too deeply. Parsing aborted."

def SyntaxError.message (e : SyntaxError) : String :=
  "Syntax Error: " ++ e.cause.message

def SyntaxError.position (e : SyntaxError) (source : String) : Text.Position :=
  Text.Position.ofOffset source e.offset

end SchemaFold
