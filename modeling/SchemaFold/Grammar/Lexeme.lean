import SchemaFold.Grammar.Name

/-! The words of a document. -/

namespace SchemaFold

inductive Punctuator where
  | bang
  | dollar
  | ampersand
  | parenLeft
  | parenRight
  | spread
  | colon
  | equals
  | atSign
  | bracketLeft
  | bracketRight
  | braceLeft
  | pipe
  | braceRight
  deriving DecidableEq, Repr

def Punctuator.text : Punctuator → String
  | .bang => "!"
  | .dollar => "$"
  | .ampersand => "&"
  | .parenLeft => "("
  | .parenRight => ")"
  | .spread => "..."
  | .colon => ":"
  | .equals => "="
  | .atSign => "@"
  | .bracketLeft => "["
  | .bracketRight => "]"
  | .braceLeft => "\x7b"
  | .pipe => "|"
  | .braceRight => "\x7d"

/-- The punctuators of one character. -/
def Punctuator.ofChar? : Char → Option Punctuator
  | '!' => some .bang
  | '$' => some .dollar
  | '&' => some .ampersand
  | '(' => some .parenLeft
  | ')' => some .parenRight
  | ':' => some .colon
  | '=' => some .equals
  | '@' => some .atSign
  | '[' => some .bracketLeft
  | ']' => some .bracketRight
  | '\x7b' => some .braceLeft
  | '|' => some .pipe
  | '\x7d' => some .braceRight
  | _ => none

/-- Numbers keep their digits as written; strings are held with their escapes resolved. -/
inductive Lexeme where
  | punctuator (p : Punctuator)
  | name (n : Name)
  | int (digits : String)
  | float (digits : String)
  | string (value : String)
  | blockString (value : String)
  | eof
  deriving DecidableEq

/-- The text that a word carries, if it is of a sort that carries one. -/
def Lexeme.value? : Lexeme → Option String
  | .punctuator _ | .eof => none
  | .name n => some n.text
  | .int s | .float s | .string s | .blockString s => some s

def Lexeme.isString : Lexeme → Bool
  | .string _ | .blockString _ => true
  | _ => false

def Lexeme.describe : Lexeme → String
  | .punctuator p => "'" ++ p.text ++ "'"
  | .eof => "<EOF>"
  | .name n => "Name '" ++ n.text ++ "'"
  | .int s => "Int '" ++ s ++ "'"
  | .float s => "Float '" ++ s ++ "'"
  | .string s => "String '" ++ s ++ "'"
  | .blockString s => "BlockString '" ++ s ++ "'"

end SchemaFold
