import SchemaFold.Grammar.BlockString
import SchemaFold.Grammar.SyntaxError
import SchemaFold.Text.CodePoint

/-! The words of a text in order. The reader of a document takes them one by one and looks one
word ahead, so a text that goes wrong at some word is still read up to the word before it. -/

namespace SchemaFold

structure Token where
  lexeme : Lexeme
  start : Nat
  deriving DecidableEq

/-- Words up to the end of the text or up to the first one that cannot be read. -/
inductive Tokens where
  | last (start : Nat)
  | stop (error : SyntaxError)
  | cons (token : Token) (rest : Tokens)
  deriving DecidableEq

namespace Lexeme

/-- A word is read to the number of characters it takes up after its first; an error has its
offset from there. -/
abbrev Read := Except SyntaxError (Lexeme × Nat)

def isLineEnd (c : Char) : Bool :=
  c == '\n' || c == '\r'

/-- At least one digit, from `offset` on; yields their number. -/
def readDigits (offset : Nat) (cs : List Char) : Except SyntaxError Nat :=
  match (cs.takeWhile Char.isDigit).length with
  | 0 => .error ⟨.digitExpected cs.head?, offset⟩
  | n + 1 => .ok (n + 1)

/-- A number without its sign, before any point or exponent: no digit follows a leading zero. -/
def readWhole (offset : Nat) : List Char → Except SyntaxError Nat
  | '0' :: d :: _ => if d.isDigit then .error ⟨.digitAfterZero d, offset + 1⟩ else .ok 1
  | cs => readDigits offset cs

def readFraction (offset : Nat) : List Char → Except SyntaxError Nat
  | '.' :: cs => (· + 1) <$> readDigits (offset + 1) cs
  | _ => .ok 0

def readExponent (offset : Nat) : List Char → Except SyntaxError Nat
  | [] => .ok 0
  | e :: cs =>
    if e == 'e' || e == 'E' then
      match cs with
      | '+' :: cs | '-' :: cs => (· + 2) <$> readDigits (offset + 2) cs
      | cs => (· + 1) <$> readDigits (offset + 1) cs
    else .ok 0

def signLength : List Char → Nat
  | '-' :: _ => 1
  | _ => 0

/-- A number and its length. It ends where no point and no letter follows. -/
def readNumber (cs : List Char) : Read := do
  let sign := signLength cs
  let whole ← readWhole sign (cs.drop sign)
  let fraction ← readFraction (sign + whole) (cs.drop (sign + whole))
  let exponent ← readExponent (sign + whole + fraction) (cs.drop (sign + whole + fraction))
  let size := sign + whole + fraction + exponent
  let digits := String.ofList (cs.take size)
  let number := if fraction + exponent == 0 then Lexeme.int digits else Lexeme.float digits
  match (cs.drop size).head? with
  | some c =>
    if c == '.' || Name.isStart c then throw ⟨.digitExpected (some c), size⟩
    else return (number, size)
  | none => return (number, size)

def hexFour? : List Char → Option Nat
  | a :: b :: c :: d :: _ => Text.hexNumber? [a, b, c, d]
  | _ => none

/-- An escape's character and the number of characters it takes up after the backslash. -/
abbrev ReadEscape := Except SyntaxError.Cause (Char × Nat)

def invalidUnicode (shown : List Char) : SyntaxError.Cause :=
  .invalidUnicodeEscape (String.ofList ('\\' :: shown))

/-- Four digits after `u`, or two such escapes for a pair of surrogates. -/
def readFixedEscape (cs : List Char) : ReadEscape :=
  let refused := .error (invalidUnicode ('u' :: cs.take 4))
  match hexFour? cs with
  | none => refused
  | some code =>
    match Text.scalarValue? code with
    | some c => .ok (c, 5)
    | none =>
      match cs.drop 4 with
      | '\\' :: 'u' :: trail =>
        match (hexFour? trail).bind (Text.surrogatePair? code) with
        | some c => .ok (c, 11)
        | none => refused
      | _ => refused

/-- Digits in braces after `u`: `digits` of them are read, worth `code`, and `room` is left for
more characters. The text shown in an error ends with the character that is wrong. -/
def readBracedEscape (all : List Char) (digits code : Nat) : (room : Nat) → List Char → ReadEscape
  | 0, _ | _ + 1, [] => .error (invalidUnicode (all.take (digits + 2)))
  | room + 1, c :: cs =>
    if c == '\x7d' then
      match Text.scalarValue? code with
      | some found =>
        if digits == 0 then .error (invalidUnicode (all.take 3)) else .ok (found, digits + 3)
      | none => .error (invalidUnicode (all.take (digits + 3)))
    else
      match Text.hexDigit? c with
      | some d => readBracedEscape all (digits + 1) (code * 16 + d) room cs
      | none => .error (invalidUnicode (all.take (digits + 3)))

def simpleEscape? : Char → Option Char
  | '"' => some '"'
  | '\\' => some '\\'
  | '/' => some '/'
  | 'b' => some '\x08'
  | 'f' => some '\x0c'
  | 'n' => some '\n'
  | 'r' => some '\r'
  | 't' => some '\t'
  | _ => none

/-- What follows a backslash. Escapes in braces take up at most twelve characters with it. -/
def readEscape : List Char → ReadEscape
  | [] => .error (.invalidEscape "\\")
  | 'u' :: '\x7b' :: cs => readBracedEscape ('u' :: '\x7b' :: cs) 0 0 9 cs
  | 'u' :: cs => readFixedEscape cs
  | c :: _ =>
    match simpleEscape? c with
    | some found => .ok (found, 1)
    | none => .error (.invalidEscape (String.ofList ['\\', c]))

/-- The characters of a string and the offset after its closing quote. -/
def readString (offset : Nat) (cs : List Char) : Except SyntaxError (List Char × Nat) :=
  match cs with
  | [] => .error ⟨.unterminatedString, offset⟩
  | c :: rest =>
    if c == '"' then .ok ([], offset + 1)
    else if c == '\\' then
      match readEscape rest with
      | .error cause => .error ⟨cause, offset⟩
      | .ok (found, size) => do
        let (value, stop) ← readString (offset + 1 + size) (rest.drop size)
        return (found :: value, stop)
    else if isLineEnd c then .error ⟨.unterminatedString, offset⟩
    else do
      let (value, stop) ← readString (offset + 1) rest
      return (c :: value, stop)
termination_by cs.length

/-- Puts characters before the first of the lines. -/
def onFirstLine (front : List Char) : List (List Char) → List (List Char)
  | [] => [front]
  | line :: lines => (front ++ line) :: lines

/-- The lines of a block string and the offset after its closing quotes. -/
def readBlockString (offset : Nat) : List Char → Except SyntaxError (List (List Char) × Nat)
  | '"' :: '"' :: '"' :: _ => .ok ([[]], offset + 3)
  | '\\' :: '"' :: '"' :: '"' :: rest => do
    let (lines, stop) ← readBlockString (offset + 4) rest
    return (onFirstLine ['"', '"', '"'] lines, stop)
  | '\r' :: '\n' :: rest => do
    let (lines, stop) ← readBlockString (offset + 2) rest
    return ([] :: lines, stop)
  | c :: rest => do
    let (lines, stop) ← readBlockString (offset + 1) rest
    return (if isLineEnd c then [] :: lines else onFirstLine [c] lines, stop)
  | [] => .error ⟨.unterminatedString, offset⟩

/-- The word that starts with `c` and goes on into `cs`. -/
def read (c : Char) (cs : List Char) : Read :=
  match Punctuator.ofChar? c with
  | some p => .ok (.punctuator p, 0)
  | none =>
    if c.isDigit || c == '-' then do
      let (number, size) ← readNumber (c :: cs)
      return (number, size - 1)
    else if h : Name.isStart c = true then
      .ok (.name (Name.read c cs h), (cs.takeWhile Name.isContinue).length)
    else if c == '"' then
      match cs with
      | '"' :: '"' :: body => do
        let (lines, stop) ← readBlockString 3 body
        return (.blockString (BlockString.value lines), stop - 1)
      | body => do
        let (value, stop) ← readString 1 body
        return (.string (String.ofList value), stop - 1)
    else
      match c, cs with
      | '.', '.' :: '.' :: _ => .ok (.punctuator .spread, 2)
      | '\'', _ => .error ⟨.singleQuote, 0⟩
      | _, _ => .error ⟨.unexpectedCharacter c, 0⟩

end Lexeme

namespace Tokens

/-- White space, line ends, commas and byte order marks stand for nothing between words. -/
def isIgnored (c : Char) : Bool :=
  c == ' ' || c == '\t' || c == ',' || c == '\ufeff' || Lexeme.isLineEnd c

def commentLength (cs : List Char) : Nat :=
  (cs.takeWhile (!Lexeme.isLineEnd ·)).length

/-- The words of `cs`, which starts at `offset` of the whole text. -/
def scan (offset : Nat) (cs : List Char) : Tokens :=
  match cs with
  | [] => .last offset
  | c :: rest =>
    if isIgnored c then scan (offset + 1) rest
    else if c == '#' then
      scan (offset + 1 + commentLength rest) (rest.drop (commentLength rest))
    else
      match Lexeme.read c rest with
      | .error e => .stop ⟨e.cause, offset + e.offset⟩
      | .ok (lexeme, size) => .cons ⟨lexeme, offset⟩ (scan (offset + 1 + size) (rest.drop size))
termination_by cs.length

def ofSource (source : String) : Tokens :=
  scan 0 source.toList

def lexeme : Tokens → Lexeme
  | cons token _ => token.lexeme
  | last _ | stop _ => .eof

def start : Tokens → Nat
  | cons token _ => token.start
  | last start => start
  | stop error => error.offset

def size : Tokens → Nat
  | cons _ rest => rest.size + 1
  | last _ | stop _ => 0

/-- The words once the next one has been looked at, which fails if it cannot be read. -/
def checked : Tokens → Except SyntaxError Tokens
  | stop error => .error error
  | ts => .ok ts

/-- The words after the first. -/
def next : Tokens → Except SyntaxError Tokens
  | cons _ rest => rest.checked
  | ts => ts.checked

end Tokens

/-- Whether a text holds anything besides what is ignored between words. -/
def hasDefinitions (source : String) : Except SyntaxError Bool := do
  let ts ← (Tokens.ofSource source).checked
  return ts.lexeme ≠ .eof

end SchemaFold
