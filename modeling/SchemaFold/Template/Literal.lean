import SchemaFold.Text.CharacterName

/-! Texts in quotes inside a template, and the escapes in them. -/

namespace SchemaFold.Template

/-- Characters beyond ASCII are written as escapes before any escape is resolved, so a backslash
before one of them is a backslash that is escaped. -/
def spellOut (cs : List Char) : List Char :=
  cs.flatMap fun c => if c.toNat < 0x80 then [c] else (Text.codeEscape c).toList

/-- The codes that an escape stands for, and what follows it. -/
abbrev ReadCodes := Option (List Nat × List Char)

def isOctal (c : Char) : Bool :=
  '0' ≤ c && c ≤ '7'

/-- Up to three digits in base 8. -/
def octalEscape (cs : List Char) : List Nat × List Char :=
  let digits := (cs.take 3).takeWhile isOctal
  ([digits.foldl (fun n c => n * 8 + (c.toNat - '0'.toNat)) 0], cs.drop digits.length)

/-- Exactly `count` digits in base 16. -/
def hexEscape? (count : Nat) (cs : List Char) : ReadCodes := do
  let code ← Text.hexNumber? (cs.take count)
  if cs.length < count || 0x10FFFF < code then none else some ([code], cs.drop count)

/-- The name of a character in braces. -/
def nameEscape? : List Char → ReadCodes
  | '\x7b' :: cs => do
    let name := cs.takeWhile (· != '\x7d')
    let code ← Text.codeNamed? name
    match cs.drop name.length with
    | [] => none
    | _ :: rest => some ([code], rest)
  | _ => none

def letterEscape? : Char → Option Nat
  | '\\' => some 0x5C
  | '\'' => some 0x27
  | '"' => some 0x22
  | 'a' => some 0x07
  | 'b' => some 0x08
  | 't' => some 0x09
  | 'n' => some 0x0A
  | 'v' => some 0x0B
  | 'f' => some 0x0C
  | 'r' => some 0x0D
  | _ => none

/-- What stands after a backslash. The end of a line is left out with its backslash; before any
other character that needs none, the backslash stays. -/
def escape? : List Char → ReadCodes
  | [] => none
  | '\n' :: cs => some ([], cs)
  | 'x' :: cs => hexEscape? 2 cs
  | 'u' :: cs => hexEscape? 4 cs
  | 'U' :: cs => hexEscape? 8 cs
  | 'N' :: cs => nameEscape? cs
  | c :: cs =>
    if isOctal c then some (octalEscape (c :: cs))
    else
      match letterEscape? c with
      | some code => some ([code], cs)
      | none => some (['\\'.toNat, c.toNat], cs)

/-- The codes of at most `bound` characters and escapes. -/
def codes? : (bound : Nat) → List Char → Option (List Nat)
  | _, [] => some []
  | 0, _ => none
  | bound + 1, '\\' :: cs => do
    let (found, rest) ← escape? cs
    return found ++ (← codes? bound rest)
  | bound + 1, c :: cs => do return c.toNat :: (← codes? bound cs)

def charactersOf? : List Nat → Option (List Char)
  | [] => some []
  | [code] => do return [← Text.scalarValue? code]
  | code :: next :: codes =>
    match Text.surrogatePair? code next with
    | some c => do return c :: (← charactersOf? codes)
    | none => do return (← Text.scalarValue? code) :: (← charactersOf? (next :: codes))

/-- The text that stands in quotes. -/
def literal? (written : List Char) : Option String := do
  let cs := spellOut written
  return String.ofList (← charactersOf? (← codes? cs.length cs))

end SchemaFold.Template
