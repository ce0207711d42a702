import SchemaFold.Text.CharacterName.Aliases
import SchemaFold.Text.CharacterName.Alphabets
import SchemaFold.Text.CharacterName.Ancient
import SchemaFold.Text.CharacterName.Notations
import SchemaFold.Text.CharacterName.Pictographs
import SchemaFold.Text.CharacterName.Supplements
import SchemaFold.Text.CharacterName.Syllabaries
import SchemaFold.Text.CharacterName.Symbols
import SchemaFold.Text.CodePoint

/-! Characters by name. A table holds names of characters, each after the one before: `A9:` goes on
at that code, a small letter in front stands for words that the name before begins with, one behind
for words that it ends with (`a` for one, `b` for two), and a number sign at the end for the code.
`+n` says that the next `n` names differ from the name before in their number or code only. -/

namespace SchemaFold.Text

/-- A character and the words of its name, which may end in the code. -/
structure Label where
  code : Nat
  words : List String
  coded : Bool

namespace Label

/-- Does something to the last word. -/
def changeLast (f : String → String) (words : List String) : List String :=
  words.dropLast ++ (words.getLast?.map f).toList

def name (l : Label) : List String :=
  if l.coded then
    changeLast (· ++ String.ofList ((Nat.toDigits 16 l.code).map Char.toUpper)) l.words
  else l.words

/-- A word that ends in a number, with the number one higher and at least as many digits. -/
def raise (word : String) : String :=
  let digits := (word.toList.reverse.takeWhile Char.isDigit).reverse
  let number := Nat.toDigits 10 (decimal digits + 1)
  String.ofList (word.toList.take (word.length - digits.length) ++
    List.replicate (digits.length - number.length) '0' ++ number)

def next (l : Label) : Label :=
  { l with code := l.code + 1, words := if l.coded then l.words else changeLast raise l.words }

/-- The `n` labels after one. -/
def following (l : Label) : Nat → List Label
  | 0 => []
  | n + 1 => l.next :: l.next.following n

/-- How many words a letter stands for. -/
def wordCount : Option Char → Nat
  | some c => if c.isLower then c.toNat - 'a'.toNat + 1 else 0
  | none => 0

def ofText (before : Label) (code : Nat) (text : List Char) : Label :=
  let first := wordCount text.head?
  let last := wordCount text.getLast?
  let middle := text.filter fun c => !c.isLower && c != '#'
  { code
    words :=
      before.words.take first ++ (String.ofList middle).splitOn " " ++
        before.words.drop (before.words.length - last)
    coded := text.getLast? == some '#' }

/-- What an entry of a table says after a label. -/
def read (before : Label) (entry : String) : List Label :=
  match entry.toList, entry.splitOn ":" with
  | '+' :: digits, _ => before.following (decimal digits)
  | _, [code, text] => [before.ofText ((hexNumber? code.toList).getD 0) text.toList]
  | text, _ => [before.ofText (before.code + 1) text]

/-- The code of a name in entries that stand after a label. -/
def find? (name : List String) (before : Label) : List String → Option Nat
  | [] => none
  | entry :: entries =>
    let labels := before.read entry
    match labels.find? (·.name == name) with
    | some l => some l.code
    | none => find? name (labels.getLast?.getD before) entries

end Label

def nameTables : List String :=
  [alphabetNames, syllabaryNames, symbolNames, supplementNames, ancientNames, notationNames,
    pictographNames, secondNames]

def tabulated? (name : String) : Option Nat :=
  nameTables.findSome? fun table =>
    Label.find? (name.splitOn " ") ⟨0, [], false⟩ ((table.splitOn "\n").flatMap (·.splitOn "|"))

def leadNames : List String :=
  ["G", "GG", "N", "D", "DD", "R", "M", "B", "BB", "S", "SS", "", "J", "JJ", "C", "K", "T", "P",
    "H"]

def vowelNames : List String :=
  ["A", "AE", "YA", "YAE", "EO", "E", "YEO", "YE", "O", "WA", "WAE", "OE", "YO", "U", "WEO", "WE",
    "WI", "YU", "EU", "YI", "I"]

def tailNames : List String :=
  ["", "G", "GG", "GS", "N", "NJ", "NH", "D", "L", "LG", "LM", "LB", "LS", "LT", "LP", "LH", "M",
    "B", "BS", "S", "SS", "NG", "J", "C", "K", "T", "P", "H"]

/-- Composed syllables, in the order of their codes. -/
def syllables : List String :=
  leadNames.flatMap fun lead => vowelNames.flatMap fun vowel => tailNames.map (lead ++ vowel ++ ·)

def syllable? (name : List Char) : Option Nat :=
  (syllables.findIdx? (· == String.ofList name)).map (0xAC00 + ·)

def unifiedIdeographs : List (Nat × Nat) := [
  (0x3400, 0x4DBF), (0x4E00, 0x9FFF), (0x20000, 0x2A6DF), (0x2A700, 0x2B738), (0x2B740, 0x2B81D),
  (0x2B820, 0x2CEA1), (0x2CEB0, 0x2EBE0), (0x30000, 0x3134A)]

/-- Four or five digits in upper case. -/
def ideograph? (digits : List Char) : Option Nat := do
  let code ← hexNumber? digits
  if (digits.length == 4 || digits.length == 5) && digits.all (!·.isLower) &&
      unifiedIdeographs.any fun (lo, hi) => lo ≤ code && code ≤ hi then
    some code
  else none

/-- What follows `start` in a name. -/
def after? (start : String) (name : List Char) : Option (List Char) :=
  if start.toList.isPrefixOf name then some (name.drop start.length) else none

/-- The code of the character with a name. Only names from the table may be in lower case. -/
def codeNamed? (name : List Char) : Option Nat :=
  match after? "HANGUL SYLLABLE " name, after? "CJK UNIFIED IDEOGRAPH-" name with
  | some rest, _ => syllable? rest
  | _, some rest => ideograph? rest
  | none, none => tabulated? (String.ofList (name.map Char.toUpper))

end SchemaFold.Text
