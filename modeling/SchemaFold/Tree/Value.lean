import SchemaFold.Number.Double
import SchemaFold.Text.Quoted
import SchemaFold.Tree.Kind

/-! Trees of nodes and what nodes fold into. While a tree is folded, text and types take the place
of nodes, so both are values of one type. -/

namespace SchemaFold

/-- The text of a type, and whether it excludes null. -/
structure FoldedType where
  text : String
  required : Bool := false
  deriving DecidableEq, Repr

/-- A list of nodes is a part of a tree; `entries` are what a whole document folds into. -/
inductive Value where
  | absent
  | text (s : String)
  | type (t : FoldedType)
  | suppressed
  | flag (b : Bool)
  | integer (n : Int)
  | real (x : Double)
  | list (items : List Value)
  | entries (items : List Value)
  | node (kind : Kind) (parts : List (Part × Value))

namespace Value

/-- A part of a node, absent when the node does not have it. -/
def part (p : Part) (parts : List (Part × Value)) : Value :=
  match parts.find? (·.1 == p) with
  | some (_, v) => v
  | none => absent

/-- Nothing, or a text or list without items, or false or zero. -/
def isEmpty : Value → Bool
  | absent => true
  | text s => s.isEmpty
  | flag b => !b
  | integer n => n == 0
  | real x => x.isZero
  | list items | entries items => items.isEmpty
  | type _ | suppressed | node .. => false

/-- The items of a list, or the characters of a text. -/
def items? : Value → Option (List Value)
  | list items | entries items => some items
  | text s => some (s.toList.map fun c => text (String.singleton c))
  | _ => none

def showFlag (b : Bool) : String :=
  if b then "True" else "False"

mutual

/-- A value as messages show it. -/
def quoted : Value → String
  | absent => "None"
  | text s => Text.quoted s
  | type t =>
    "FoldedType(type=" ++ Text.quoted t.text ++ ", non_null=" ++ showFlag t.required ++ ")"
  | suppressed => "SUPPRESSED"
  | flag b => showFlag b
  | integer n => toString n
  | real x => x.text
  | list [] => "()"
  | list [item] => "(" ++ quoted item ++ ",)"
  | list (item :: items) => "(" ++ quoted item ++ quotedRest items ++ ")"
  | entries [] => "[]"
  | entries (item :: items) => "[" ++ quoted item ++ quotedRest items ++ "]"
  | node kind _ => kind.title

def quotedRest : List Value → String
  | [] => ""
  | item :: items => ", " ++ quoted item ++ quotedRest items

end

/-- How much of a long text messages show. -/
def exhibitLength : Nat :=
  240

/-- The beginning and the end of a text that is too long to show, around three points. -/
def shorten (s : String) : String :=
  if s.length ≤ exhibitLength then s
  else
    let first := (exhibitLength - 3) / 2
    let last := exhibitLength - 3 - first
    String.ofList (s.toList.take first) ++ "..." ++ String.ofList (s.toList.drop (s.length - last))

/-- A value that stands where a node should: plain ones are shown, others by what they are. -/
def exhibit : Value → String
  | type _ => "<FoldedType instance>"
  | suppressed => "<_Suppressed instance>"
  | text s => shorten (Text.quoted s)
  | integer n => shorten (toString n)
  | v => v.quoted

/-- A value as part of a longer text: text as it is, anything else as messages show it. -/
def display : Value → String
  | text s => s
  | v => v.quoted

/-- What sort of thing a value is, as messages call it. -/
def sort : Value → String
  | absent => "NoneType"
  | text _ => "str"
  | type _ => "FoldedType"
  | suppressed => "_Suppressed"
  | flag _ => "bool"
  | integer _ => "int"
  | real _ => "float"
  | list _ => "tuple"
  | entries _ => "list"
  | node kind _ => kind.title

/-- What a value is called beside nodes, which go by their kinds. -/
def label : Value → String
  | node kind _ => kind.label
  | v => v.sort

/-- The type that a value stands for where a type is wanted. -/
def asType? : Value → Option FoldedType
  | type t => some t
  | text s => some { text := s }
  | _ => none

mutual

/-- Whether a value can be looked up in a set. Entries cannot, nor what holds them. -/
def isKey : Value → Bool
  | entries _ => false
  | list items => areKeys items
  | node _ parts => partsAreKeys parts
  | _ => true

def areKeys : List Value → Bool
  | [] => true
  | v :: vs => isKey v && areKeys vs

def partsAreKeys : List (Part × Value) → Bool
  | [] => true
  | (_, v) :: rest => isKey v && partsAreKeys rest

end

/-- A whole number; a flag counts as zero or one. -/
def whole? : Value → Option Int
  | flag b => some (if b then 1 else 0)
  | integer n => some n
  | _ => none

def sameNumber : Value → Value → Bool
  | real x, real y => x.same y
  | real x, v | v, real x => v.whole?.any x.isInteger
  | v, w =>
    match v.whole?, w.whole? with
    | some m, some n => m == n
    | _, _ => false

mutual

/-- Equality of what is denoted: numbers are equal across their sorts, and nodes if their kinds
and their own parts are. -/
def same : Value → Value → Bool
  | absent, absent | suppressed, suppressed => true
  | text s, text t => s == t
  | type s, type t => s == t
  | list items, list others | entries items, entries others => sameItems items others
  | node kind parts, node kind' others => kind == kind' && sameParts kind parts others
  | v, w => sameNumber v w

def sameItems : List Value → List Value → Bool
  | [], [] => true
  | v :: vs, w :: ws => same v w && sameItems vs ws
  | _, _ => false

def sameParts (kind : Kind) : List (Part × Value) → List (Part × Value) → Bool
  | [], _ => true
  | (p, v) :: rest, others =>
    (!kind.parts.contains p || same v (part p others)) && sameParts kind rest others

end

end Value
end SchemaFold
