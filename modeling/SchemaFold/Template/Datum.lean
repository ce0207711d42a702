import SchemaFold.Template.Basic
import SchemaFold.Tree.Value

/-! What a name in a template can stand for. -/

namespace SchemaFold.Template

/-- A value of the tree, or what the template language brings along: a repetition, at the item with
this number counted from one, a template, and things that can only be shown and tested. -/
inductive Datum where
  | undefined
  | value (v : Value)
  | loop (index : Nat) (items : List Value)
  | template (title : String)
  | thing (sort shown : String)

namespace Datum

def text (s : String) : Datum :=
  .value (.text s)

def number (n : Nat) : Datum :=
  .value (.integer n)

def flag (b : Bool) : Datum :=
  .value (.flag b)

def loopText (index : Nat) (items : List Value) : String :=
  "<LoopContext " ++ toString index ++ "/" ++ toString items.length ++ ">"

def display : Datum → String
  | undefined => ""
  | value v => v.display
  | loop index items => loopText index items
  | template title => "<TemplateReference " ++ Text.quoted title ++ ">"
  | thing _ shown => shown

def isTrue : Datum → Bool
  | undefined => false
  | value v => !v.isEmpty
  | loop .. | template _ | thing .. => true

/-- What a repetition goes through: the items of a list, the characters of a text. -/
def items : Datum → Except Fault (List Value)
  | undefined => .ok []
  | value v =>
    match v.items? with
    | some items => .ok items
    | none => .error (.notIterable v.sort)
  | loop .. => .error (.notIterable "LoopContext")
  | template _ => .error .notNumbered
  | thing sort _ => .error (.notIterable sort)

def length : Datum → Except Fault Nat
  | undefined => .ok 0
  | loop _ items => .ok items.length
  | value v =>
    match v.items? with
    | some items => .ok items.length
    | none => .error (.noLength v.sort)
  | template _ => .error (.noLength "TemplateReference")
  | thing sort _ => .error (.noLength sort)

def ofOption : Option Value → Datum
  | some v => value v
  | none => undefined

/-- What a repetition says of itself. -/
def loopMember (index : Nat) (items : List Value) : String → Datum
  | "index" => number index
  | "index0" => number (index - 1)
  | "revindex" => number (items.length + 1 - index)
  | "revindex0" => number (items.length - index)
  | "first" => flag (index == 1)
  | "last" => flag (index == items.length)
  | "length" => number items.length
  | "depth" => number 1
  | "depth0" => number 0
  | "previtem" => if index ≤ 1 then undefined else ofOption items[index - 2]?
  | "nextitem" => ofOption items[index]?
  | "cycle" => thing "method" ("<bound method LoopContext.cycle of " ++ loopText index items ++ ">")
  | "changed" =>
    thing "method" ("<bound method LoopContext.changed of " ++ loopText index items ++ ">")
  | _ => undefined

def valueMember : Value → String → Datum
  | .type t, "type" => text t.text
  | .type t, "non_null" => flag t.required
  | .node kind _, "kind" => text kind.label
  | .node .., "loc" => value .absent
  | .node _ parts, key => ofOption ((parts.find? (·.1.key == key)).map Prod.snd)
  | _, _ => undefined

def member (d : Datum) (key : String) : Except Fault Datum :=
  match d with
  | undefined => .error (.memberOfUndefined key)
  | value v => .ok (valueMember v key)
  | loop index items => .ok (loopMember index items key)
  | template _ | thing .. => .ok undefined

/-- A way from a value to one of its parts. -/
inductive Key where
  | name (name : String)
  | position (index : Nat)
  | none
  deriving DecidableEq, Repr

def Key.ofText (text : String) : Key :=
  if !text.isEmpty && text.all Char.isDigit then
    .position (Text.decimal text.toList)
  else .name text

/-- The way that a value stands for: names and positions with points between them. -/
def keys : Datum → List Key
  | value .absent => []
  | value (.text path) => (path.splitOn ".").map Key.ofText
  | value (.flag b) => [.position b.toNat]
  | value (.integer (.ofNat n)) => [.position n]
  | _ => [.none]

def part (d : Datum) : Key → Except Fault Datum
  | .name key => d.member key
  | .position index =>
    match d with
    | undefined => .error (.memberOfUndefined (toString index))
    | value v => .ok (ofOption (v.items?.bind (·[index]?)))
    | _ => .ok undefined
  | .none => .ok undefined

/-- What every template knows by name. -/
def standard : List (String × Datum) :=
  [("range", thing "type" "<class 'range'>"),
    ("dict", thing "type" "<class 'dict'>"),
    ("lipsum", thing "function" "<function generate_lorem_ipsum>"),
    ("cycler", thing "type" "<class 'jinja2.utils.Cycler'>"),
    ("joiner", thing "type" "<class 'jinja2.utils.Joiner'>"),
    ("namespace", thing "type" "<class 'jinja2.utils.Namespace'>")]

/-- What stands in the place of an item when nothing does. -/
def placeholder : Datum :=
  thing "MissingType" "missing"

end Datum
end SchemaFold.Template
