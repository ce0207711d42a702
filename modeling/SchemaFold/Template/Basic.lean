import SchemaFold.Text.Quoted

/-! Templates: text with places to fill in, choices and repetitions. -/

namespace SchemaFold.Template

inductive Filter where
  | join
  | upper
  | lower
  | length
  deriving DecidableEq, Repr

def Filter.name : Filter → String
  | .join => "join"
  | .upper => "upper"
  | .lower => "lower"
  | .length => "length"

def Filter.ofName? (name : String) : Option Filter :=
  [.join, .upper, .lower, .length].find? (·.name == name)

/-- What is said of a filter that is given more arguments than it takes. -/
def Filter.surplusText (given : Nat) : Filter → String
  | .join =>
    "do_join() takes from 2 to 4 positional arguments but " ++ toString (given + 2) ++
      " were given"
  | .length => "len() takes exactly one argument (" ++ toString (given + 1) ++ " given)"
  | f =>
    "do_" ++ f.name ++ "() takes 1 positional argument but " ++ toString (given + 1) ++
      " were given"

/-- Filters go by name, since one that is not known may stand where it is never applied. -/
inductive Expr where
  | name (name : String)
  | literal (text : String)
  | flag (b : Bool)
  | nothing
  | member (of : Expr) (key : String)
  | filtered (of : Expr) (filter : String) (arguments : List Expr)
  | negated (of : Expr)

inductive Piece where
  | text (text : String)
  | output (value : Expr)
  | branch (test : Expr) (yes no : List Piece)
  | loop (item : String) (source : Expr) (body otherwise : List Piece)

/-- The name that says how far a repetition is. No item can have it. -/
def loopName : String :=
  "loop"

/-- The name that a template has for itself. -/
def ownName : String :=
  "self"

/-- What can be wrong with a template when it is read, or when it is filled in. -/
inductive Fault where
  | malformed
  | unknownFilter (name : String)
  | reservedItem
  | tooFarIn (title : String) (line : Nat)
  | tooManyLoops (title : String) (line : Nat)
  | missingFilter (name : String)
  | memberOfUndefined (key : String)
  | notIterable (sort : String)
  | notNumbered
  | noLength (sort : String)
  | surplusArguments (f : Filter) (given : Nat)
  deriving DecidableEq, Repr

def Fault.message : Fault → String
  | .malformed => "malformed template"
  | .unknownFilter name | .missingFilter name => "No filter named " ++ Text.quoted name ++ " found."
  | .reservedItem => "Can't assign to special loop variable in for-loop target"
  | .tooFarIn title line =>
    "too many levels of indentation (" ++ title ++ ", line " ++ toString line ++ ")"
  | .tooManyLoops title line =>
    "too many statically nested blocks (" ++ title ++ ", line " ++ toString line ++ ")"
  | .memberOfUndefined key => "undefined value has no attribute " ++ Text.quoted key
  | .notIterable sort => "'" ++ sort ++ "' object is not iterable"
  | .notNumbered => "0"
  | .noLength sort => "object of type '" ++ sort ++ "' has no len()"
  | .surplusArguments f given => f.surplusText given

end SchemaFold.Template

namespace SchemaFold

structure Template where
  title : String
  pieces : List Template.Piece

end SchemaFold
