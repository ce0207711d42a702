import SchemaFold.Template.Datum
import SchemaFold.Text.Markup
import SchemaFold.Text.NormalForm

/-! Names in a template. A template is a level, and so is each part of a repetition inside the
level that the repetition stands in. A level has the names that are given with it, and it looks up
all others that it reads, unless a level around it has them. -/

namespace SchemaFold.Template

mutual

/-- The names that an expression reads, in order. -/
def Expr.names : Expr → List String
  | .name name => [name]
  | .literal _ | .flag _ | .nothing => []
  | .member e _ | .negated e => e.names
  | .filtered e _ arguments => e.names ++ argumentNames arguments

def argumentNames : List Expr → List String
  | [] => []
  | e :: es => e.names ++ argumentNames es

end

mutual

/-- The names that a piece reads at its own level, in order. -/
def Piece.names : Piece → List String
  | .text _ => []
  | .output e => e.names
  | .branch test yes no => test.names ++ levelNames yes ++ levelNames no
  | .loop _ source _ _ => source.names

def levelNames : List Piece → List String
  | [] => []
  | p :: ps => p.names ++ levelNames ps

end

/-- A name is read, or an item is given it. -/
inductive Use where
  | read
  | given
  deriving DecidableEq, Repr

def Expr.use? (name : String) (e : Expr) : Option Use :=
  if e.names.contains name then some .read else none

mutual

/-- How a name is used first in a piece and all that is inside it. -/
def Piece.use? (name : String) : Piece → Option Use
  | .text _ => none
  | .output e => e.use? name
  | .branch test yes no => test.use? name <|> firstUse? name yes <|> firstUse? name no
  | .loop item source body otherwise =>
    (if item == name then some .given else none) <|> source.use? name <|>
      firstUse? name body <|> firstUse? name otherwise

def firstUse? (name : String) : List Piece → Option Use
  | [] => none
  | p :: ps => p.use? name <|> firstUse? name ps

end

/-- The names that are not known, each once. -/
def newNames (known names : List String) : List String :=
  names.eraseDups.filter (!known.contains ·)

/-- The special name, if the pieces read it before they give it to an item. -/
def special (name : String) (pieces : List Piece) : List String :=
  if firstUse? name pieces = some .read then [name] else []

structure Entry where
  name : String
  use : Use
  value : Option Datum

abbrev Level := List Entry

/-- What a name of a level stands for. Compatible names share a place, and the last of them is what
stands there. -/
def Level.get? (level : Level) (name : String) : Option Datum := do
  let entry ← level.find? (·.name == name)
  let last ← level.reverse.find? (Text.compatible name ·.name)
  return last.value.getD (if entry.use = .given then .placeholder else .undefined)

/-- What can be looked up, the levels from the innermost out, and whether what is filled in goes
into markup. -/
structure Scope where
  context : List (String × Datum)
  levels : List Level := []
  inMarkup : Bool := false

namespace Scope

def get (s : Scope) (name : String) : Datum :=
  (s.levels.findSome? (·.get? name)).getD .undefined

def names (s : Scope) : List String :=
  s.levels.flatMap (·.map Entry.name)

/-- The scope inside a level with these names given and these names read. -/
def enter (s : Scope) (given : List (String × Datum)) (names : List String) : Scope :=
  let level := given.map (fun (name, d) => ⟨name, .given, some d⟩) ++
    (newNames (given.map Prod.fst ++ s.names) names).map fun name =>
      ⟨name, .read, s.context.lookup name⟩
  { s with levels := level :: s.levels }

/-- A text as it is filled in. -/
def fillIn (s : Scope) (text : String) : String :=
  if s.inMarkup then Text.inMarkup text else text

theorem inMarkup_enter (s : Scope) (given : List (String × Datum)) (names : List String) :
    (s.enter given names).inMarkup = s.inMarkup := rfl

end Scope
end SchemaFold.Template
