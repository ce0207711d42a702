import SchemaFold.Template.Reader
import SchemaFold.Template.Render

/-! The lines that a template is laid out in before it is filled in: one for each name that a level
looks up and one for each step, with the steps of a choice or a repetition further in. There are
limits to how far in a line can be, and to how many repetitions can be inside each other. -/

namespace SchemaFold.Template

mutual

def Expr.filters : Expr → List String
  | .name _ | .literal _ | .flag _ | .nothing => []
  | .member e _ | .negated e => e.filters
  | .filtered e filter arguments => filter :: (e.filters ++ argumentFilters arguments)

def argumentFilters : List Expr → List String
  | [] => []
  | e :: es => e.filters ++ argumentFilters es

end

mutual

def Piece.filters : Piece → List String
  | .text _ => []
  | .output e => e.filters
  | .branch test yes no => test.filters ++ filtersIn yes ++ filtersIn no
  | .loop _ source body otherwise => source.filters ++ filtersIn body ++ filtersIn otherwise

def filtersIn : List Piece → List String
  | [] => []
  | p :: ps => p.filters ++ filtersIn ps

end

/-- How far in a line is and, if a repetition begins with it, how many others are around that. -/
structure Line where
  indent : Nat
  around : Option Nat := none

/-- Whether a piece always gives the same text. -/
def Piece.isConstant : Piece → Bool
  | .text _ => true
  | .output e => e.names.isEmpty && (e.eval { context := [] }).toBool
  | _ => false

mutual

/-- The lines of a piece inside levels with the names `known`. -/
def Piece.lines (known : List String) (indent around : Nat) : Piece → List Line
  | .text _ | .output _ => [{ indent }]
  | .branch _ yes no =>
    let first := { indent } :: { indent := indent + 1 } ::
      linesOf known (indent + 1) around false yes
    if no.isEmpty then first
    else
      first ++ { indent } :: { indent := indent + 1 } ::
        linesOf known (indent + 1) around false no
  | .loop item _ body otherwise =>
    let given := item :: special loopName body
    let marks := if otherwise.isEmpty then 0 else 1
    let inBody := newNames (given ++ known) (levelNames body)
    let inOtherwise := newNames known (levelNames otherwise)
    let first := List.replicate (given.length - 1 + marks) { indent } ++
      { indent, around := some around } ::
      List.replicate (inBody.length + 2) { indent := indent + 1 } ++
      linesOf (inBody ++ given ++ known) (indent + 1) (around + 1) false body ++
      List.replicate marks { indent := indent + 1 } ++ [{ indent }]
    if otherwise.isEmpty then first
    else
      first ++ { indent } :: List.replicate (inOtherwise.length + 1) { indent := indent + 1 } ++
        linesOf (inOtherwise ++ known) (indent + 1) around false otherwise ++
        if inOtherwise.isEmpty then [] else [{ indent := indent + 1 }]

/-- The lines of pieces. Constant pieces next to each other share a line. -/
def linesOf (known : List String) (indent around : Nat) (afterConstant : Bool) :
    List Piece → List Line
  | [] => []
  | p :: ps =>
    (if afterConstant && p.isConstant then [] else p.lines known indent around) ++
      linesOf known indent around p.isConstant ps

end

/-- The number of lines that every template begins with. -/
def headLines : Nat :=
  9

/-- The number of lines that fetch a filter. -/
def filterLines : Nat :=
  6

def indentBound : Nat :=
  100

def loopBound : Nat :=
  20

def lines (t : Template) : List Line :=
  let given := special ownName t.pieces
  let names := newNames given (levelNames t.pieces)
  let filters := (filtersIn t.pieces).eraseDups
  let head := headLines + given.length + names.length + filterLines * filters.length
  List.replicate (head + 1) { indent := 1 } ++ linesOf (names ++ given) 1 0 false t.pieces

def layoutFault? (t : Template) : Option Fault :=
  match t.lines.findIdx? (indentBound ≤ ·.indent),
    t.lines.findIdx? (·.around.any (loopBound ≤ ·)) with
  | some n, _ => some (.tooFarIn t.title (n + 1))
  | none, some n => some (.tooManyLoops t.title (n + 1))
  | none, none => none

/-- A template that is ready to be filled in. -/
def load (title source : String) : Except Fault Template := do
  let t ← read title source
  match t.layoutFault? with
  | some fault => throw fault
  | none => return t

end SchemaFold.Template
