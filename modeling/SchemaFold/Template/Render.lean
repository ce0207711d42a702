import SchemaFold.Template.Scope
import SchemaFold.Text.Case

/-! Filling in a template. Names without a value are empty. What is filled in is written as it is,
unless the template's title says that it makes markup. Of the language's filters only those of
`Filter` are applied; one with any other name counts as missing. -/

namespace SchemaFold.Template

/-- Only a join takes arguments: the text to put in between, and the way to what is joined. -/
def Filter.apply (f : Filter) (d : Datum) (arguments : List Datum) : Except Fault Datum :=
  let join (separator : String) : Except Fault Datum := do
    return .text (separator.intercalate ((← d.items).map Value.display))
  match f, arguments with
  | .join, [] => join ""
  | .join, [separator] => join separator.display
  | .join, [separator, path] => do
    let parts ← (← d.items).mapM fun item => path.keys.foldlM Datum.part (.value item)
    return .text (separator.display.intercalate (parts.map Datum.display))
  | .upper, [] => .ok (.text (Text.upper d.display))
  | .lower, [] => .ok (.text (Text.lower d.display))
  | .length, [] => .number <$> d.length
  | f, arguments => .error (.surplusArguments f arguments.length)

def filterNamed (name : String) : Except Fault Filter :=
  match Filter.ofName? name with
  | some f => .ok f
  | none => .error (.missingFilter name)

mutual

def Expr.eval (scope : Scope) : Expr → Except Fault Datum
  | .name n => .ok (scope.get n)
  | .literal s => .ok (.text s)
  | .flag b => .ok (.flag b)
  | .nothing => .ok (.value .absent)
  | .member e key => do (← e.eval scope).member key
  | .negated e => do return .flag !(← e.eval scope).isTrue
  | .filtered e filter arguments => do
    let d ← e.eval scope
    let arguments ← evalAll scope arguments
    (← filterNamed filter).apply d arguments

def evalAll (scope : Scope) : List Expr → Except Fault (List Datum)
  | [] => .ok []
  | e :: es => do
    let first ← e.eval scope
    return first :: (← evalAll scope es)

end

/-- What `render` gives for the items, the first of which has the number `index`. -/
def forEach (render : Nat → Value → Except Fault String) :
    (index : Nat) → List Value → Except Fault String
  | _, [] => .ok ""
  | index, first :: rest => do
    return (← render index first) ++ (← forEach render (index + 1) rest)

mutual

def Piece.render (scope : Scope) : Piece → Except Fault String
  | .text s => .ok s
  | .output e => do return scope.fillIn (← e.eval scope).display
  | .branch test yes no => do
    if (← test.eval scope).isTrue then renderAll scope yes else renderAll scope no
  | .loop item source body otherwise => do
    let items ← (← source.eval scope).items
    if items.isEmpty then renderAll (scope.enter [] (levelNames otherwise)) otherwise
    else
      let enter (index : Nat) (first : Value) :=
        scope.enter
          ((item, .value first) :: (special loopName body).map (·, .loop index items))
          (levelNames body)
      forEach (fun index first => renderAll (enter index first) body) 1 items

def renderAll (scope : Scope) : List Piece → Except Fault String
  | [] => .ok ""
  | p :: ps => do return (← p.render scope) ++ (← renderAll scope ps)

end

theorem render_text (s : Scope) (text : String) : (Piece.text text).render s = .ok text := by
  rw [Piece.render]

theorem fillIn_of_plain {s : Scope} (h : s.inMarkup = false) (text : String) :
    s.fillIn text = text := by
  rw [Scope.fillIn, h]
  rfl

theorem render_output {s : Scope} {e : Expr} {value : String} (hs : s.inMarkup = false)
    (h : e.eval s = .ok (.text value)) : (Piece.output e).render s = .ok value := by
  have hvalue : (Piece.output e).render s = .ok (s.fillIn value) := by
    rw [Piece.render, h]
    rfl
  rw [hvalue, fillIn_of_plain hs]

theorem render_name {s : Scope} {name value : String} (hs : s.inMarkup = false)
    (h : s.get name = .text value) : (Piece.output (.name name)).render s = .ok value := by
  apply render_output hs
  rw [Expr.eval, h]

theorem renderAll_cons {s : Scope} {p : Piece} {ps : List Piece} {first rest : String}
    (hp : p.render s = .ok first) (hps : renderAll s ps = .ok rest) :
    renderAll s (p :: ps) = .ok (first ++ rest) := by
  rw [renderAll, hp, hps]
  rfl

/-- How the titles of templates for markup end, in small letters. -/
def markupEndings : List String :=
  [".html", ".htm", ".xml"]

def makesMarkup (title : String) : Bool :=
  markupEndings.any fun ending => ending.toList.isSuffixOf (Text.lower title).toList

end SchemaFold.Template

namespace SchemaFold

/-- The text of a template with these names given values. -/
def Template.render (t : Template) (context : List (String × Template.Datum)) :
    Except Template.Fault String :=
  let scope : Template.Scope :=
    { context := context ++ Template.Datum.standard, inMarkup := Template.makesMarkup t.title }
  let given := (Template.special Template.ownName t.pieces).map (·, .template t.title)
  Template.renderAll (scope.enter given (Template.levelNames t.pieces)) t.pieces

end SchemaFold
