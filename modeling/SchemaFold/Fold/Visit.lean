import SchemaFold.Fold.Rules

/-! Visiting a tree from the leaves up. Each node is replaced by what its rule makes of it. A node
without a rule stays, with its children replaced. A rule that yields a flag puts nothing in the
node's place: with false the node stays as it was, and with true the visit is over. -/

namespace SchemaFold.Fold

/-- What has come of a value, and whether that is something new. -/
structure Visited (α : Type) where
  value : α
  changed : Bool

/-- Why a visit ends early: a fault, or a rule that ends it. Then the latest of the values put in
place next to the node is the result. -/
inductive Stop where
  | fault (f : Fault)
  | halt (latest : Option Value)

/-- The latest value put in place, after another one has been visited. -/
def Visited.latest (before : Option Value) (v : Visited Value) : Option Value :=
  if v.changed then some v.value else before

namespace Rules

mutual

def visit (r : Rules) (latest : Option Value) : Value → Traced Stop (Visited Value)
  | .absent => pure ⟨.absent, false⟩
  | .list items => do
    let items ← r.visitList none items
    return ⟨.list items.value, items.changed⟩
  | .node kind parts => do
    let visited ← r.visitParts kind none parts
    let folded : Value := .node kind visited.value
    match ← (r.leave kind folded).mapError .fault with
    | .absent => return ⟨folded, visited.changed⟩
    | .flag false => return ⟨.node kind parts, false⟩
    | .flag true => .fail (.halt latest)
    | v => return ⟨v, true⟩
  | v => .fail (.fault (.notNode v))

def visitList (r : Rules) (latest : Option Value) :
    List Value → Traced Stop (Visited (List Value))
  | [] => pure ⟨[], false⟩
  | v :: vs => do
    let first ← r.visit latest v
    let rest ← r.visitList (first.latest latest) vs
    return ⟨first.value :: rest.value, first.changed || rest.changed⟩

def visitParts (r : Rules) (kind : Kind) (latest : Option Value) :
    List (Part × Value) → Traced Stop (Visited (List (Part × Value)))
  | [] => pure ⟨[], false⟩
  | (p, v) :: rest => do
    let first ← if kind.children.contains p then r.visit latest v else pure ⟨v, false⟩
    let rest ← r.visitParts kind (first.latest latest) rest
    return ⟨(p, first.value) :: rest.value, first.changed || rest.changed⟩

end

/-- What a whole tree folds into. -/
def fold (r : Rules) (root : Value) : Traced Fault Value :=
  let visited := r.visit none root
  ⟨visited.log,
    match visited.result with
    | .ok v => .ok v.value
    | .error (.halt latest) => .ok (latest.getD root)
    | .error (.fault f) => .error f⟩

end Rules
end SchemaFold.Fold
