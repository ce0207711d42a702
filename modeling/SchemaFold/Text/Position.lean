/-! Lines of a text. A line ends at a line feed, at a carriage return, or at the pair of them. -/

namespace SchemaFold.Text

/-- A place in a text, both numbers from one. -/
structure Position where
  line : Nat
  column : Nat
  deriving DecidableEq, Repr

/-- The place after `c` when `rest` follows it: the first half of a pair does not end the line. -/
def Position.after (p : Position) (c : Char) (rest : List Char) : Position :=
  if c == '\n' || (c == '\r' && rest.head? != some '\n') then ⟨p.line + 1, 1⟩
  else ⟨p.line, p.column + 1⟩

def Position.advance (p : Position) : Nat → List Char → Position
  | 0, _ => p
  | _ + 1, [] => p
  | n + 1, c :: rest => (p.after c rest).advance n rest

/-- The place of the character at `offset`. -/
def Position.ofOffset (source : String) (offset : Nat) : Position :=
  Position.advance ⟨1, 1⟩ offset source.toList

/-- Every line ends in a line feed. -/
def unifyNewlines : List Char → List Char
  | [] => []
  | '\r' :: '\n' :: rest => '\n' :: unifyNewlines rest
  | '\r' :: rest => '\n' :: unifyNewlines rest
  | c :: rest => c :: unifyNewlines rest

theorem unifyNewlines_cons {c : Char} (h : c ≠ '\r') (cs : List Char) :
    unifyNewlines (c :: cs) = c :: unifyNewlines cs := by
  simp [unifyNewlines, h]

end SchemaFold.Text
