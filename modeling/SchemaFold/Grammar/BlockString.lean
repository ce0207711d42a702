/-! Block strings: lines between triple quotes, held without their common indentation and without
the blank lines at both ends. -/

namespace SchemaFold.BlockString

def isIndent (c : Char) : Bool :=
  c == ' ' || c == '\t'

def isBlankLine (line : List Char) : Bool :=
  line.all isIndent

def indentation (line : List Char) : Nat :=
  (line.takeWhile isIndent).length

/-- The least indentation of the lines that are not blank. -/
def commonIndent (lines : List (List Char)) : Nat :=
  ((lines.filter (!isBlankLine ·)).map indentation).min?.getD 0

/-- The first line keeps its indentation and has no say in the others'. -/
def dedent : List (List Char) → List (List Char)
  | [] => []
  | first :: rest =>
    let indent := commonIndent rest
    first :: rest.map (·.drop indent)

def dropBlankEnds (lines : List (List Char)) : List (List Char) :=
  ((lines.dropWhile isBlankLine).reverse.dropWhile isBlankLine).reverse

def value (lines : List (List Char)) : String :=
  "\n".intercalate ((dropBlankEnds (dedent lines)).map String.ofList)

end SchemaFold.BlockString
