/-! Paths as text, and paths in normal form. -/

namespace SchemaFold

/-- The parts of a text between the occurrences of a character. -/
def splitAtChar (mark : Char) : List Char → List (List Char)
  | [] => [[]]
  | c :: cs =>
    if c == mark then [] :: splitAtChar mark cs
    else
      match splitAtChar mark cs with
      | first :: rest => (c :: first) :: rest
      | [] => [[c]]

/-- The steps that a path's text takes, with the empty ones that repeated slashes leave. -/
def pathSteps (text : String) : List String :=
  (splitAtChar '/' text.toList).map String.ofList

def isAbsolutePath (text : String) : Bool :=
  text.toList.head? == some '/'

def endsInSlash (text : String) : Bool :=
  text.toList.getLast? == some '/'

/-- A path with empty steps and single points left out. Double points stay, since they are only
resolved on a disk. -/
structure Path where
  absolute : Bool
  parts : List String
  deriving DecidableEq, Repr

namespace Path

def ofText (text : String) : Path where
  absolute := isAbsolutePath text
  parts := (pathSteps text).filter fun part => part != "" && part != "."

def text (p : Path) : String :=
  if p.absolute then "/" ++ "/".intercalate p.parts
  else if p.parts.isEmpty then "." else "/".intercalate p.parts

def name (p : Path) : String :=
  p.parts.getLast?.getD ""

def parent (p : Path) : Path :=
  { p with parts := p.parts.dropLast }

def child (p : Path) (name : String) : Path :=
  { p with parts := p.parts ++ [name] }

end Path

/-- The text of a file's path below a folder's. -/
def joinPathText (folder file : String) : String :=
  if folder.isEmpty || endsInSlash folder then folder ++ file else folder ++ "/" ++ file

/-- The text of the path that leads through these names, one after the other, below a folder's. -/
def pathBelow (folder : String) (names : List String) : String :=
  names.foldl joinPathText folder

/-- The last step of a path's text. -/
def baseName (text : String) : String :=
  (pathSteps text).getLast?.getD ""

end SchemaFold
