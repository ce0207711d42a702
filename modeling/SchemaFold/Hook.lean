import SchemaFold.Grammar.Document

/-! Hooks around generation: before it on the document, after it on the text. A hook on the document
is taken to yield a document of the grammar again. One that yields a tree of some other shape, which
the fold would refuse, is not described. -/

namespace SchemaFold

abbrev PreHook := Document → Document

/-- Given the name of the file to be written, and its content so far. -/
abbrev PostHook := String → String → String

structure Hooks where
  pre : List PreHook := []
  post : List PostHook := []

namespace Hooks

def runPre (h : Hooks) (d : Document) : Document :=
  h.pre.foldl (fun d hook => hook d) d

def runPost (h : Hooks) (filename content : String) : String :=
  h.post.foldl (fun content hook => hook filename content) content

def addPre (h : Hooks) (hook : PreHook) : Hooks :=
  { h with pre := h.pre ++ [hook] }

def addPost (h : Hooks) (hook : PostHook) : Hooks :=
  { h with post := h.post ++ [hook] }

end Hooks

/-- Keeps definitions by how their names begin and end. An empty text is no condition. -/
structure NameFilter where
  excludePrefix : Option String := none
  excludeSuffix : Option String := none
  includePrefix : Option String := none
  includeSuffix : Option String := none
  deriving DecidableEq, Repr

namespace NameFilter

def startsWith (name start : String) : Bool :=
  start.toList.isPrefixOf name.toList

def endsWith (name finish : String) : Bool :=
  finish.toList.isSuffixOf name.toList

/-- Whether a condition is set and `test` holds of it. -/
def holds (condition : Option String) (test : String → Bool) : Bool :=
  condition.any fun text => !text.isEmpty && test text

def keepsName (f : NameFilter) (name : String) : Bool :=
  !holds f.excludePrefix (startsWith name) && !holds f.excludeSuffix (endsWith name) &&
    !holds f.includePrefix (!startsWith name ·) && !holds f.includeSuffix (!endsWith name ·)

/-- A definition without a name is kept. -/
def keeps (f : NameFilter) (d : Definition) : Bool :=
  d.name?.all fun name => f.keepsName name.text

def hook (f : NameFilter) : PreHook :=
  fun d => d.filter f.keeps

end NameFilter

/-- A header above the text, with a blank line between them. -/
def headerHook (header : String) : PostHook :=
  fun _ content =>
    (if NameFilter.endsWith header "\n" then header ++ "\n" else header ++ "\n\n") ++ content

end SchemaFold
