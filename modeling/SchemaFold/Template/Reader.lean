import SchemaFold.Template.Basic
import SchemaFold.Template.Literal
import SchemaFold.Text.Blank
import SchemaFold.Text.Identifier
import SchemaFold.Text.Position

/-! Reading a template. Outputs stand in double braces, tags between a brace and a per cent sign,
comments between a brace and a number sign; a minus inside such a mark takes away the white space
next to it, a plus leaves it.

Only a part of the template language is read: the tags `if`, `for` and `else` with their ends, and
expressions made of names, texts, the constants, attributes, `not`, parentheses and filters. All
else that the language has (`elif`, `set`, `include`, `block`, `raw` and other tags, tests,
comparisons, arithmetic, numbers, calls, subscripts, several items of one repetition) counts as
malformed here. -/

namespace SchemaFold.Template

/-- The words inside an output or a tag. -/
inductive Symbol where
  | word (text : String)
  | quote (text : String)
  | mark (c : Char)
  deriving DecidableEq, Repr

inductive Segment where
  | text (text : String)
  | output (symbols : List Symbol)
  | tag (symbols : List Symbol)
  deriving DecidableEq, Repr

/-- Where reading stands. What is gathered so far is held in reverse. -/
inductive Mode where
  | text (gathered : List Char) (skipBlank : Bool)
  | comment
  | inside (output : Bool) (symbols : List Symbol) (word : List Char)
  | quote (output : Bool) (symbols : List Symbol) (mark : Char) (gathered : List Char)

def closeWord (word : List Char) (symbols : List Symbol) : List Symbol :=
  if word.isEmpty then symbols else .word (String.ofList word.reverse) :: symbols

def textSegment (gathered : List Char) : List Segment :=
  if gathered.isEmpty then [] else [.text (String.ofList gathered.reverse)]

def trimmedSegment (gathered : List Char) : List Segment :=
  textSegment (gathered.dropWhile Text.isBlank)

def insideSegment (output : Bool) (symbols : List Symbol) (word : List Char) : Segment :=
  let symbols := (closeWord word symbols).reverse
  if output then .output symbols else .tag symbols

/-- Texts in quotes next to each other are one text. -/
def addQuote (text : String) : List Symbol → List Symbol
  | .quote before :: symbols => .quote (before ++ text) :: symbols
  | symbols => .quote text :: symbols

/-- The template cut at its marks. -/
def segments : Mode → List Char → Except Fault (List Segment)
  | .text gathered _, [] => .ok (textSegment gathered)
  | .text gathered _, '\x7b' :: '\x7b' :: '-' :: cs => do
    return trimmedSegment gathered ++ (← segments (.inside true [] []) cs)
  | .text gathered _, '\x7b' :: '\x7b' :: '+' :: cs | .text gathered _, '\x7b' :: '\x7b' :: cs => do
    return textSegment gathered ++ (← segments (.inside true [] []) cs)
  | .text gathered _, '\x7b' :: '%' :: '-' :: cs => do
    return trimmedSegment gathered ++ (← segments (.inside false [] []) cs)
  | .text gathered _, '\x7b' :: '%' :: '+' :: cs | .text gathered _, '\x7b' :: '%' :: cs => do
    return textSegment gathered ++ (← segments (.inside false [] []) cs)
  | .text gathered _, '\x7b' :: '#' :: '-' :: cs => do
    return trimmedSegment gathered ++ (← segments .comment cs)
  | .text gathered _, '\x7b' :: '#' :: '+' :: cs | .text gathered _, '\x7b' :: '#' :: cs => do
    return textSegment gathered ++ (← segments .comment cs)
  | .text gathered skipBlank, c :: cs =>
    if skipBlank && Text.isBlank c then segments (.text gathered true) cs
    else segments (.text (c :: gathered) false) cs
  | .comment, [] => .error .malformed
  | .comment, '-' :: '#' :: '\x7d' :: cs => segments (.text [] true) cs
  | .comment, '#' :: '\x7d' :: cs => segments (.text [] false) cs
  | .comment, _ :: cs => segments .comment cs
  | .inside .., [] => .error .malformed
  | .inside true symbols word, '-' :: '\x7d' :: '\x7d' :: cs => do
    return insideSegment true symbols word :: (← segments (.text [] true) cs)
  | .inside true symbols word, '\x7d' :: '\x7d' :: cs => do
    return insideSegment true symbols word :: (← segments (.text [] false) cs)
  | .inside false symbols word, '-' :: '%' :: '\x7d' :: cs => do
    return insideSegment false symbols word :: (← segments (.text [] true) cs)
  | .inside false symbols word, '+' :: '%' :: '\x7d' :: cs
  | .inside false symbols word, '%' :: '\x7d' :: cs => do
    return insideSegment false symbols word :: (← segments (.text [] false) cs)
  | .inside output symbols word, c :: cs =>
    if Text.isIdentifierContinue c then segments (.inside output symbols (c :: word)) cs
    else if Text.isBlank c then segments (.inside output (closeWord word symbols) []) cs
    else if c == '"' || c == '\'' then segments (.quote output (closeWord word symbols) c []) cs
    else segments (.inside output (.mark c :: closeWord word symbols) []) cs
  | .quote .., [] | .quote .., ['\\'] => .error .malformed
  | .quote output symbols mark gathered, '\\' :: c :: cs =>
    segments (.quote output symbols mark (c :: '\\' :: gathered)) cs
  | .quote output symbols mark gathered, c :: cs =>
    if c == mark then
      match literal? gathered.reverse with
      | some text => segments (.inside output (addQuote text symbols) []) cs
      | none => .error .malformed
    else segments (.quote output symbols mark (c :: gathered)) cs

def isName (word : String) : Bool :=
  word.toList.head?.any Text.isIdentifierStart

/-- Attributes of what stands before them. -/
def members (e : Expr) : List Symbol → Expr × List Symbol
  | .mark '.' :: .word key :: rest =>
    if isName key then members (.member e key) rest else (e, .mark '.' :: .word key :: rest)
  | rest => (e, rest)

/-- A filter's name may have several words with points between them. -/
def filterName (name : String) : List Symbol → String × List Symbol
  | .mark '.' :: .word word :: rest =>
    if isName word then filterName (name ++ "." ++ word) rest
    else (name, .mark '.' :: .word word :: rest)
  | rest => (name, rest)

/-- The values that are written like names. -/
def constant? : String → Option Expr
  | "true" | "True" => some (.flag true)
  | "false" | "False" => some (.flag false)
  | "none" | "None" => some .nothing
  | _ => none

mutual

/-- An expression at the beginning of the symbols, nested at most `bound` times, and what follows
it. -/
def expression? : (bound : Nat) → List Symbol → Option (Expr × List Symbol)
  | 0, _ => none
  | bound + 1, .word "not" :: rest => do
    let (e, rest) ← expression? bound rest
    return (.negated e, rest)
  | bound + 1, .word word :: rest =>
    if isName word then
      let (e, rest) := members ((constant? word).getD (.name word)) rest
      filtered? bound e rest
    else none
  | bound + 1, .quote text :: rest =>
    let (e, rest) := members (.literal text) rest
    filtered? bound e rest
  | bound + 1, .mark '(' :: rest => do
    let (e, rest) ← expression? bound rest
    match rest with
    | .mark ')' :: rest =>
      let (e, rest) := members e rest
      filtered? bound e rest
    | _ => none
  | _, _ => none

/-- Filters applied to what stands before them. -/
def filtered? : (bound : Nat) → Expr → List Symbol → Option (Expr × List Symbol)
  | 0, _, _ => none
  | bound + 1, e, .mark '|' :: .word word :: rest =>
    if !isName word then none
    else
      match filterName word rest with
      | (name, .mark '(' :: rest) => do
        let (arguments, rest) ← arguments? bound rest
        filtered? bound (.filtered e name arguments) rest
      | (name, rest) => filtered? bound (.filtered e name []) rest
  | _ + 1, e, rest => some (e, rest)

/-- Arguments up to the closing parenthesis, with commas between them and maybe after the last. -/
def arguments? : (bound : Nat) → List Symbol → Option (List Expr × List Symbol)
  | 0, _ => none
  | _ + 1, .mark ')' :: rest => some ([], rest)
  | bound + 1, symbols => do
    let (first, rest) ← expression? bound symbols
    match rest with
    | .mark ')' :: rest => return ([first], rest)
    | .mark ',' :: rest =>
      let (others, rest) ← arguments? bound rest
      return (first :: others, rest)
    | _ => none

end

/-- An expression that takes up all of the symbols. -/
def expression (symbols : List Symbol) : Except Fault Expr :=
  match expression? (symbols.length + 2) symbols with
  | some (e, []) => .ok e
  | _ => .error .malformed

/-- A colon may stand at the end of a tag that others follow. -/
def dropColon (symbols : List Symbol) : List Symbol :=
  if symbols.getLast? = some (.mark ':') then symbols.dropLast else symbols

def isItemName (word : String) : Bool :=
  isName word && (constant? word).isNone && word != "in"

/-- A tag that is open: what it says, and the pieces of its first part once that is complete. -/
inductive Opened where
  | branch (test : Expr) (yes : Option (List Piece))
  | loop (item : String) (source : Expr) (body : Option (List Piece))

def Opened.ofTag : List Symbol → Except Fault Opened
  | .word "if" :: symbols => do return .branch (← expression (dropColon symbols)) none
  | .word "for" :: .word item :: .word "in" :: symbols => do
    if !isItemName item || symbols.head? = some (.word "recursive") then throw .malformed
    return .loop item (← expression (dropColon symbols)) none
  | _ => .error .malformed

/-- What is open once the first part is complete. -/
def Opened.otherwise? (first : List Piece) : Opened → Option Opened
  | .branch test none => some (.branch test (some first))
  | .loop item source none => some (.loop item source (some first))
  | _ => none

/-- The piece that a tag and its end make of the pieces in between. -/
def Opened.close? (tag : String) (last : List Piece) : Opened → Option Piece
  | .branch test yes =>
    if tag = "endif" then
      some (match yes with
        | some yes => .branch test yes last
        | none => .branch test last [])
    else none
  | .loop item source body =>
    if tag = "endfor" then
      some (match body with
        | some body => .loop item source body last
        | none => .loop item source last [])
    else none

/-- An open tag with the pieces before it, in reverse. -/
structure Frame where
  opened : Opened
  before : List Piece

/-- The pieces of the segments, inside the tags that are open. -/
def assemble : List Segment → List Frame → List Piece → Except Fault (List Piece)
  | [], [], done => .ok done.reverse
  | [], _ :: _, _ => .error .malformed
  | .text text :: rest, frames, done => assemble rest frames (.text text :: done)
  | .output symbols :: rest, frames, done => do
    assemble rest frames (.output (← expression symbols) :: done)
  | .tag symbols :: rest, frames, done =>
    match dropColon symbols, symbols, frames with
    | [.word "else"], _, ⟨opened, before⟩ :: frames =>
      match opened.otherwise? done.reverse with
      | some opened => assemble rest (⟨opened, before⟩ :: frames) []
      | none => .error .malformed
    | _, [.word tag], ⟨opened, before⟩ :: frames =>
      match opened.close? tag done.reverse with
      | some piece => assemble rest frames (piece :: before)
      | none => .error .malformed
    | _, symbols, frames => do assemble rest (⟨← Opened.ofTag symbols, done⟩ :: frames) []

mutual

def Expr.unknownFilter? : Expr → Option Fault
  | .name _ | .literal _ | .flag _ | .nothing => none
  | .member e _ | .negated e => e.unknownFilter?
  | .filtered e filter arguments =>
    e.unknownFilter? <|> unknownFilterIn? arguments <|>
      if (Filter.ofName? filter).isNone then some (.unknownFilter filter) else none

def unknownFilterIn? : List Expr → Option Fault
  | [] => none
  | e :: es => e.unknownFilter? <|> unknownFilterIn? es

end

mutual

/-- What is wrong with a piece before it is filled in: an item with the reserved name, or a filter
that is not known. Such a filter inside a choice is a fault only when that choice is taken; a
repetition inside a choice has to be sound as a whole. -/
def Piece.fault? (chosen : Bool) : Piece → Option Fault
  | .text _ => none
  | .output e => if chosen then none else e.unknownFilter?
  | .branch _ yes no => faultIn? true yes <|> faultIn? true no
  | .loop item source body otherwise =>
    (if item == loopName then some .reservedItem else none) <|>
      (if chosen then none else source.unknownFilter?) <|>
      faultIn? false body <|> faultIn? false otherwise

def faultIn? (chosen : Bool) : List Piece → Option Fault
  | [] => none
  | p :: ps => p.fault? chosen <|> faultIn? chosen ps

end

/-- One line feed at the end of a template does not belong to it. -/
def dropLastNewline (cs : List Char) : List Char :=
  if cs.getLast? == some '\n' then cs.dropLast else cs

end SchemaFold.Template

namespace SchemaFold

def Template.read (title source : String) : Except Template.Fault Template := do
  let cs := Template.dropLastNewline (Text.unifyNewlines source.toList)
  let pieces ← Template.assemble (← Template.segments (.text [] false) cs) [] []
  match Template.faultIn? false pieces with
  | some fault => throw fault
  | none => return { title, pieces }

end SchemaFold
