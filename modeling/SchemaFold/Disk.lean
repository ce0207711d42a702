import SchemaFold.Assoc
import SchemaFold.Disk.Path
import SchemaFold.Text.Quoted

/-! A disk of files and folders, with a folder that relative paths start from. Any of them may be
locked, so that the system refuses to open the file, or to list the folder and to pass through it. A
link counts as the file that it leads to. A dead link leads nowhere: a listing shows it like a file,
but there is nothing to find at its place, and nothing can be written through it. Links to folders,
devices and pipes are left out, and so are folders that refuse only to be written to. -/

namespace SchemaFold

/-- Why the system refuses something: its number for the reason, and its words. -/
structure Lock where
  number : Nat
  reason : String
  deriving DecidableEq, Repr

/-- Whether the reason is that the permission is missing. -/
def Lock.isDenial (l : Lock) : Bool :=
  l.number == 13

inductive Entry where
  | file (bytes : List UInt8)
  | folder
  | lockedFile (lock : Lock)
  | lockedFolder (lock : Lock)
  | deadLink
  deriving DecidableEq

namespace Entry

def isFolder : Entry → Bool
  | .folder | .lockedFolder _ => true
  | .file _ | .lockedFile _ | .deadLink => false

/-- What opening it yields, of all that a listing shows as a file. A folder has no content. -/
def content? : Entry → Option (Except Lock (List UInt8))
  | .file bytes => some (.ok bytes)
  | .lockedFile lock => some (.error lock)
  | .deadLink => some (.error ⟨2, "No such file or directory"⟩)
  | .folder | .lockedFolder _ => none

def lock? : Entry → Option Lock
  | .lockedFile lock | .lockedFolder lock => some lock
  | .file _ | .folder | .deadLink => none

end Entry

/-- Where an entry is: the names from the root down to it. -/
abbrev Location := List String

structure Disk where
  entries : List (Location × Entry) := []
  here : Location := []
  deriving DecidableEq

inductive FileFault.Cause where
  | missing
  | exists
  | notFolder
  | isFolder
  | nameTooLong
  | nullByte
  | locked (lock : Lock)
  deriving DecidableEq, Repr

/-- Why a file operation fails, and the path it was given. -/
structure FileFault where
  cause : FileFault.Cause
  path : String
  deriving DecidableEq, Repr

def FileFault.Cause.text : FileFault.Cause → String
  | .missing => "[Errno 2] No such file or directory"
  | .exists => "[Errno 17] File exists"
  | .notFolder => "[Errno 20] Not a directory"
  | .isFolder => "[Errno 21] Is a directory"
  | .nameTooLong => "[Errno 36] File name too long"
  | .nullByte => "embedded null byte"
  | .locked lock => "[Errno " ++ toString lock.number ++ "] " ++ lock.reason

/-- Whether a path that cannot be followed for this cause counts as one where nothing is. -/
def FileFault.Cause.isAbsence : FileFault.Cause → Bool
  | .missing | .notFolder | .nullByte => true
  | .exists | .isFolder | .nameTooLong => false
  | .locked lock => [2, 9, 20, 40].contains lock.number

/-- A path that cannot even be asked for is not shown. -/
def FileFault.message (f : FileFault) : String :=
  if f.cause = .nullByte then f.cause.text else f.cause.text ++ ": " ++ Text.quoted f.path

namespace Disk

/-- The root is a folder on every disk. -/
def get? (d : Disk) (loc : Location) : Option Entry :=
  if loc.isEmpty then some .folder else Assoc.get? loc d.entries

/-- What is found at a location. -/
def found? (d : Disk) (loc : Location) : Option Entry :=
  (d.get? loc).filter (· ≠ .deadLink)

def put (d : Disk) (loc : Location) (entry : Entry) : Disk :=
  { d with entries := Assoc.put loc entry d.entries }

def erase (d : Disk) (loc : Location) : Disk :=
  { d with entries := Assoc.erase loc d.entries }

def move (loc : Location) (step : String) : Location :=
  if step == "" || step == "." then loc
  else if step == ".." then loc.dropLast
  else loc ++ [step]

/-- The most bytes that a name may have. -/
def nameBound : Nat :=
  255

/-- The bytes that a whole path has to stay below. -/
def pathBound : Nat :=
  4096

/-- Where the steps lead. Each of them, also one that stays in place, is taken from a folder that is
not locked, and is looked up there by a name that is not too long. -/
def follow (d : Disk) : Location → List String → Except FileFault.Cause Location
  | loc, [] => .ok loc
  | loc, step :: steps =>
    match d.get? loc with
    | some .folder =>
      if nameBound < step.utf8ByteSize then .error .nameTooLong
      else d.follow (move loc step) steps
    | some (.lockedFolder lock) => .error (.locked lock)
    | some (.file _) | some (.lockedFile _) => .error .notFolder
    | some .deadLink | none => .error .missing

/-- A path's text as it is handed to the system. -/
def checkPath (text : String) : Except FileFault.Cause Unit :=
  if text.toList.contains '\x00' then .error .nullByte
  else if text.isEmpty then .error .missing
  else if pathBound ≤ text.utf8ByteSize then .error .nameTooLong
  else .ok ()

def origin (d : Disk) (absolute : Bool) : Location :=
  if absolute then [] else d.here

/-- Where a path's text leads, as it is written: a slash at its end asks for a folder. -/
def locateText (d : Disk) (text : String) : Except FileFault.Cause Location := do
  checkPath text
  d.follow (d.origin (isAbsolutePath text)) (pathSteps text)

def locate (d : Disk) (p : Path) : Except FileFault.Cause Location := do
  checkPath p.text
  d.follow (d.origin p.absolute) p.parts

def entryAt (d : Disk) (located : Except FileFault.Cause Location) : Option Entry :=
  match located with
  | .ok loc => d.found? loc
  | .error _ => none

def isFileText (d : Disk) (text : String) : Bool :=
  (d.entryAt (d.locateText text)).any (!·.isFolder)

def isFolder (d : Disk) (p : Path) : Bool :=
  (d.entryAt (d.locate p)).any Entry.isFolder

/-- Whether a folder is there, unless the system does not tell. -/
def checkFolder (d : Disk) (p : Path) : Except FileFault Bool :=
  match d.locate p with
  | .error cause => if cause.isAbsence then .ok false else .error ⟨cause, p.text⟩
  | .ok _ => .ok (d.isFolder p)

/-- Whether the permission to read what is there is missing. -/
def isDenied (d : Disk) (text : String) : Bool :=
  ((d.entryAt (d.locateText text)).bind Entry.lock?).any Lock.isDenial

def existsText (d : Disk) (text : String) : Bool :=
  (d.entryAt (d.locateText text)).isSome

def fault {α : Type} (p : Path) (cause : FileFault.Cause) : Except FileFault α :=
  .error ⟨cause, p.text⟩

def read (d : Disk) (p : Path) : Except FileFault (List UInt8) :=
  match d.locate p with
  | .error cause => fault p cause
  | .ok loc =>
    match d.get? loc with
    | some (.file bytes) => .ok bytes
    | some .folder => fault p .isFolder
    | some (.lockedFile lock) | some (.lockedFolder lock) => fault p (.locked lock)
    | some .deadLink | none => fault p .missing

/-- Writes a file, new or not, in a folder that is there. -/
def write (d : Disk) (p : Path) (bytes : List UInt8) : Except FileFault Disk :=
  match d.locate p with
  | .error cause => fault p cause
  | .ok loc =>
    match d.get? loc with
    | some .folder | some (.lockedFolder _) => fault p .isFolder
    | some (.lockedFile lock) => fault p (.locked lock)
    | some .deadLink => fault p .missing
    | some (.file _) | none => .ok (d.put loc (.file bytes))

def remove (d : Disk) (p : Path) : Except FileFault Disk :=
  match d.locate p with
  | .error cause => fault p cause
  | .ok loc =>
    match d.get? loc with
    | some (.file _) | some (.lockedFile _) | some .deadLink => .ok (d.erase loc)
    | some .folder | some (.lockedFolder _) => fault p .isFolder
    | none => fault p .missing

/-- A new folder inside one that is there. -/
def makeFolder (d : Disk) (p : Path) : Except FileFault Disk :=
  match d.locate p with
  | .error cause => fault p cause
  | .ok loc =>
    match d.get? loc with
    | some _ => fault p .exists
    | none => .ok (d.put loc .folder)

/-- A folder that may be there already, inside one that is there. -/
def ensureFolder (d : Disk) (p : Path) : Disk × Except FileFault Unit :=
  match d.makeFolder p with
  | .ok d' => (d', .ok ())
  | .error f => if f.cause ≠ .missing && d.isFolder p then (d, .ok ()) else (d, .error f)

/-- The folder with these parts, given from the last to the first, and the folders above it. What
was made before a fault stays. -/
def ensureFoldersFrom (absolute : Bool) : List String → Disk → Disk × Except FileFault Unit
  | [], d => d.ensureFolder ⟨absolute, []⟩
  | name :: above, d =>
    let p : Path := ⟨absolute, (name :: above).reverse⟩
    match d.makeFolder p with
    | .error ⟨.missing, _⟩ =>
      match ensureFoldersFrom absolute above d with
      | (d', .ok ()) => d'.ensureFolder p
      | (d', .error f) => (d', .error f)
    | _ => d.ensureFolder p

def ensureFolders (d : Disk) (p : Path) : Disk × Except FileFault Unit :=
  ensureFoldersFrom p.absolute p.parts.reverse d

/-- Writes a file after making the folders it is to be in. -/
def save (d : Disk) (p : Path) (bytes : List UInt8) : Disk × Except FileFault Unit :=
  match d.ensureFolders p.parent with
  | (d', .error f) => (d', .error f)
  | (d', .ok ()) =>
    match d'.write p bytes with
    | .ok d'' => (d'', .ok ())
    | .error f => (d', .error f)

/-- Whether the folder at a location is listed, and each folder on the way from there to the entry
with these names below it. -/
def lists (d : Disk) (loc : Location) : List String → Bool
  | [] => true
  | name :: names =>
    match d.get? loc with
    | some (.lockedFolder _) => false
    | _ => d.lists (loc ++ [name]) names

/-- The files that are found below a location, by the names from there on. -/
def filesBelow (d : Disk) (loc : Location) : List (List String × Except Lock (List UInt8)) :=
  d.entries.filterMap fun (place, entry) =>
    if loc.isPrefixOf place && loc.length < place.length &&
        d.lists loc (place.drop loc.length) then
      entry.content?.map fun content => (place.drop loc.length, content)
    else none

/-- All files that can be read by their paths from the folder that relative paths start from, in
order. -/
def listing (d : Disk) : List (String × List UInt8) :=
  ((d.filesBelow d.here).filterMap fun (names, content) =>
    content.toOption.map fun bytes => ("/".intercalate names, bytes)).mergeSort fun a b => a.1 ≤ b.1

/-- The files of `after` that `before` does not have with the same content. -/
def changes (before after : Disk) : List (String × List UInt8) :=
  let old := before.listing
  after.listing.filter fun (path, bytes) => Assoc.get? path old != some bytes

/-- The entries of `after` that `before` does not have, the oldest first. -/
def updates (before after : Disk) : List (Location × Entry) :=
  after.entries.filter fun (loc, entry) => before.get? loc != some entry

/-- The locations that a path's text passes, up to the one it denotes. -/
def trail (d : Disk) (text : String) : List Location :=
  (pathSteps text).scanl move (d.origin (isAbsolutePath text))

/-- The path from the root of what a path denotes, double points resolved one by one. -/
def resolveText (d : Disk) (text : String) : String :=
  (Path.mk true ((pathSteps text).foldl move (d.origin (isAbsolutePath text)))).text

end Disk
end SchemaFold
