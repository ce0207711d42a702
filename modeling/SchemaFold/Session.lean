import SchemaFold.Generator

/-! Sessions: generators and files that requests act on one after the other. Each generator refers
to a registry of its own and to hooks that other generators may refer to as well, so a hook added
for one of them is added for all. A request that fails leaves the generators as they were. -/

namespace SchemaFold

/-- What a session keeps of a generator: its settings, and where its registry and its hooks are. -/
structure Session.Handle where
  settings : Settings
  registry : Nat
  hooks : Nat

structure Session where
  disk : Disk
  registries : List Registry := []
  runners : List Hooks := []
  generators : List (String × Session.Handle) := []

namespace Session

inductive Request where
  | write (path : String) (bytes : List UInt8)
  | makeFolder (path : String)
  | remove (path : String)
  | read (path : String)
  | list
  | load (path : String) (encoding : String := "utf-8")
  | create (id : String) (draft : Settings.Draft) (hooks : Hooks)
  /-- A generator that runs the hooks of another one. -/
  | share (id : String) (draft : Settings.Draft) (owner : String)
  | register (id name type : String)
  | addPre (id : String) (hook : PreHook)
  | addPost (id : String) (hook : PostHook)
  | render (id source : String)
  | generate (id schema output : String)

inductive Answer where
  | done
  | text (s : String)
  | paths (paths : List String)
  | outline (definitions : List (Kind × Option String))
  | written (path content : String)

/-- What a request leaves behind and what it answers. -/
abbrev Reply := Session × Traced Failure Answer

def refuse (s : Session) (f : Failure) : Reply :=
  (s, .fail f)

def withDisk (s : Session) : Disk × Except FileFault Unit → Reply
  | (disk, .ok ()) => ({ s with disk }, pure .done)
  | (disk, .error f) => ({ s with disk }, .fail (.file f))

/-- The generator that a handle stands for at this point. -/
def follow (s : Session) (handle : Handle) : Option Generator := do
  let registry ← s.registries[handle.registry]?
  let hooks ← s.runners[handle.hooks]?
  return { settings := handle.settings, registry, hooks }

def generator? (s : Session) (id : String) : Option Generator :=
  (Assoc.get? id s.generators).bind s.follow

def withGenerator (s : Session) (id : String) (act : Handle → Generator → Reply) : Reply :=
  match Assoc.get? id s.generators with
  | none => s.refuse (.noGenerator id)
  | some handle =>
    match s.follow handle with
    | none => s.refuse (.noGenerator id)
    | some g => act handle g

/-- Keeps a generator under an id, with a registry of its own and the hooks that are kept there. -/
def keep (s : Session) (id : String) (g : Generator) (hooks : Nat) : Reply :=
  let handle := { settings := g.settings, registry := s.registries.length, hooks }
  ({ s with
      registries := s.registries ++ [g.registry]
      generators := Assoc.put id handle s.generators }, pure .done)

def create (s : Session) (id : String) (draft : Settings.Draft) (hooks : Hooks) : Reply :=
  match Generator.ofDraft draft hooks with
  | .error f => s.refuse f
  | .ok g => { s with runners := s.runners ++ [hooks] }.keep id g s.runners.length

def share (s : Session) (id : String) (draft : Settings.Draft) (owner : String) : Reply :=
  match Generator.ofDraft draft with
  | .error f => s.refuse f
  | .ok g => s.withGenerator owner fun handle _ => s.keep id g handle.hooks

def register (s : Session) (id name type : String) : Reply :=
  s.withGenerator id fun handle g =>
    match g.register name type with
    | .error f => s.refuse f
    | .ok g => ({ s with registries := s.registries.set handle.registry g.registry }, pure .done)

/-- Changes the hooks of a generator where they are kept. -/
def changeHooks (s : Session) (id : String) (change : Hooks → Hooks) : Reply :=
  s.withGenerator id fun handle g =>
    ({ s with runners := s.runners.set handle.hooks (change g.hooks) }, pure .done)

def readText (s : Session) (path : String) : Except Failure String :=
  match s.disk.read (Path.ofText path) with
  | .error f => .error (.file f)
  | .ok bytes =>
    match Text.Encoding.utf8.decode bytes with
    | .ok cs => .ok (String.ofList cs)
    | .error f => .error (.undecodable f)

def removeFile (s : Session) (path : String) : Disk × Except FileFault Unit :=
  match s.disk.remove (Path.ofText path) with
  | .ok disk => (disk, .ok ())
  | .error f => (s.disk, .error f)

def run (s : Session) : Request → Reply
  | .write path bytes => s.withDisk (s.disk.save (Path.ofText path) bytes)
  | .makeFolder path => s.withDisk (s.disk.ensureFolders (Path.ofText path))
  | .remove path => s.withDisk (s.removeFile path)
  | .read path => (s, .text <$> .ofExcept (s.readText path))
  | .list => (s, pure (.paths (s.disk.listing.map Prod.fst)))
  | .load path encoding =>
    (s, do return .outline (← (Schema.load s.disk path encoding).mapError .ofSchema).outline)
  | .create id draft hooks => s.create id draft hooks
  | .share id draft owner => s.share id draft owner
  | .register id name type => s.register id name type
  | .addPre id hook => s.changeHooks id (·.addPre hook)
  | .addPost id hook => s.changeHooks id (·.addPost hook)
  | .render id source =>
    s.withGenerator id fun _ g => (s, .text <$> g.renderSource s.disk source)
  | .generate id schema output =>
    s.withGenerator id fun _ g =>
      let (disk, written) := g.generate s.disk schema output
      ({ s with disk }, (fun (path, content) => .written path.text content) <$> written)

/-- The answers to requests made one after the other. -/
def runAll (s : Session) : List Request → Session × List (Traced Failure Answer)
  | [] => (s, [])
  | request :: requests =>
    let (s, answer) := s.run request
    let (s, answers) := s.runAll requests
    (s, answer :: answers)

end Session
end SchemaFold
