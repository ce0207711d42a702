import SchemaFold.Command.Run

/-! The program. What the command line names is read from the file system, the command runs on that
copy, and what it changed is written back. -/

namespace SchemaFold.Program

def placeText (loc : Location) : String :=
  (Path.mk true loc).text

def lockOf : IO.Error → Lock
  | .permissionDenied _ number reason | .noFileOrDirectory _ number reason
  | .inappropriateType _ number reason | .resourceExhausted _ number reason
  | .noSuchThing _ number reason => ⟨number.toNat, reason⟩
  | .otherError number reason | .hardwareFault number reason => ⟨number.toNat, reason⟩
  | e => ⟨0, toString e⟩

/-- Copies what is at a location, but not what is below it. -/
def readEntry (disk : Disk) (loc : Location) : IO Disk := do
  let place := (← IO.currentDir) / placeText loc
  if loc.isEmpty then return disk
  else if ← place.isDir then return disk.put loc .folder
  else if ← place.pathExists then
    try return disk.put loc (.file (← IO.FS.readBinFile place).toList)
    catch e => return disk.put loc (.lockedFile (lockOf e))
  else return disk

/-- Copies what is at a location and all that is below it. -/
partial def readBelow (disk : Disk) (loc : Location) : IO Disk := do
  let mut disk ← readEntry disk loc
  if disk.get? loc = some .folder then
    try
      for child in ← ((← IO.currentDir) / placeText loc).readDir do
        if ← child.path.pathExists then disk ← readBelow disk (loc ++ [child.fileName])
        else disk := disk.put (loc ++ [child.fileName]) .deadLink
    catch e => disk := disk.put loc (.lockedFolder (lockOf e))
  return disk

def readDisk (arguments : List String) : IO Disk := do
  let here := (Path.ofText (← IO.currentDir).toString).parts
  let mut disk : Disk := { here }
  for text in placeText here :: Command.sources arguments ++ Command.targets arguments do
    for loc in disk.trail text do
      disk ← readEntry disk loc
  for text in Command.sources arguments do
    for loc in (disk.trail text).getLast?.toList do
      disk ← readBelow disk loc
  return disk

def writeEntry (loc : Location) : Entry → IO Unit
  | .folder => IO.FS.createDirAll (placeText loc)
  | .file bytes => IO.FS.writeBinFile (placeText loc) ⟨bytes.toArray⟩
  | .lockedFile _ | .lockedFolder _ | .deadLink => return

end SchemaFold.Program

open SchemaFold in
def main (arguments : List String) : IO UInt32 := do
  let disk ← Program.readDisk arguments
  let outcome := Command.run disk arguments
  IO.print outcome.stdout
  IO.eprint outcome.stderr
  for f in outcome.failure do
    IO.eprintln ("Error: " ++ f.message)
  for (loc, entry) in disk.updates outcome.disk do
    Program.writeEntry loc entry
  return outcome.exitCode.toUInt32
