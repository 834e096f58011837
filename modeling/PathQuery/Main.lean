import PathQuery.Command.Program

/-!
# The command line

The outer layer of the program: it reads the files a run may need, runs the program on them, writes
the files that changed, and prints what the program says. Files are looked for below the working
directory and under absolute names. No database driver is linked in, so that every attempt to
connect fails.
-/

namespace PathQuery.Main

open Command

/-- A database that nobody can connect to. -/
def noDatabase : Script :=
  { failure? := fun kind _ ↦ if kind = .connect then some "no database driver is linked in" else none }

/-- The files of some names, as far as they can be read. -/
def readFiles (names : List String) : IO (List (String × String)) :=
  names.eraseDups.filterMapM fun (name : String) ↦ do
    try return some (name, ← IO.FS.readFile name)
    catch _ => return none

/-- Writes the files that a run has changed. -/
def writeFiles (before after : FileSystem) : IO Unit := do
  let old := before.listing false
  for (name, content) in after.listing false do
    if !old.contains (name, content) then
      IO.FS.createDirAll (PathName.directory name)
      IO.FS.writeBinFile name content.bytes.toByteArray

/-- Runs the program on some words, and answers its exit status. -/
def runWith (words : List String) : IO UInt32 := do
  let s : Setting := { home := (← IO.getEnv "HOME").getD "", script := noDatabase }
  let mentioned ← readFiles (mentionedFiles s words)
  let topology ← readFiles (topologyFile? s (.ofFiles (("/", "") :: mentioned)) words).toList
  let files := FileSystem.ofFiles (("/", "") :: mentioned ++ topology)
  let (outcome, world) := runProgram s { files } words
  writeFiles files world.files
  (← IO.getStdout).write outcome.stdout.bytes.toByteArray
  (← IO.getStderr).write (outcome.stderr ++ outcome.errorLine).bytes.toByteArray
  return UInt32.ofNat outcome.status

end PathQuery.Main

/-- The program. -/
def main (words : List String) : IO UInt32 := PathQuery.Main.runWith words
