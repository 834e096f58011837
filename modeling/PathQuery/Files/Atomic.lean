import PathQuery.Files.Basic

/-!
# Replacing a file at once

A file is replaced by writing a temporary one beside it and renaming that into place, so that a
reader sees the old content or the new and nothing in between. The replacement is pending until it
is committed or aborted; after that it accepts nothing more.
-/

namespace PathQuery

/-- A pending replacement of a file. -/
structure AtomicFile where
  /-- The file to be replaced. -/
  path : String
  /-- Where the temporary file is. -/
  temporary : List String
  /-- The name of the temporary file in messages; its number is left open. -/
  shownName : String
  /-- Whether it has been committed or aborted. -/
  done : Bool := false
  deriving DecidableEq, Repr, Inhabited

/-- Why a replacement failed. -/
inductive AtomicError where
  /-- It has been committed or aborted already. -/
  | done
  /-- The directory could not be made. -/
  | directory (path : String) (fault : FileFault)
  /-- There is no temporary file of the name. -/
  | createTemporary (fault : FileFault)
  /-- The name of the file is not one component. -/
  | badPattern (pattern : String)
  /-- The temporary file could not be written. -/
  | write (fault : FileFault)
  /-- The temporary file of a replacement at once could not be written. -/
  | fill (fault : FileFault)
  /-- The temporary file could not be flushed. -/
  | sync (fault : FileFault)
  /-- The temporary file could not be closed. -/
  | close (fault : FileFault)
  /-- The temporary file could not be renamed into place. -/
  | rename (fault : FileFault)
  deriving DecidableEq, Repr

/-- The wording of the error. -/
def AtomicError.message : AtomicError → String
  | .done => "atomicfile: file already committed or aborted"
  | .directory path fault => "create directory " ++ path ++ ": " ++ fault.message
  | .createTemporary fault => "create temp file: " ++ fault.message
  | .badPattern pattern =>
    "create temp file: createtemp " ++ pattern ++ ": pattern contains path separator"
  | .write fault => fault.message
  | .fill fault => "write temp file: " ++ fault.message
  | .sync fault => "sync temp file: " ++ fault.message
  | .close fault => "close temp file: " ++ fault.message
  | .rename fault => "rename temp file: " ++ fault.message

namespace AtomicFile

/-- The number of digits that tell one temporary file from the others. -/
def temporaryDigits : Nat := 10

/-- The number of a temporary file, in digits. -/
def showNumber (n : Nat) : String :=
  let ds := (toString n).toList
  String.ofList (List.replicate (temporaryDigits - ds.length) '1' ++ ds)

/-- The lead-in of the names of the temporary files beside a file. -/
def temporaryLead (path : String) : String := "." ++ PathName.base path ++ ".tmp-"

/-- A name below a directory. -/
def below (directory name : String) : String :=
  if directory.toList.getLast? == some '/' then directory ++ name else directory ++ "/" ++ name

/-- Creates a temporary file in a directory for a file of some permissions. -/
def createTemporary (fs : FileSystem) (directory lead : String) (mode : Nat) :
    Except AtomicError (List String × FileSystem) :=
  if lead.toList.contains '/' then .error (.badPattern (lead ++ "*"))
  else
    let name := below directory (lead ++ showNumber fs.temporaries)
    let fault (e : FileError) : AtomicError :=
      .createTemporary ⟨"open", [below directory (lead ++ "*")], e⟩
    match fs.locate name with
    | .ok (.inside way, none) =>
      .ok (way, { fs.put way (.file ⟨[]⟩ mode) with temporaries := fs.temporaries + 1 })
    | .ok (_, _) => .error (fault .taken)
    | .error e => .error (fault e)

/-- The permissions of the final file: those asked for, or those of the file that is there. -/
def finalMode (fs : FileSystem) (path : String) (mode : Nat) : Nat :=
  if mode ≠ 0 then mode
  else match fs.lookup path with
    | .ok e => e.mode
    | .error _ => fileMode

/-- Starts to replace a file, and makes the directories above it. -/
def create (fs : FileSystem) (path : String) (mode : Nat) :
    Except AtomicError AtomicFile × FileSystem :=
  let mode := finalMode fs path mode
  let directory := PathName.directory path
  match fs.makePath directory with
  | .error fault => (.error (.directory directory fault), fs)
  | .ok fs =>
    let lead := temporaryLead path
    match createTemporary fs directory lead mode with
    | .error e => (.error e, fs)
    | .ok (temporary, fs) =>
      (.ok { path, temporary, shownName := below directory (lead ++ "*") }, fs)

/-- Writes to the temporary file, and answers how many bytes. -/
def write (fs : FileSystem) (f : AtomicFile) (data : Text) :
    Except AtomicError Nat × FileSystem :=
  if f.done then (.error .done, fs)
  else match fs.attempt .write with
    | (some e, fs) => (.error (.write ⟨"write", [f.shownName], e⟩), fs)
    | (none, fs) => (.ok data.bytes.length, fs.append f.temporary data)

/-- Removes the temporary file if that can be done. -/
def dropTemporary (fs : FileSystem) (f : AtomicFile) : FileSystem :=
  match fs.attempt .remove with
  | (some _, fs) => fs
  | (none, fs) => fs.erase f.temporary

/-- Closes the temporary file and removes it. -/
def discard (fs : FileSystem) (f : AtomicFile) : FileSystem :=
  dropTemporary (fs.attempt .close).2 f

/-- Renames the temporary file into place. When that fails, what is in the way is removed and
renaming is tried again; a second failure is reported as the first. -/
def moveIntoPlace (fs : FileSystem) (f : AtomicFile) : Except AtomicError Unit × FileSystem :=
  match fs.rename f.temporary f.path with
  | (none, fs) => (.ok (), fs)
  | (some e, fs) =>
    let (_, fs) := fs.remove f.path
    match fs.rename f.temporary f.path with
    | (none, fs) => (.ok (), fs)
    | (some _, fs) =>
      (.error (.rename ⟨"rename", [f.shownName, f.path], e⟩), dropTemporary fs f)

/-- Flushes the temporary file and renames it into place. -/
def commit (fs : FileSystem) (f : AtomicFile) :
    Except AtomicError Unit × AtomicFile × FileSystem :=
  if f.done then (.error .done, f, fs)
  else
    let f := { f with done := true }
    match fs.attempt .sync with
    | (some e, fs) => (.error (.sync ⟨"sync", [f.shownName], e⟩), f, discard fs f)
    | (none, fs) =>
      match fs.attempt .close with
      | (some e, fs) => (.error (.close ⟨"close", [f.shownName], e⟩), f, dropTemporary fs f)
      | (none, fs) =>
        let (outcome, fs) := moveIntoPlace fs f
        (outcome, f, fs)

/-- Drops the temporary file and leaves the file as it is. -/
def abort (fs : FileSystem) (f : AtomicFile) : AtomicFile × FileSystem :=
  if f.done then (f, fs) else ({ f with done := true }, discard fs f)

/-- Writes parts of a file in order, and drops the file if one cannot be written. -/
def writeParts (fs : FileSystem) (f : AtomicFile) : List Text → Except AtomicError Unit × FileSystem
  | [] => (.ok (), fs)
  | part :: parts =>
    match write fs f part with
    | (.error e, fs) => (.error e, (abort fs f).2)
    | (.ok _, fs) => writeParts fs f parts

end AtomicFile

/-- Replaces a file at once. -/
def FileSystem.replace (fs : FileSystem) (path : String) (data : Text) (mode : Nat) :
    Except AtomicError Unit × FileSystem :=
  match AtomicFile.create fs path mode with
  | (.error e, fs) => (.error e, fs)
  | (.ok f, fs) =>
    match AtomicFile.write fs f data with
    | (.error (.write fault), fs) => (.error (.fill fault), (AtomicFile.abort fs f).2)
    | (.error e, fs) => (.error e, (AtomicFile.abort fs f).2)
    | (.ok _, fs) =>
      let (outcome, _, fs) := AtomicFile.commit fs f
      (outcome, fs)

end PathQuery
