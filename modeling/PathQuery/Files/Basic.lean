import PathQuery.Files.PathName
import PathQuery.Text.Basic

/-!
# File systems

A file system holds files and directories below a working directory, and those told from the root
if there is an entry for the root. Nothing else is known, so whatever a name leads to outside is
missing. Every call is a total function from a file system to an answer and the file system after
the call. The calls that a replacement of a file is made of are counted, and a file system may be
told to refuse some of them, as a full or failing disk would.
-/

namespace PathQuery

/-- Why a file system refuses a call. -/
inductive FileError where
  /-- There is nothing of the name. -/
  | missing
  /-- A file stands where a directory has to. -/
  | notDirectory
  /-- A directory stands where a file has to. -/
  | isDirectory
  /-- There is something of the name already. -/
  | taken
  /-- A component of the name is too long. -/
  | nameTooLong
  /-- A directory is not empty. -/
  | notEmpty
  /-- The name holds a NUL. -/
  | invalidName
  /-- The disk failed. -/
  | failed
  deriving DecidableEq, Repr

/-- The wording of the error. -/
def FileError.message : FileError → String
  | .missing => "no such file or directory"
  | .notDirectory => "not a directory"
  | .isDirectory => "is a directory"
  | .taken => "file exists"
  | .nameTooLong => "file name too long"
  | .notEmpty => "directory not empty"
  | .invalidName => "invalid argument"
  | .failed => "input/output error"

/-- A refused call: what was to be done, to what. -/
structure FileFault where
  /-- What was to be done. -/
  action : String
  /-- The names it was to be done to. -/
  names : List String
  /-- Why it was refused. -/
  cause : FileError
  deriving DecidableEq, Repr

/-- The wording of the fault. -/
def FileFault.message (f : FileFault) : String :=
  String.intercalate " " (f.action :: f.names) ++ ": " ++ f.cause.message

/-- What a file system holds under a name. -/
inductive Entry where
  /-- A file with its permissions. -/
  | file (content : Text) (mode : Nat)
  /-- A directory with its permissions. -/
  | directory (mode : Nat)
  deriving DecidableEq, Repr

namespace Entry

/-- Whether the entry is a directory. -/
def isDirectory : Entry → Bool
  | .directory _ => true
  | .file .. => false

/-- The permissions. -/
def mode : Entry → Nat
  | .file _ m => m
  | .directory m => m

end Entry

/-- The permissions of a new directory. -/
def directoryMode : Nat := 0o755

/-- The permissions of a new file. -/
def fileMode : Nat := 0o644

/-- A kind of call that may be refused. -/
inductive FileCall where
  | write
  | sync
  | close
  | rename
  | remove
  deriving DecidableEq, Repr

/-- Files and directories by the components of their names. -/
structure FileSystem where
  /-- The entries below the working directory. -/
  entries : List (List String × Entry) := []
  /-- What the `n`-th call of a kind, counted from one, is refused for. -/
  refusal? : FileCall → Nat → Option FileError := fun _ _ ↦ none
  /-- The calls that may be refused, so far. -/
  calls : List FileCall := []
  /-- How many temporary files have been named. -/
  temporaries : Nat := 0

instance : Inhabited FileSystem := ⟨{}⟩

/-- Where a name leads. -/
inductive Place where
  /-- Below the working directory, along these components. -/
  | inside (components : List String)
  /-- Outside the working directory. -/
  | outside
  deriving DecidableEq, Repr

namespace FileSystem

/-- The entry of some components; the working directory itself is always there. -/
def entry? (fs : FileSystem) (components : List String) : Option Entry :=
  if components.isEmpty then some (.directory directoryMode)
  else (fs.entries.find? (·.1 == components)).map (·.2)

/-- The entries with one put in place of what was there. -/
def putEntry (components : List String) (e : Entry) :
    List (List String × Entry) → List (List String × Entry)
  | [] => [(components, e)]
  | (k, old) :: rest =>
    if k == components then (components, e) :: rest else (k, old) :: putEntry components e rest

/-- The file system with an entry put in place of what was there. -/
def put (fs : FileSystem) (components : List String) (e : Entry) : FileSystem :=
  { fs with entries := putEntry components e fs.entries }

/-- The file system without an entry. -/
def erase (fs : FileSystem) (components : List String) : FileSystem :=
  { fs with entries := fs.entries.filter (·.1 ≠ components) }

/-- Whether a directory holds nothing. -/
def isEmptyDirectory (fs : FileSystem) (components : List String) : Bool :=
  fs.entries.all fun (k, _) ↦ !(components.isPrefixOf k && components ≠ k)

/-- The entry at a place. What lies outside is taken for a directory. -/
def at? (fs : FileSystem) : Place → Option Entry
  | .inside components => fs.entry? components
  | .outside => some (.directory directoryMode)

/-! ## Finding a place -/

/-- The component that stands for the root in the ways of entries told from it. -/
def rootComponent : String := "/"

/-- Where a name starts: the root, as far as it is known, or the working directory. -/
def start (fs : FileSystem) (path : String) : Place :=
  if !PathName.isAbsolute path then .inside []
  else if (fs.entry? [rootComponent]).isSome then .inside [rootComponent] else .outside

/-- Where a way leads up to. The root leads up to itself. -/
def above (way : List String) : Place :=
  if way.isEmpty then .outside else if way = [rootComponent] then .inside way
  else .inside way.dropLast

/-- The longest component of a name, in bytes. -/
def componentLimit : Nat := 255

/-- Goes from a directory along a component, which need not lead anywhere. -/
def enter (fs : FileSystem) (place : Place) (component : String) : Except FileError (Place × Bool) :=
  if component = "." then .ok (place, true)
  else if component.utf8ByteSize > componentLimit then .error .nameTooLong
  else match place with
    | .outside => if component = ".." then .ok (.outside, true) else .error .missing
    | .inside way =>
      if component = ".." then .ok (above way, true)
      else .ok (.inside (way ++ [component]), (fs.entry? (way ++ [component])).isSome)

/-- Goes along components. Each but the last has to lead to a directory. Answers the place and
whether there is anything. -/
def walk (fs : FileSystem) (place : Place) : List String → Except FileError (Place × Bool)
  | [] => .ok (place, true)
  | [component] => fs.enter place component
  | component :: rest => do
    let (next, found) ← fs.enter place component
    match found, fs.at? next with
    | true, some (.directory _) => fs.walk next rest
    | true, some (.file ..) => .error .notDirectory
    | _, _ => .error .missing

/-- The place a name leads to, with the entry there if there is one. -/
def locate (fs : FileSystem) (path : String) : Except FileError (Place × Option Entry) := do
  if path = "" then throw .missing
  if path.toList.contains (Char.ofNat 0) then throw .invalidName
  let (place, found) ← fs.walk (fs.start path) (PathName.components path)
  let entry := if found then fs.at? place else none
  match entry, path.toList.getLast? == some '/' with
  | some (.file ..), true => throw .notDirectory
  | entry, _ => return (place, entry)

/-- The entry a name leads to. -/
def lookup (fs : FileSystem) (path : String) : Except FileError Entry := do
  match ← fs.locate path with
  | (_, some e) => return e
  | (_, none) => throw .missing

/-! ## Calls -/

/-- What is known of the entry of a name. -/
def stat (fs : FileSystem) (path : String) : Except FileFault Entry :=
  (fs.lookup path).mapError (⟨"stat", [path], ·⟩)

/-- The content of a file, as text. -/
def read (fs : FileSystem) (path : String) : Except FileFault String :=
  match fs.lookup path with
  | .error e => .error ⟨"open", [path], e⟩
  | .ok (.directory _) => .error ⟨"read", [path], .isDirectory⟩
  | .ok (.file content _) => .ok content.scrub

/-- Sets the permissions of an entry. -/
def setMode (fs : FileSystem) (path : String) (mode : Nat) : Except FileFault FileSystem :=
  match fs.locate path with
  | .ok (.inside way, some (.file content _)) => .ok (fs.put way (.file content mode))
  | .ok (.inside way, some (.directory _)) => .ok (fs.put way (.directory mode))
  | .ok (_, _) => .error ⟨"chmod", [path], .missing⟩
  | .error e => .error ⟨"chmod", [path], e⟩

/-- Makes a directory whose parent is there. -/
def makeDirectory (fs : FileSystem) (path : String) : Except FileFault FileSystem :=
  match fs.locate (PathName.dropSlashes path) with
  | .error e => .error ⟨"mkdir", [path], e⟩
  | .ok (_, some _) => .error ⟨"mkdir", [path], .taken⟩
  | .ok (.inside way, none) => .ok (fs.put way (.directory directoryMode))
  | .ok (.outside, none) => .error ⟨"mkdir", [path], .missing⟩

/-- The name of the directory above, with its slash. -/
def parentName (path : String) : String :=
  PathName.throughLastSlash (PathName.dropSlashes path)

/-- Makes a directory, and looks again when that is refused, since its name may be a roundabout
one for a directory that is there. -/
def ensureDirectory (fs : FileSystem) (path : String) : Except FileFault FileSystem :=
  match fs.makeDirectory path with
  | .ok fs => .ok fs
  | .error e =>
    match fs.lookup path with
    | .ok (.directory _) => .ok fs
    | _ => .error e

/-- Makes a directory and at most so many of those above it, unless they are there. -/
def makeDirectories (fs : FileSystem) (path : String) : Nat → Except FileFault FileSystem
  | 0 => fs.ensureDirectory path
  | depth + 1 =>
    match fs.lookup path with
    | .ok (.directory _) => .ok fs
    | .ok (.file ..) => .error ⟨"mkdir", [path], .notDirectory⟩
    | .error _ =>
      if parentName path = "" then fs.ensureDirectory path
      else match fs.makeDirectories (parentName path) depth with
        | .ok fs => fs.ensureDirectory path
        | .error e => .error e

/-- Makes a directory and those above it, unless they are there. -/
def makePath (fs : FileSystem) (path : String) : Except FileFault FileSystem :=
  fs.makeDirectories path (path.length + 1)

/-- The file system of some files, with the directories above them. A name that ends in a slash is
that of a directory. -/
def ofFiles (files : List (String × String)) : FileSystem :=
  files.foldl (fun fs (path, content) ↦
    let components := PathName.components path
    let way := if PathName.isAbsolute path then rootComponent :: components else components
    let isDirectory := path.toList.getLast? == some '/'
    let above := (List.range (if isDirectory then way.length + 1 else way.length)).map way.take
    let fs := above.foldl (fun fs w ↦
      if w.isEmpty || (fs.entry? w).isSome then fs else fs.put w (.directory directoryMode)) fs
    if isDirectory then fs else fs.put way (.file (Text.ofString content) fileMode)) {}

/-! ## Calls that may be refused -/

/-- Counts a call, and answers what it is refused for. -/
def attempt (fs : FileSystem) (call : FileCall) : Option FileError × FileSystem :=
  (fs.refusal? call (fs.calls.count call + 1), { fs with calls := call :: fs.calls })

/-- Adds to the end of an open file. -/
def append (fs : FileSystem) (way : List String) (data : Text) : FileSystem :=
  match fs.entry? way with
  | some (.file content mode) => fs.put way (.file (content ++ data) mode)
  | _ => fs

/-- Removes a file or an empty directory. -/
def remove (fs : FileSystem) (path : String) : Option FileError × FileSystem :=
  match fs.attempt .remove with
  | (some e, fs) => (some e, fs)
  | (none, fs) =>
    match fs.locate path with
    | .error e => (some e, fs)
    | .ok (.inside way, some (.file ..)) => (none, fs.erase way)
    | .ok (.inside way, some (.directory _)) =>
      if way.isEmpty then (some .failed, fs)
      else if fs.isEmptyDirectory way then (none, fs.erase way) else (some .notEmpty, fs)
    | .ok (_, _) => (some .missing, fs)

/-- Renames a file over what is at a name, unless that is a directory. -/
def rename (fs : FileSystem) (source : List String) (path : String) :
    Option FileError × FileSystem :=
  match fs.attempt .rename with
  | (some e, fs) => (some e, fs)
  | (none, fs) =>
    match fs.locate path, fs.entry? source with
    | .error e, _ => (some e, fs)
    | .ok (_, some (.directory _)), _ => (some .taken, fs)
    | .ok (.inside way, _), some e => (none, (fs.erase source).put way e)
    | .ok (_, _), _ => (some .missing, fs)

/-! ## Listings -/

/-- Whether a component is the name of a temporary file. -/
def isTemporaryName (name : String) : Bool :=
  match (name.splitOn ".tmp-").reverse with
  | digits :: _ :: _ =>
    name.toList.head? == some '.' && digits ≠ "" && digits.toList.all Char.isDigit
  | _ => false

/-- The name of a way. -/
def nameOf : List String → String
  | first :: rest =>
    if first = rootComponent then rootComponent ++ String.intercalate "/" rest
    else String.intercalate "/" (first :: rest)
  | [] => "."

/-- The files with their names, temporary ones apart. -/
def listing (fs : FileSystem) (temporary : Bool) : List (String × Text) :=
  fs.entries.filterMap fun
    | (way, .file content _) =>
      if isTemporaryName (way.getLastD "") = temporary then
        some (nameOf way, content)
      else none
    | _ => none

end FileSystem

end PathQuery
