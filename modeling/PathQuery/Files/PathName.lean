/-!
# Path names

A path name is a string of components divided by slashes. The functions here work on the names
alone, without a look at any file.
-/

namespace PathQuery

namespace PathName

/-- Whether a name is told from the root. -/
def isAbsolute (path : String) : Bool := path.toList.head? == some '/'

/-- The components of a name that lead somewhere. -/
def components (path : String) : List String :=
  ((path.toList.splitOn '/').map String.ofList).filter (· ≠ "")

/-- Follows a component: the way so far is in reverse. A component that leads up takes back the
one before it; at the root it leads nowhere, and at the start of a relative name it is kept. -/
def follow (absolute : Bool) (way : List String) (component : String) : List String :=
  if component = "." then way
  else if component = ".." then
    match way with
    | [] => if absolute then [] else [".."]
    | last :: rest => if last = ".." then ".." :: way else rest
  else component :: way

/-- The shortest name of the same place. -/
def clean (path : String) : String :=
  let absolute := isAbsolute path
  let way := ((components path).foldl (follow absolute) []).reverse
  let joined := String.intercalate "/" way
  if absolute then "/" ++ joined else if joined = "" then "." else joined

/-- Joins names that are not empty and cleans the result. -/
def join (parts : List String) : String :=
  match parts.filter (· ≠ "") with
  | [] => ""
  | parts => clean (String.intercalate "/" parts)

/-- The name up to and including its last slash. -/
def throughLastSlash (path : String) : String :=
  String.ofList (path.toList.reverse.dropWhile (· ≠ '/')).reverse

/-- What follows the last slash of a name. -/
def afterLastSlash (path : String) : String :=
  String.ofList (path.toList.reverse.takeWhile (· ≠ '/')).reverse

/-- The directory of a name. -/
def directory (path : String) : String := clean (throughLastSlash path)

/-- A name without the slashes at its end. -/
def dropSlashes (path : String) : String :=
  String.ofList (path.toList.reverse.dropWhile (· = '/')).reverse

/-- The last component of a name. -/
def base (path : String) : String :=
  if path = "" then "."
  else
    let trimmed := dropSlashes path
    if trimmed = "" then "/" else afterLastSlash trimmed

/-- The extension of a name, with its point. -/
def extension (path : String) : String :=
  let tail := (afterLastSlash path).toList.reverse
  if tail.contains '.' then
    String.ofList ('.' :: (tail.takeWhile (· ≠ '.')).reverse)
  else ""

/-- The last component of a name without the extension. -/
def stem (path : String) : String :=
  let b := (base path).toList
  let e := (extension path).toList
  String.ofList (if e.isSuffixOf b then b.take (b.length - e.length) else b)

end PathName

end PathQuery
