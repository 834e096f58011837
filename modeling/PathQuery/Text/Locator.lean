import PathQuery.Number.Reading

/-!
# Locators

A locator names a resource on a host: a scheme, who asks for it, the host, a path, a query and a
fragment. A character that would be taken for a separator, or that is not plain, is written as a
percent sign with the two digits of each of its bytes; which characters are plain differs from part
to part. Only locators with a host after the scheme are read here.
-/

namespace PathQuery

/-! ## Written bytes -/

/-- A part of a locator. -/
inductive LocatorPart where
  /-- A name or a password. -/
  | user
  /-- The host. -/
  | host
  /-- The zone of a host that is given by an address. -/
  | zone
  /-- The path. -/
  | path
  /-- A key or a value of the query. -/
  | query
  /-- The fragment. -/
  | fragment
  deriving DecidableEq, Repr

/-- The signs that stand for themselves in a part, besides letters, digits and the signs that are
plain everywhere. -/
def LocatorPart.plainSigns : LocatorPart → List Char
  | .user => "$&+,;=".toList
  | .host | .zone => "!$&'()*+,;=:[]<>\"".toList
  | .path => "$&+,/:;=@".toList
  | .query => []
  | .fragment => "$&+,/:;=?@!()*".toList

/-- Whether a character stands for itself in a part. -/
def LocatorPart.isPlain (p : LocatorPart) (c : Char) : Bool :=
  c.isAlphanum || "-_.~".toList.contains c || p.plainSigns.contains c

/-- Why a text is no locator. -/
inductive LocatorFault where
  /-- It holds a control character. -/
  | control
  /-- A percent sign is not followed by the digits of a byte that may be written so. -/
  | escape (text : Text)
  /-- A character cannot stand in a host. -/
  | hostChar (c : Char)
  /-- Who asks is not told by plain characters. -/
  | user
  /-- An address is not closed. -/
  | openAddress
  /-- What follows the last colon of the host is not a number. -/
  | gate (text : String)
  deriving DecidableEq, Repr

/-- The wording of the fault. -/
def LocatorFault.message : LocatorFault → String
  | .control => "net/url: invalid control character in URL"
  | .escape t => "invalid URL escape " ++ t.quoted
  | .hostChar c => "invalid character " ++ quoted (String.singleton c) ++ " in host name"
  | .user => "net/url: invalid userinfo"
  | .openAddress => "missing ']' in host"
  | .gate t => "invalid port " ++ quoted t ++ " after host"

/-- Whether a byte may be written by its digits in a part. In a host only those of characters
beyond ASCII and the percent sign may. -/
def LocatorPart.mayEscape (p : LocatorPart) (byte : Nat) : Bool :=
  match p with
  | .host => 0x80 ≤ byte || byte = 0x25
  | .zone => byte = 0x25 || byte = 0x20 || (byte < 0x80 && LocatorPart.host.isPlain (Char.ofNat byte))
  | _ => true

/-- The first three bytes of what stands at a percent sign. -/
def escapeAt (cs : List Char) : LocatorFault := .escape ⟨(Text.ofString (String.ofList cs)).bytes.take 3⟩

/-- The bytes that a part stands for. In a query a plus sign is a blank. -/
def LocatorPart.decode (p : LocatorPart) : List Char → Except LocatorFault (List UInt8)
  | [] => .ok []
  | '%' :: rest =>
    match rest with
    | a :: b :: rest =>
      match hexValue? a, hexValue? b with
      | some high, some low =>
        let byte := high * 16 + low
        if p.mayEscape byte then do return UInt8.ofNat byte :: (← p.decode rest)
        else .error (escapeAt ['%', a, b])
      | _, _ => .error (escapeAt ('%' :: a :: b :: rest))
    | rest => .error (escapeAt ('%' :: rest))
  | c :: rest =>
    if (p = .host || p = .zone) && c.toNat < 0x80 && !p.isPlain c then .error (.hostChar c)
    else do
      let c := if p = .query && c = '+' then ' ' else c
      return (Text.ofString (String.singleton c)).bytes ++ (← p.decode rest)

/-- A byte as it is written by its digits. -/
def escapedByte (b : UInt8) : List Char :=
  '%' :: (hexDigits 2 b.toNat).map Char.toUpper

/-- The bytes of a part as they are written. -/
def LocatorPart.encode (p : LocatorPart) (bytes : List UInt8) : List Char :=
  bytes.flatMap fun b ↦
    let c := Char.ofNat b.toNat
    if b < 0x80 && p.isPlain c then [c] else escapedByte b

/-- Whether a part that is written so may stay as it is. -/
def LocatorPart.isWritten (p : LocatorPart) (cs : List Char) : Bool :=
  cs.all fun c ↦ "!$&'()*+,;=:@[]%".toList.contains c || (c.toNat < 0x80 && p.isPlain c)

/-- A part as it is shown: as it was written, if that may stay. -/
def LocatorPart.renewed (p : LocatorPart) (cs : List Char) : List Char :=
  if p.isWritten cs then cs else p.encode ((p.decode cs).toOption.getD [])

/-! ## Locators -/

/-- A locator. -/
structure Locator where
  /-- The scheme. -/
  scheme : String
  /-- Who asks, and the password if one is given. -/
  user : Option (List UInt8 × Option (List UInt8)) := none
  /-- The host, with what follows a colon. -/
  host : List UInt8 := []
  /-- The path as it is written. -/
  path : List Char := []
  /-- The query as it is written, if there is one. -/
  query : Option (List Char) := none
  /-- The fragment as it is written. -/
  fragment : List Char := []

namespace Locator

/-- What stands before the first of a character, and what stands behind it if there is one. -/
def cut (c : Char) (cs : List Char) : List Char × Option (List Char) :=
  match cs.dropWhile (· ≠ c) with
  | [] => (cs, none)
  | _ :: rest => (cs.takeWhile (· ≠ c), some rest)

/-- What stands before the last of a character, if there is one, and what stands behind it. -/
def cutLast (c : Char) (cs : List Char) : Option (List Char) × List Char :=
  match cut c cs.reverse with
  | (back, some front) => (some front.reverse, back.reverse)
  | (_, none) => (none, cs)

/-- What follows the last colon of a host has to be a number or nothing. -/
def checkGate : List Char → Except LocatorFault Unit
  | [] => .ok ()
  | ':' :: digits =>
    if digits.all Char.isDigit then .ok () else .error (.gate (String.ofList (':' :: digits)))
  | cs => .error (.gate (String.ofList cs))

/-- Where a zone begins in an address, if there is one. -/
def cutZone : List Char → Option (List Char × List Char)
  | '%' :: '2' :: '5' :: rest => some ([], '%' :: '2' :: '5' :: rest)
  | c :: rest => (cutZone rest).map fun (front, zone) ↦ (c :: front, zone)
  | [] => none

/-- Reads the host. -/
def readHost (cs : List Char) : Except LocatorFault (List UInt8) :=
  if cs.head? = some '[' then
    match cutLast ']' cs with
    | (none, _) => .error .openAddress
    | (some address, gate) => do
      checkGate gate
      match cutZone address with
      | none => LocatorPart.host.decode cs
      | some (front, zone) =>
        return (← LocatorPart.host.decode front) ++ (← LocatorPart.zone.decode zone) ++
          (← LocatorPart.host.decode (']' :: gate))
  else do
    match cutLast ':' cs with
    | (some _, gate) => checkGate (':' :: gate)
    | (none, _) => pure ()
    LocatorPart.host.decode cs

/-- Whether a character may stand in what tells who asks. -/
def isUserChar (c : Char) : Bool := c.isAlphanum || "-._:~!$&'()*+,;=%@".toList.contains c

/-- Reads who asks. -/
def readUser (cs : List Char) : Except LocatorFault (List UInt8 × Option (List UInt8)) := do
  if !cs.all isUserChar then throw .user
  let (name, password) := cut ':' cs
  let name ← LocatorPart.user.decode name
  return (name, ← password.mapM LocatorPart.user.decode)

/-- Reads what stands before the fragment. -/
def readBody (scheme : String) (cs : List Char) : Except LocatorFault Locator := do
  if cs.any fun c ↦ c.toNat < 0x20 || c.toNat = 0x7F then throw .control
  let (front, query) := cut '?' (cs.drop (scheme.length + 3))
  let authority := front.takeWhile (· ≠ '/')
  let path := front.dropWhile (· ≠ '/')
  let (user, host) := cutLast '@' authority
  let host ← readHost host
  let user ← user.mapM readUser
  let _ ← LocatorPart.path.decode path
  return { scheme, user, host, path, query }

/-- The wording of a refusal. -/
def refusal (shown : List Char) (f : LocatorFault) : String :=
  "parse " ++ quoted (String.ofList shown) ++ ": " ++ f.message

/-- Reads a locator that begins with a scheme and two slashes. -/
def read (scheme : String) (source : String) : Except String Locator := do
  let (front, fragment) := cut '#' source.toList
  let l ← (readBody scheme front).mapError (refusal front)
  let fragment := fragment.getD []
  let _ ← (LocatorPart.fragment.decode fragment).mapError (refusal source.toList)
  return { l with fragment }

/-- The path that a locator stands for. -/
def pathBytes (l : Locator) : List UInt8 := (LocatorPart.path.decode l.path).toOption.getD []

/-- The keys and values of the query. A pair that is not written as it should be is left out. -/
def pairs (l : Locator) : List (List UInt8 × List UInt8) :=
  let written := (String.ofList (l.query.getD [])).splitOn "&"
  written.filterMap fun pair ↦
    if pair = "" || pair.toList.contains ';' then none
    else
      let (key, value) := cut '=' pair.toList
      match LocatorPart.query.decode key, LocatorPart.query.decode (value.getD []) with
      | .ok key, .ok value => some (key, value)
      | _, _ => none

/-- A locator as it is written. -/
def render (l : Locator) : String :=
  let user := match l.user with
    | none => []
    | some (name, password) => LocatorPart.user.encode name ++ (match password with
      | some p => ':' :: LocatorPart.user.encode p
      | none => []) ++ ['@']
  let slashes := if l.host.isEmpty && l.path.isEmpty && l.user.isNone then [] else ['/', '/']
  let query := match l.query with
    | some q => '?' :: q
    | none => []
  let fragment := if l.fragment.isEmpty then []
    else '#' :: LocatorPart.fragment.renewed l.fragment
  l.scheme ++ ":" ++ String.ofList (slashes ++ user ++ LocatorPart.host.encode l.host ++
    LocatorPart.path.renewed l.path ++ query ++ fragment)

end Locator

/-! ## Addresses -/

/-- Whether a text is a decimal number below 256 without leading zeros. -/
def isOctet (cs : List Char) : Bool :=
  !cs.isEmpty && cs.length ≤ 3 && cs.all Char.isDigit && (cs.length = 1 || cs.head? ≠ some '0') &&
    (match readDigits 0 cs with
      | .ok n => n < 256
      | .error _ => false)

/-- Whether a text is an address of four numbers. -/
def isShortAddress (cs : List Char) : Bool :=
  let fields := (String.ofList cs).splitOn "."
  fields.length = 4 && fields.all (isOctet ·.toList)

/-- Whether groups between colons make a long address. So many of its groups are still to come; once
some have been left out, fewer have to follow. A short address may stand for the last two. -/
def areGroups : Nat → Bool → List Char → Bool
  | 0, _, _ => false
  | groups + 1, shortened, cs =>
    let digits := cs.takeWhile fun c ↦ (hexValue? c).isSome
    !digits.isEmpty && digits.length ≤ 4 && match cs.drop digits.length with
      | [] => if shortened then 1 ≤ groups else groups = 0
      | '.' :: _ => (if shortened then 2 ≤ groups else groups = 1) && isShortAddress cs
      | [':', ':'] => !shortened && 1 ≤ groups
      | ':' :: ':' :: rest => !shortened && areGroups groups true rest
      | ':' :: rest => areGroups groups shortened rest
      | _ => false

/-- Whether a text is an address of groups between colons. -/
def isLongAddress (cs : List Char) : Bool :=
  match cs with
  | [':', ':'] => true
  | ':' :: ':' :: rest => areGroups 8 true rest
  | cs => areGroups 8 false cs

end PathQuery
