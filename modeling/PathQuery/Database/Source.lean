import PathQuery.Files.Basic
import PathQuery.Text.Blank
import PathQuery.Text.Locator

/-!
# Sources of a server

A database that is kept by a server is named by a locator or by keys with values. Both come to
settings by name: the host, where it listens, who asks, how the connection is secured, and whatever
else the server is told. A source is checked before anything is done with it, and the first thing
that is wrong is told, with passwords masked.
-/

namespace PathQuery

/-- Settings by name. The last that is given counts. -/
abbrev Settings := List (String × Text)

namespace Settings

/-- The value of a setting, if it is given. -/
def get? (s : Settings) (name : String) : Option Text :=
  (s.reverse.find? (·.1 == name)).map (·.2)

/-- The value of a setting as a string, empty if it is not given. -/
def text (s : Settings) (name : String) : String := ((s.get? name).map Text.scrub).getD ""

/-- The setting that a key stands for. -/
def nameOf (key : String) : String := if key = "dbname" then "database" else key

end Settings

/-! ## Keys with values -/

/-- Why a text is no list of keys with values. -/
inductive PairFault where
  /-- A key has no value, or a value no key. -/
  | malformed
  /-- A backslash ends the text. -/
  | backslash
  /-- A quoted value does not end. -/
  | openQuote
  deriving DecidableEq, Repr

/-- The wording of the fault. -/
def PairFault.message : PairFault → String
  | .malformed => "invalid dsn"
  | .backslash => "invalid backslash"
  | .openQuote => "unterminated quoted string in connection info string"

/-- Whether a character divides pairs. -/
def isPairBlank (c : Char) : Bool := c = ' ' || (9 ≤ c.toNat && c.toNat ≤ 13)

/-- Splits off a value up to a blank, which goes with it. A character behind a backslash does not
end it. -/
def splitValue : List Char → Except PairFault (List Char × List Char)
  | [] => .ok ([], [])
  | ['\\'] => .error .backslash
  | '\\' :: c :: rest => do
    let (value, rest) ← splitValue rest
    return ('\\' :: c :: value, rest)
  | c :: rest => do
    if isPairBlank c then return ([], rest)
    let (value, rest) ← splitValue rest
    return (c :: value, rest)

/-- Splits off a value up to a quote, which goes with it. -/
def splitQuotedValue : List Char → Except PairFault (List Char × List Char)
  | [] => .error .openQuote
  | '\\' :: c :: rest => do
    let (value, rest) ← splitQuotedValue rest
    return ('\\' :: c :: value, rest)
  | c :: rest => do
    if c.toNat = 39 then return ([], rest)
    let (value, rest) ← splitQuotedValue rest
    return (c :: value, rest)

/-- Drops the backslash before each of a character. -/
def dropBackslash (c : Char) : List Char → List Char
  | '\\' :: d :: rest =>
    if d = c then c :: dropBackslash c rest else '\\' :: dropBackslash c (d :: rest)
  | d :: rest => d :: dropBackslash c rest
  | [] => []

/-- What a value stands for. -/
def pairValue (cs : List Char) : String :=
  String.ofList (dropBackslash (Char.ofNat 39) (dropBackslash '\\' cs))

/-- Reads keys with values, at most so many. -/
def readPairsFrom : Nat → List Char → Except PairFault Settings
  | _, [] => .ok []
  | 0, _ => .error .malformed
  | most + 1, cs => do
    match Locator.cut '=' cs with
    | (_, none) => throw .malformed
    | (key, some rest) =>
      let rest := rest.dropWhile isPairBlank
      let (value, rest) ← if rest.head? = some (Char.ofNat 39) then splitQuotedValue (rest.drop 1)
        else splitValue rest
      let key := String.ofList (trimBoth isPairBlank key)
      if key = "" then throw .malformed
      return (Settings.nameOf key, Text.ofString (pairValue value)) :: (← readPairsFrom most rest)

/-- Reads keys with values. -/
def readPairs (source : String) : Except PairFault Settings :=
  readPairsFrom source.length source.toList

/-! ## Locators -/

/-- The schemes of a server's locators. -/
def serverSchemes : List String := ["postgres", "postgresql"]

/-- The scheme of a source that is a locator. -/
def serverScheme? (source : String) : Option String :=
  serverSchemes.find? fun scheme ↦ (scheme ++ "://").toList.isPrefixOf source.toList

/-- What divides a host from where it listens, or why nothing does. -/
def splitHost (cs : List Char) : Except String (List Char × List Char) :=
  let refuse (why : String) : Except String (List Char × List Char) :=
    .error ("address " ++ String.ofList cs ++ ": " ++ why)
  let plain (host front back listens : List Char) : Except String (List Char × List Char) :=
    if front.contains '[' then refuse "unexpected '[' in address"
    else if back.contains ']' then refuse "unexpected ']' in address"
    else .ok (host, listens)
  match Locator.cutLast ':' cs with
  | (none, _) => refuse "missing port in address"
  | (some front, listens) =>
    if cs.head? = some '[' then
      match Locator.cut ']' cs with
      | (_, none) => refuse "missing ']' in address"
      | (address, some behind) =>
        if behind = ':' :: listens then plain (address.drop 1) (cs.drop 1) behind listens
        else if behind.head? = some ':' then refuse "too many colons in address"
        else refuse "missing port in address"
    else if front.contains ':' then refuse "too many colons in address"
    else plain front cs cs listens

/-- The hosts of a locator, each with where it listens if that is told. -/
def readHosts (hosts : List String) : Except String (List String × List String) :=
  hosts.foldlM (fun (names, listens) host ↦ do
    if host = "" then return (names, listens)
    let bare := trimBoth (fun c ↦ c = '[' || c = ']') host.toList
    if !host.toList.contains ':' || isLongAddress bare then
      return (names ++ [String.ofList bare], listens)
    let (name, listening) ← (splitHost host.toList).mapError fun why ↦
      "failed to split host:port in '" ++ host ++ "', err: " ++ why
    let ifAny (cs : List Char) := if cs.isEmpty then [] else [String.ofList cs]
    return (names ++ ifAny name, listens ++ ifAny listening)) ([], [])

/-- A setting, unless it is empty. -/
def settingIf (name : String) (value : Text) : Settings :=
  if value.bytes.isEmpty then [] else [(name, value)]

/-- The settings of a locator. -/
def Locator.settings (l : Locator) : Except String Settings := do
  let user := match l.user with
    | none => []
    | some (name, password) => ("user", ⟨name⟩) :: (password.map fun p ↦ ("password", ⟨p⟩)).toList
  let (hosts, listens) ← readHosts ((Text.mk l.host).scrub.splitOn ",")
  let joined (parts : List String) := Text.ofString (String.intercalate "," parts)
  -- of several values of a key the first counts
  let pairs := l.pairs.reverse.map fun (key, value) ↦
    (Settings.nameOf (Text.mk key).scrub, Text.mk value)
  return user ++ settingIf "host" (joined hosts) ++ settingIf "port" (joined listens) ++
    settingIf "database" ⟨l.pathBytes.dropWhile (· = 0x2F)⟩ ++ pairs

/-! ## Masking -/

/-- Puts a text in place of each that is found. Looking stops at the end of what is left. -/
def replaceEach (find : List Char → Option (List Char)) (mask : List Char) :
    Nat → List Char → List Char
  | 0, cs => cs
  | _, [] => []
  | n + 1, c :: rest =>
    match find (c :: rest) with
    | some behind => mask ++ replaceEach find mask n behind
    | none => c :: replaceEach find mask n rest

/-- The key of a password with its equals sign. -/
def passwordKey : List Char := "password=".toList

/-- What stands behind a quoted password. -/
def afterQuotedPassword? (cs : List Char) : Option (List Char) :=
  let quote := Char.ofNat 39
  if (passwordKey ++ [quote]).isPrefixOf cs then
    (Locator.cut quote (cs.drop (passwordKey.length + 1))).2
  else none

/-- What stands behind a password. -/
def afterPassword? (cs : List Char) : Option (List Char) :=
  if passwordKey.isPrefixOf cs then some ((cs.drop passwordKey.length).dropWhile (· ≠ ' '))
  else none

/-- What stands behind a colon, a password and up to a sign that a host follows. -/
def afterColon? : List Char → Option (List Char)
  | ':' :: rest =>
    let password := rest.takeWhile fun c ↦ c ≠ ':' && c ≠ '@'
    let behind := rest.drop password.length
    if !password.isEmpty && behind.head? = some '@' then some (behind.drop 1) else none
  | _ => none

/-- A locator without its password. -/
def Locator.masked (l : Locator) : Locator :=
  match l.user with
  | some (name, some _) => { l with user := some (name, some (Text.ofString "xxxxx").bytes) }
  | _ => l

/-- A source without its passwords, as far as they can be told. -/
def maskPasswords (source : String) : String :=
  match (serverScheme? source).map (Locator.read · source) with
  | some (.ok l) => l.masked.render
  | _ =>
    let masked := "password=xxxxx".toList
    let mask find text (cs : List Char) := replaceEach find text cs.length cs
    String.ofList (mask afterColon? ":xxxxxx@".toList (mask afterPassword? masked
      (mask afterQuotedPassword? masked source.toList)))

/-! ## Checking -/

/-- Why a source is refused, or a server cannot be reached. -/
inductive SourceRefusal where
  /-- The source cannot be read, for a reason if one is known. -/
  | unreadable (source what : String) (reason : Option String)
  /-- A number of statements to keep is no number. -/
  | capacity (key : String) (e : NumberError)
  /-- Statements cannot be sent in the manner. -/
  | manner (value : String)
  /-- The server does not answer. -/
  | unreachable (host user database reason : String)
  deriving DecidableEq, Repr

/-- The wording of the refusal. -/
def SourceRefusal.message : SourceRefusal → String
  | .unreadable source what reason =>
    "cannot parse `" ++ maskPasswords source ++ "`: " ++ what ++
      ((reason.map fun r ↦ " (" ++ r ++ ")").getD "")
  | .capacity key e => "cannot parse " ++ key ++ ": " ++ e.message
  | .manner value => "invalid default_query_exec_mode: " ++ value
  | .unreachable host user database reason =>
    "failed to connect to `host=" ++ host ++ " user=" ++ user ++ " database=" ++ database ++ "`: " ++
      reason

/-- What holds unless the source tells otherwise. -/
def defaultSettings : Settings :=
  [("host", "/tmp"), ("port", "5432"), ("user", "root"), ("servicefile", "/root/.pg_service.conf"),
    ("target_session_attrs", "any")].map fun (name, value) ↦ (name, Text.ofString value)

/-- The settings that a source gives. -/
def readSource (source : String) : Except SourceRefusal Settings :=
  if source = "" then .ok []
  else match serverScheme? source with
    | some scheme =>
      (do (← Locator.read scheme source).settings).mapError fun e ↦
        .unreadable source "failed to parse as URL" (some e)
    | none => (readPairs source).mapError fun e ↦
        .unreadable source "failed to parse as DSN" (some e.message)

/-- The settings below a heading of a file of services, by name. Comments and empty lines count for
nothing, and everything else stands below a heading. -/
def readServices (content : String) : Option (List (String × Settings)) :=
  ((content.splitOn "\n").map trimBlanks).foldlM (fun services line ↦
    match line.toList, services with
    | [], _ | '#' :: _, _ => some services
    | '[' :: rest, _ =>
      if rest.getLast? = some ']' then some ((String.ofList rest.dropLast, []) :: services)
      else addPair line services
    | _, _ => addPair line services) []
where
  /-- Adds a line to the service of the last heading. -/
  addPair (line : String) : List (String × Settings) → Option (List (String × Settings))
    | (name, settings) :: services =>
      match Locator.cut '=' line.toList with
      | (key, some value) =>
        let trim (cs : List Char) := trimBlanks (String.ofList cs)
        let pair := (Settings.nameOf (trim key), Text.ofString (trim value))
        some ((name, settings ++ [pair]) :: services)
      | (_, none) => none
    | [] => none

/-- The settings of a service. -/
def serviceSettings (fs : FileSystem) (file service : String) : Except String Settings :=
  match (fs.read file).toOption.bind readServices with
  | none => .error ("failed to read service file: " ++ file)
  | some services =>
    match services.find? (·.1 == service) with
    | some (_, settings) => .ok settings
    | none => .error ("unable to find service: " ++ service)

/-- How connections may be secured, if they are. -/
def securityModes : List String := ["", "allow", "prefer", "require", "verify-ca", "verify-full"]

/-- Why connections cannot be secured as the settings ask, if they cannot. -/
def securityFault? (fs : FileSystem) (s : Settings) : Option String :=
  let mode := s.text "sslmode"
  let root := s.text "sslrootcert"
  let certificate := s.text "sslcert"
  let key := s.text "sslkey"
  if mode = "disable" then none
  else if !securityModes.contains mode then
    some "sslmode is invalid"
  else if root ≠ "" then
    match fs.read root with
    | .error e => some ("unable to read CA file: " ++ e.message)
    | .ok _ => some "unable to add CA to cert pool"
  else if (certificate = "") ≠ (key = "") then some "both \"sslcert\" and \"sslkey\" are required"
  else if key ≠ "" then
    match fs.read key with
    | .error e => some ("unable to read sslkey: " ++ e.message)
    | .ok _ => some "failed to decode sslkey"
  else none

/-- Whether a host is a directory of this machine. -/
def isLocalHost (host : String) : Bool :=
  match host.toList with
  | '/' :: _ => true
  | drive :: ':' :: '\\' :: _ => drive.isUpper
  | _ => false

/-- The number that a host listens at. -/
def readListening (t : String) : Except String Nat :=
  match readNatural 16 t.toList with
  | .error e => .error (NumberError.message ⟨.natural, Text.ofString t, e⟩)
  | .ok 0 => .error "outside range"
  | .ok n => .ok n

/-- Each host with the text that tells where it listens: the first, if there are not enough. -/
def listeningHosts (s : Settings) : List (String × String) :=
  let listens := (s.text "port").splitOn ","
  ((s.text "host").splitOn ",").zipIdx.map fun (host, i) ↦ (host, listens.getD i (listens.headD ""))

/-- Checks where the hosts listen and how connections to them are secured. -/
def checkHosts (fs : FileSystem) (source : String) (s : Settings) :
    Except SourceRefusal (List (String × Nat)) :=
  (listeningHosts s).mapM fun (host, listens) ↦ do
    let number ← (readListening listens).mapError fun e ↦
      .unreadable source "invalid port" (some e)
    match if isLocalHost host then none else securityFault? fs s with
    | some reason => throw (.unreadable source "failed to configure TLS" (some reason))
    | none => return (host, number)

/-- Checks how long to wait for a connection. -/
def checkTimeout (source : String) (s : Settings) : Except SourceRefusal Unit :=
  let refuse (reason : String) : Except SourceRefusal Unit :=
    .error (.unreadable source "invalid connect_timeout" (some reason))
  match s.get? "connect_timeout" with
  | none => .ok ()
  | some t =>
    match NumberForm.integer.read (readInt ·.toList) t with
    | .error e => refuse e.message
    | .ok n => if n < 0 then refuse "negative timeout" else .ok ()

/-- Checks how many statements to keep. -/
def checkCapacity (s : Settings) (key : String) : Except SourceRefusal Unit :=
  match s.get? key with
  | none => .ok ()
  | some t =>
    match NumberForm.integer.read (readIntWithin 31 ·.toList) t with
    | .error e => .error (.capacity key e)
    | .ok _ => .ok ()

/-- The kinds of session that can be asked for. -/
def sessionKinds : List String :=
  ["any", "read-write", "read-only", "primary", "standby", "prefer-standby"]

/-- The manners in which statements can be sent. -/
def sendingManners : List String :=
  ["cache_statement", "cache_describe", "describe_exec", "exec", "simple_protocol"]

/-- The settings that a source comes to, with those of the service that it names. -/
def completeSettings (fs : FileSystem) (source : String) : Except SourceRefusal Settings := do
  let given ← readSource source
  let settings := defaultSettings ++ given
  match settings.get? "service" with
  | none => return settings
  | some service =>
    let service ← (serviceSettings fs (settings.text "servicefile") service.scrub).mapError fun e ↦
      .unreadable source "failed to read service" (some e)
    return defaultSettings ++ service ++ given

/-- Why the last of some hosts does not answer: nothing listens there, or there is no such host. -/
def silence (hosts : List (String × Nat)) : String :=
  let (host, number) := hosts.getLastD ("", 0)
  let refused (address : String) :=
    "dial error (dial tcp " ++ address ++ ":" ++ toString number ++ ": connect: connection refused)"
  if isLocalHost host then
    "dial error (dial unix " ++ PathName.join [host, ".s.PGSQL."] ++ toString number ++
      ": connect: no such file or directory)"
  else if isShortAddress host.toList then refused host
  else if isLongAddress host.toList then refused ("[" ++ host ++ "]")
  else "hostname resolving error (lookup " ++ host ++ ": no such host)"

/-- Why no connection to the server of a source comes about. No server can be reached from here. -/
def serverRefusal (fs : FileSystem) (source : String) : SourceRefusal :=
  let checked : Except SourceRefusal (Settings × List (String × Nat)) := do
    let s ← completeSettings fs source
    checkTimeout source s
    let hosts ← checkHosts fs source s
    let kind := s.text "target_session_attrs"
    if !sessionKinds.contains kind then
      throw (.unreadable source ("unknown target_session_attrs value: " ++ kind) none)
    checkCapacity s "statement_cache_capacity"
    checkCapacity s "description_cache_capacity"
    match s.get? "default_query_exec_mode" with
    | some manner => if !sendingManners.contains manner.scrub then throw (.manner manner.scrub)
    | none => pure ()
    return (s, hosts)
  match checked with
  | .error refusal => refusal
  | .ok (s, hosts) =>
    .unreachable (hosts.headD ("", 0)).1 (s.text "user") (s.text "database") (silence hosts)

end PathQuery
