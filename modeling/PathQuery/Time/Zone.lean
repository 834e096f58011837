import PathQuery.Text.Basic
import PathQuery.Time.ZoneTable

/-!
# Zones

A zone says which clock is in use at an instant: how far it is ahead of the prime meridian and
what it is called. Universal time and fixed offsets have one clock; a region follows its record,
and after the last recorded change the yearly rule that goes with it.

The calendar counts days from 1970-01-01. Years start in March for the count, so that the leap day
is the last of its year and the number of days before a month is a linear expression.
-/

namespace PathQuery

/-! ## The calendar -/

/-- A calendar date and a time of day. -/
structure CivilTime where
  /-- The year; year zero comes before year one. -/
  year : Int
  /-- The month, from one. -/
  month : Nat
  /-- The day of the month, from one. -/
  day : Nat
  /-- The hour. -/
  hour : Nat := 0
  /-- The minute. -/
  minute : Nat := 0
  /-- The second. -/
  second : Nat := 0
  /-- The nanoseconds past the second. -/
  nanos : Nat := 0
  deriving DecidableEq, Repr

namespace Calendar

/-- Whether a year has a leap day. -/
def isLeap (year : Int) : Bool := year % 4 = 0 && (year % 100 ≠ 0 || year % 400 = 0)

/-- The number of days of a month. -/
def daysInMonth (year : Int) (month : Nat) : Nat :=
  if month = 2 then (if isLeap year then 29 else 28)
  else if month = 4 || month = 6 || month = 9 || month = 11 then 30
  else 31

/-- The day number of a date. -/
def dayNumber (year : Int) (month day : Nat) : Int :=
  let y := if month ≤ 2 then year - 1 else year
  let era := y.fdiv 400
  let yearOfEra := y - era * 400
  let dayOfYear : Int := (153 * ((month + 9) % 12) + 2) / 5 + day - 1
  era * 146097 + (yearOfEra * 365 + yearOfEra / 4 - yearOfEra / 100 + dayOfYear) - 719468

/-- The date of a day number. -/
def date (n : Int) : Int × Nat × Nat :=
  let z := n + 719468
  let era := z.fdiv 146097
  let dayOfEra := z - era * 146097
  let yearOfEra := (dayOfEra - dayOfEra / 1460 + dayOfEra / 36524 - dayOfEra / 146096) / 365
  let dayOfYear := dayOfEra - (365 * yearOfEra + yearOfEra / 4 - yearOfEra / 100)
  let shifted := (5 * dayOfYear + 2) / 153
  let day := dayOfYear - (153 * shifted + 2) / 5 + 1
  let month := if shifted < 10 then shifted + 3 else shifted - 9
  let year := yearOfEra + era * 400
  (if month ≤ 2 then year + 1 else year, month.toNat, day.toNat)

/-- The day of the week of a day number, Sunday being zero. -/
def weekday (n : Int) : Nat := ((n + 4) % 7).toNat

/-- A leap day is followed by the first of March. -/
example : date (dayNumber 2024 2 29 + 1) = (2024, 3, 1) ∧ dayNumber 1970 1 1 = 0 := by decide

end Calendar

namespace CivilTime

/-- The seconds since the start of 1970 at which clocks on the prime meridian show the time. -/
def seconds (t : CivilTime) : Int :=
  Calendar.dayNumber t.year t.month t.day * 86400 + t.hour * 3600 + t.minute * 60 + t.second

/-- What clocks on the prime meridian show after a number of seconds since the start of 1970. -/
def ofSeconds (s : Int) (nanos : Nat) : CivilTime :=
  let (year, month, day) := Calendar.date (s.fdiv 86400)
  let r := (s.fmod 86400).toNat
  { year, month, day, hour := r / 3600, minute := r / 60 % 60, second := r % 60, nanos }

/-- Whether the date exists in the calendar. -/
def dayExists (t : CivilTime) : Bool :=
  1 ≤ t.day && t.day ≤ Calendar.daysInMonth t.year t.month

end CivilTime

/-! ## Clocks -/

/-- Where a clock stands. -/
inductive Zone where
  /-- Universal time. -/
  | utc
  /-- A nameless clock a fixed number of seconds ahead of universal time. -/
  | fixed (offset : Int)
  /-- A region of the zone database. -/
  | region (name : String)
  deriving DecidableEq, Repr, Inhabited

/-- A clock: its offset from universal time in seconds and its abbreviation. -/
structure Clock where
  /-- Seconds ahead of universal time. -/
  offset : Int
  /-- The abbreviation, empty for a nameless clock. -/
  abbreviation : String
  deriving DecidableEq, Repr, Inhabited

/-- A clock and the instants between which it is in use. -/
structure ClockPeriod where
  /-- The clock. -/
  clock : Clock
  /-- The first second it is in use, if it has one. -/
  start : Option Int
  /-- The first second it is no longer in use, if there is one. -/
  stop : Option Int

/-! ## Yearly rules -/

/-- A day of the year on which clocks change. -/
inductive ChangeDay where
  /-- The `week`-th `weekday` of a month, the last one when `week` is five. -/
  | weekly (month week weekday : Nat)
  /-- A day counted from zero, leap days included. -/
  | ordinal (n : Nat)
  /-- A day counted from one, leap days left out. -/
  | julian (n : Nat)
  deriving Repr

/-- A day and the second of it, on the clock then in use, at which clocks change. -/
structure ChangeTime where
  /-- The day. -/
  day : ChangeDay
  /-- The second of the day. -/
  time : Int
  deriving Repr

/-- The rule of a region: one clock all year, or two and the times of change between them. -/
structure YearRule where
  /-- The standard clock. -/
  standard : Clock
  /-- The other clock, when it starts and when it ends. -/
  daylight : Option (Clock × ChangeTime × ChangeTime)
  deriving Repr

namespace ChangeTime

/-- The seconds from the start of a year to the change, for a clock `offset` ahead. -/
def inYear (c : ChangeTime) (year : Int) (offset : Int) : Int :=
  let first := Calendar.dayNumber year 1 1
  let day : Int := match c.day with
    | .ordinal n => n
    | .julian n => if Calendar.isLeap year && 60 ≤ n then n else (n : Int) - 1
    | .weekly month week weekday =>
      let monthStart := Calendar.dayNumber year month 1
      let shift := (weekday + 7 - Calendar.weekday monthStart) % 7
      let d := shift + 7 * (week - 1)
      let d := if d < Calendar.daysInMonth year month then d else d - 7
      monthStart - first + d
  day * 86400 + c.time - offset

end ChangeTime

/-- The clock a rule names for an instant, with the change before and after it in the same year. -/
def YearRule.period (r : YearRule) (since : Option Int) (t : Int) : ClockPeriod :=
  match r.daylight with
  | none => ⟨r.standard, since, none⟩
  | some (daylight, start, stop) =>
    let year := (CivilTime.ofSeconds t 0).year
    let yearStart := Calendar.dayNumber year 1 1 * 86400
    let a := yearStart + start.inYear year r.standard.offset
    let b := yearStart + stop.inYear year daylight.offset
    let (a, b, outer, inner) :=
      if b < a then (b, a, daylight, r.standard) else (a, b, r.standard, daylight)
    if t < a then ⟨outer, some yearStart, some a⟩
    else if b ≤ t then ⟨outer, some b, some (yearStart + 365 * 86400)⟩
    else ⟨inner, some a, some b⟩

/-! ## Reading the record -/

namespace ZoneRecord

/-- Splits off a signed run of digits. -/
def takeNumber (cs : List Char) : Int × List Char :=
  let (negative, body) : Bool × List Char := match cs with
    | '-' :: rest => (true, rest)
    | '+' :: rest => (false, rest)
    | _ => (false, cs)
  let digits := body.takeWhile Char.isDigit
  let n : Int := (digits.foldl (fun acc c ↦ acc * 10 + (c.toNat - 48)) 0 : Nat)
  (if negative then -n else n, body.dropWhile Char.isDigit)

/-- Splits off hours with optional minutes and seconds, as a number of seconds. -/
def takeTime (cs : List Char) : Int × List Char :=
  let negative := cs.head? = some '-'
  let (h, rest) := takeNumber cs
  let (m, rest) := match rest with
    | ':' :: r => takeNumber r
    | _ => (0, rest)
  let (s, rest) := match rest with
    | ':' :: r => takeNumber r
    | _ => (0, rest)
  let magnitude := h.natAbs * 3600 + m.natAbs * 60 + s.natAbs
  (if negative then -magnitude else magnitude, rest)

/-- Splits off an abbreviation, plain or between angle brackets. -/
def takeName (cs : List Char) : String × List Char :=
  match cs with
  | '<' :: rest => (String.ofList (rest.takeWhile (· != '>')), (rest.dropWhile (· != '>')).drop 1)
  | _ => (String.ofList (cs.takeWhile Char.isAlpha), cs.dropWhile Char.isAlpha)

/-- Splits off the time of a change, led in by a comma. -/
def takeChange (cs : List Char) : Option (ChangeTime × List Char) :=
  match cs with
  | ',' :: body =>
    let (day, rest) : ChangeDay × List Char := match body with
      | 'M' :: rest =>
        let (m, rest) := takeNumber rest
        let (w, rest) := takeNumber (rest.drop 1)
        let (d, rest) := takeNumber (rest.drop 1)
        (.weekly m.natAbs w.natAbs d.natAbs, rest)
      | 'J' :: rest => let (n, rest) := takeNumber rest; (.julian n.natAbs, rest)
      | _ => let (n, rest) := takeNumber body; (.ordinal n.natAbs, rest)
    match rest with
    | '/' :: rest => let (t, rest) := takeTime rest; some (⟨day, t⟩, rest)
    | _ => some (⟨day, 7200⟩, rest)
  | _ => none

/-- The rule in force after the last change. -/
def yearRule (r : ZoneRecord) : YearRule :=
  let (name, rest) := takeName r.rule.toList
  let (behind, rest) := takeTime rest
  let standard : Clock := ⟨-behind, name⟩
  if rest.isEmpty then ⟨standard, none⟩
  else
    let (name, rest) := takeName rest
    let (offset, rest) : Int × List Char := match rest with
      | ',' :: _ => (standard.offset + 3600, rest)
      | _ => let (behind, rest) := takeTime rest; (-behind, rest)
    match takeChange rest with
    | none => ⟨standard, none⟩
    | some (start, rest) =>
      match takeChange rest with
      | none => ⟨standard, none⟩
      | some (stop, _) => ⟨standard, some (⟨offset, name⟩, start, stop)⟩

/-- The clocks a region has used. -/
def clockList (r : ZoneRecord) : List Clock :=
  (r.clocks.splitOn " ").map fun entry ↦
    let (offset, rest) := takeNumber entry.toList
    ⟨offset, String.ofList (rest.drop 1)⟩

/-- A signed number in base 36. -/
def base36 (cs : List Char) : Int :=
  let digits := if cs.head? = some '-' then cs.drop 1 else cs
  let n : Int := (digits.foldl
    (fun acc c ↦ acc * 36 + (if c.isDigit then c.toNat - 48 else c.toNat - 87)) 0 : Nat)
  if cs.head? = some '-' then -n else n

/-- The changes of a region: the instant and the clock it leads to. -/
def changeList (r : ZoneRecord) : List (Int × Clock) :=
  let clocks := r.clockList
  ((r.changes.flatMap (·.splitOn " ")).foldl (fun (t, acc) entry ↦
    let cs := entry.toList
    let next := t + base36 cs.dropLast
    let index := (cs.getLast?.getD 'A').toNat - 65
    (next, acc.push (next, clocks.getD index default))) ((0 : Int), #[])).2.toList

/-- The folders and the entry that a name leads through; empty parts and points lead nowhere. -/
def steps (name : String) : List String := (name.splitOn "/").filter fun p ↦ p ≠ "" && p ≠ "."

/-- The record of a region. -/
def find? (name : String) : Option ZoneRecord :=
  let entry := String.intercalate "/" (steps name)
  all.find? (·.names.contains entry)

/-- The clock in use at an instant, looked up in the changes that follow `current`, which has been
in use since `since`. -/
def periodIn (r : ZoneRecord) (t : Int) (current : Clock) (since : Option Int) :
    List (Int × Clock) → ClockPeriod
  | [] => if since.isNone && !r.changes.isEmpty then ⟨current, since, none⟩
      else r.yearRule.period since t
  | (change, next) :: rest =>
    if t < change then ⟨current, since, some change⟩ else r.periodIn t next (some change) rest

/-- The clock in use at an instant. -/
def period (r : ZoneRecord) (t : Int) : ClockPeriod :=
  r.periodIn t (r.clockList.headD default) none r.changeList

end ZoneRecord

namespace Zone

/-! ## Zones by name -/

/-- Why a zone name is refused. -/
inductive NameError where
  /-- The name could lead out of the database. -/
  | invalid
  /-- The name is a folder of the database. -/
  | folder
  /-- The name leads into something that is no folder. -/
  | notFolder
  /-- A part of the name is too long. -/
  | tooLong
  /-- The name holds a character that no name has. -/
  | impossible
  /-- The name is that of a table, and not of a region. -/
  | table
  /-- No such region is on record. -/
  | unknown (name : Text)

/-- The wording of a refusal. -/
def NameError.message : NameError → Text
  | .invalid => "time: invalid location name"
  | .folder => "is a directory"
  | .notFolder => "not a directory"
  | .tooLong => "file name too long"
  | .impossible => "invalid argument"
  | .table => "malformed time zone information"
  | .unknown name => ("unknown time zone " : Text) ++ name

/-- The folders of the zone database. -/
def folders : List String :=
  ["Africa", "America", "America/Argentina", "America/Indiana", "America/Kentucky",
   "America/North_Dakota", "Antarctica", "Arctic", "Asia", "Atlantic", "Australia", "Brazil",
   "Canada", "Chile", "Etc", "Europe", "Indian", "Mexico", "Pacific", "US"]

/-- The tables that stand beside the regions. -/
def tables : List String := ["iso3166.tab", "zone.tab", "zone1970.tab"]

/-- Why the entry of a name is refused, if it is: the folders before it are followed one by one. The
flag tells whether the name ends as that of a folder does. -/
def refusal? (name : Text) (asFolder : Bool) (done : String) : List String → Option NameError
  | [] => some .folder
  | part :: rest =>
    let entry := if done = "" then part else done ++ "/" ++ part
    if part.utf8ByteSize > 255 then some .tooLong
    else if folders.contains entry then refusal? name asFolder entry rest
    else if (ZoneRecord.find? entry).isSome || tables.contains entry then
      if asFolder || !rest.isEmpty then some .notFolder
      else if tables.contains entry then some .table
      else none
    else some (.unknown name)

/-- The zone of a name. The empty name is universal time, and so is the local zone. -/
def ofName (name : Text) : Except NameError Zone :=
  match name.toString? with
  | none =>
    if name.contains ".." then .error .invalid else .error (.unknown name)
  | some s =>
    if s = "" || s = "UTC" || s = "Local" then .ok .utc
    else if name.contains ".." || s.front = '/' || s.front = '\\' then .error .invalid
    else if s.toList.contains (Char.ofNat 0) then .error .impossible
    else
      let asFolder := match (s.splitOn "/").getLast? with
        | some last => last = "" || last = "."
        | none => false
      match refusal? name asFolder "" (ZoneRecord.steps s) with
      | some e => .error e
      | none => .ok (.region s)

/-- The name of a zone. -/
def name : Zone → String
  | .utc => "UTC"
  | .fixed _ => ""
  | .region n => n

/-- The clock in use at an instant. -/
def period (z : Zone) (t : Int) : ClockPeriod :=
  match z with
  | .utc => ⟨⟨0, "UTC"⟩, none, none⟩
  | .fixed offset => ⟨⟨offset, ""⟩, none, none⟩
  | .region n =>
    match ZoneRecord.find? n with
    | some r => r.period t
    | none => ⟨⟨0, "UTC"⟩, none, none⟩

/-- The instant at which clocks of a zone show a number of seconds counted as on the prime
meridian. Within a gap or an overlap the clock in use around that instant decides. -/
def instant (z : Zone) (shown : Int) : Int :=
  let p := z.period shown
  let candidate := shown - p.clock.offset
  let early := match p.start with
    | some s => candidate < s
    | none => false
  let late := match p.stop with
    | some s => s ≤ candidate
    | none => false
  if p.clock.offset = 0 then shown
  else if early || late then shown - (z.period candidate).clock.offset
  else candidate

end Zone

end PathQuery
