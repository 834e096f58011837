import PathQuery.Number.Notation
import PathQuery.Time.Zone

/-!
# Moments and spans

A span is a number of nanoseconds that fits 64 bits. It is written in hours, minutes and seconds,
the seconds with as many decimals as they need, and below one second in the largest unit that
gives a whole part.

A moment is an instant together with the zone it is told in. It is written either as a timestamp
of the internet profile of ISO 8601 or, for people, with the offset and the abbreviation of the
clock after it.
-/

namespace PathQuery

/-! ## Spans -/

namespace Span

/-- A natural number as text, with the digits below `10 ^ places` after a point and no trailing
zeros. -/
def decimal (n places : Nat) : String :=
  let whole := toString (n / Nat.pow 10 places)
  let digits := Nat.toDigits 10 (n % Nat.pow 10 places)
  let padded := List.replicate (places - digits.length) '0' ++ digits
  let kept := (padded.reverse.dropWhile (· == '0')).reverse
  if kept.isEmpty then whole else whole ++ "." ++ String.ofList kept

/-- The text of a span of `n` nanoseconds without its sign. -/
def showMagnitude (n : Nat) : String :=
  if n = 0 then "0s"
  else if n < 1000 then toString n ++ "ns"
  else if n < 1000000 then decimal n 3 ++ "µs"
  else if n < 1000000000 then decimal n 6 ++ "ms"
  else
    let minutes := n / 60000000000
    let seconds := decimal (n % 60000000000) 9 ++ "s"
    if minutes = 0 then seconds
    else if minutes < 60 then toString minutes ++ "m" ++ seconds
    else toString (minutes / 60) ++ "h" ++ toString (minutes % 60) ++ "m" ++ seconds

/-- The text of a span of `n` nanoseconds. -/
def render (n : Int) : String :=
  if n < 0 then "-" ++ showMagnitude n.natAbs else showMagnitude n.natAbs

end Span

/-! ## Moments -/

/-- An instant told in a zone. -/
structure Moment where
  /-- Whole seconds since the start of 1970 in universal time. -/
  seconds : Int
  /-- The nanoseconds past them. -/
  nanos : Nat
  /-- The zone. -/
  zone : Zone
  deriving DecidableEq, Repr, Inhabited

namespace Moment

/-- The moment at which clocks of a zone show a civil time. -/
def ofCivil (t : CivilTime) (zone : Zone) : Moment := ⟨zone.instant t.seconds, t.nanos, zone⟩

/-- The clock in use. -/
def clock (m : Moment) : Clock := (m.zone.period m.seconds).clock

/-- What the clock shows. -/
def civil (m : Moment) : CivilTime := .ofSeconds (m.seconds + m.clock.offset) m.nanos

/-- A year in at least four digits. -/
def showYear (year : Int) : String :=
  if year < 0 then "-" ++ padZeros 4 year.natAbs else padZeros 4 year.natAbs

/-- The decimals of a second, none for a whole one. -/
def showFraction (nanos : Nat) : String :=
  if nanos = 0 then ""
  else "." ++ String.ofList
    (((padZeros 9 nanos).toList.reverse.dropWhile (· == '0')).reverse)

/-- The date. -/
def showDate (t : CivilTime) : String :=
  showYear t.year ++ "-" ++ padZeros 2 t.month ++ "-" ++ padZeros 2 t.day

/-- The time of day. -/
def showTime (t : CivilTime) : String :=
  padZeros 2 t.hour ++ ":" ++ padZeros 2 t.minute ++ ":" ++ padZeros 2 t.second ++
    showFraction t.nanos

/-- An offset in hours and minutes. -/
def showOffset (sep : String) (offset : Int) : String :=
  let minutes := offset.natAbs / 60
  (if offset < 0 && minutes ≠ 0 then "-" else "+") ++
    padZeros 2 (minutes / 60) ++ sep ++ padZeros 2 (minutes % 60)

/-- The timestamp, with a `Z` for universal time. -/
def timestamp (m : Moment) : String :=
  let t := m.civil
  let offset := m.clock.offset
  showDate t ++ "T" ++ showTime t ++ (if offset = 0 then "Z" else showOffset ":" offset)

/-- The moment for people. A nameless clock is called by its offset. -/
def render (m : Moment) : String :=
  let t := m.civil
  let c := m.clock
  let offset := showOffset "" c.offset
  showDate t ++ " " ++ showTime t ++ " " ++ offset ++ " " ++
    (if c.abbreviation = "" then offset else c.abbreviation)

end Moment

end PathQuery
