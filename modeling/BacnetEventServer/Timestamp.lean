import BacnetEventServer.Json

namespace BacnetEventServer

/-- `isspace` in the C locale. -/
def isSpace (c : UInt8) : Bool := c = 32 || (9 ≤ c && c ≤ 13)

/-- `isdigit`. -/
def isDigit (c : UInt8) : Bool := 48 ≤ c && c ≤ 57

/-- The value of a run of decimal digits. -/
def digitsValue (ds : CStr) : Nat := ds.foldl (fun acc d => 10 * acc + (d.toNat - 48)) 0

/-- The optional sign of a `%d` conversion: whether it is `-`, and the text after it. -/
def scanSign : CStr → Bool × CStr
  | 45 :: rest => (true, rest)
  | 43 :: rest => (false, rest)
  | s => (false, s)

/-- A `%d` conversion of `sscanf`: blanks skipped, an optional sign, then at least one digit.
Returns the number and the text after it. -/
def scanInt (s : CStr) : Option (Int × CStr) :=
  let (negative, s) := scanSign (s.dropWhile isSpace)
  let ds := s.takeWhile isDigit
  if ds = [] then none
  else some (if negative then -(digitsValue ds : Int) else digitsValue ds, s.dropWhile isDigit)

/-- A byte of the format other than a blank or `%`: it must be the next byte of the input. -/
def scanLiteral (c : UInt8) : CStr → Option CStr
  | d :: rest => if d = c then some rest else none
  | [] => none

/-- `sscanf(s, "%d<sep>%d<sep>%d", ...) == 3`: the three numbers, when all three convert. -/
def sscanfThree (sep : UInt8) (s : CStr) : Option (Int × Int × Int) := do
  let (a, s) ← scanInt s
  let s ← scanLiteral sep s
  let (b, s) ← scanInt s
  let s ← scanLiteral sep s
  let (c, _) ← scanInt s
  pure (a, b, c)

/-- `sscanf(s, "%d:%d", &tz_hour, &tz_min) >= 1`: the hour, and the minutes or the `0` they
were set to when only the hour converts. -/
def sscanfOffset (s : CStr) : Option (Int × Int) := do
  let (hour, s) ← scanInt s
  pure (hour, ((scanLiteral 58 s).bind scanInt).elim 0 (·.1))

/-- `strchr(s, c)`: the text from the first `c` on. -/
def strchr (s : CStr) (c : UInt8) : Option CStr :=
  match s.dropWhile (· != c) with
  | [] => none
  | rest => some rest

/-- The milliseconds after the `.`: up to three digits copied over `"000"`, then `atoi`. -/
def fractionMillis (s : CStr) : Nat :=
  let ds := (s.takeWhile isDigit).take 3
  digitsValue (ds ++ List.replicate (3 - ds.length) 48)

/-- The zone scan, from the start of the text: it stops at the end, at a `Z` or a `+`, and at
a `-` that follows a `:` or lies past the tenth byte. `i` is the position, `prev` the byte
before it. -/
def tzScan : Nat → UInt8 → CStr → CStr
  | _, _, [] => []
  | i, prev, c :: cs =>
    if c = 90 ∨ c = 43 then c :: cs
    else if c = 45 ∧ ((i ≠ 0 ∧ prev = 58) ∨ 10 < i) then c :: cs
    else tzScan (i + 1) c cs

/-- The offset the zone gives: `0` for `Z`, signed `tz_hour * 60 + tz_min` after a sign,
`0` when no hour converts or no zone is found. -/
def tzOffsetMinutes : CStr → Int
  | 90 :: _ => 0
  | 43 :: rest => (sscanfOffset rest).elim 0 fun o => o.1 * 60 + o.2
  | 45 :: rest => (sscanfOffset rest).elim 0 fun o => -(o.1 * 60 + o.2)
  | _ => 0

/-- The fields of `struct tm` the parser sets. -/
structure Tm where
  year : Int
  mon : Int
  mday : Int
  hour : Int
  min : Int
  sec : Int
  deriving DecidableEq, Repr

/-- Gregorian leap years. -/
def isLeapYear (y : Int) : Bool := y % 4 = 0 && (y % 100 != 0 || y % 400 = 0)

/-- Leap days in the years before `y`, by floor division as glibc counts them. -/
def leapDaysBefore (y : Int) : Int := (y - 1) / 4 - (y - 1) / 100 + (y - 1) / 400

/-- Days before each month: glibc's `__mon_yday`. -/
def monYday (leap : Bool) : List Int :=
  if leap then [0, 31, 60, 91, 121, 152, 182, 213, 244, 274, 305, 335]
  else [0, 31, 59, 90, 120, 151, 181, 212, 243, 273, 304, 334]

/-- `timegm`: the seconds from the epoch to a UTC time, a month outside `0 .. 11` carried
into the year and the other fields counted as they are. The result `-1` also names the
second before the epoch. -/
def timegm (tm : Tm) : Int :=
  let year := tm.year + 1900 + tm.mon / 12
  let yday := (monYday (isLeapYear year)).getD (tm.mon % 12).toNat 0 + tm.mday - 1
  let days := 365 * (year - 1970) + (leapDaysBefore year - leapDaysBefore 1970) + yday
  ((days * 24 + tm.hour) * 60 + tm.min) * 60 + tm.sec

/-- `parse_iso8601_timestamp`: the milliseconds from the epoch, or `none` for its `-1`. The
numbers are kept exact, which is faithful while every field fits an `int`. -/
def parseIso8601Timestamp (iso : CStr) : Option Int := do
  let (year, month, day) ← sscanfThree 45 iso
  let separated ← (strchr iso 84).orElse fun _ => strchr iso 32
  let time := separated.tail
  let (hour, minute, second) ← sscanfThree 58 time
  let milliseconds : Nat := (strchr time 46).elim 0 fun rest => fractionMillis rest.tail
  let offset := tzOffsetMinutes (tzScan 0 0 iso)
  let epochSec := timegm ⟨year - 1900, month - 1, day, hour, minute, second⟩
  if epochSec = -1 then none
  else some ((epochSec - offset * 60) * 1000 + milliseconds)

end BacnetEventServer
