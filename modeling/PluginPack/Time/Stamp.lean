/-!
Local timestamps: a calendar date and a time of day, without a time zone.

They are read from ISO 8601 text (`2024-03-05T14:07:00`, with the time or parts
of it optional) and written in the two layouts that the packager uses: the
properties header `Tue Mar 05 14:07:00 2024` and the short stamp
`03/05/2024 14:07`.
-/

namespace PluginPack.Time

structure Stamp where
  year : Nat
  month : Nat
  day : Nat
  hour : Nat := 0
  minute : Nat := 0
  second : Nat := 0
  deriving DecidableEq, Repr, Inhabited

def isLeapYear (y : Nat) : Bool :=
  y % 4 == 0 && (y % 100 != 0 || y % 400 == 0)

def daysInMonth (y m : Nat) : Nat :=
  match m with
  | 2 => if isLeapYear y then 29 else 28
  | 4 | 6 | 9 | 11 => 30
  | _ => 31

def dayNumber (y m d : Nat) : Nat :=
  let y' := y - 1
  y' * 365 + y' / 4 - y' / 100 + y' / 400 +
    ((List.range (m - 1)).map fun i => daysInMonth y (i + 1)).foldl (· + ·) 0 + (d - 1)

/-- The date and time a number of seconds after 1970-01-01 00:00:00: the days are
counted in eras of 400 years from a year that starts in March, so that the leap
day falls at the end of each year. -/
def Stamp.ofEpochSeconds (seconds : Nat) : Stamp :=
  let days := seconds / 86400
  let rest := seconds % 86400
  let z := days + 719468
  let era := z / 146097
  let doe := z % 146097
  let yoe := (doe - doe / 1460 + doe / 36524 - doe / 146096) / 365
  let doy := doe - (365 * yoe + yoe / 4 - yoe / 100)
  let mp := (5 * doy + 2) / 153
  let month := if mp < 10 then mp + 3 else mp - 9
  { year := yoe + era * 400 + (if month ≤ 2 then 1 else 0), month, day := doy - (153 * mp + 2) / 5 + 1,
    hour := rest / 3600, minute := rest % 3600 / 60, second := rest % 60 }

def Stamp.weekday (t : Stamp) : Nat := dayNumber t.year t.month t.day % 7

def padded (width n : Nat) : String :=
  let digits := toString n
  String.ofList (List.replicate (width - digits.length) '0') ++ digits

def weekdayNames : List String := ["Mon", "Tue", "Wed", "Thu", "Fri", "Sat", "Sun"]

def monthNames : List String :=
  ["Jan", "Feb", "Mar", "Apr", "May", "Jun", "Jul", "Aug", "Sep", "Oct", "Nov", "Dec"]

def Stamp.longForm (t : Stamp) : String :=
  weekdayNames.getD t.weekday "" ++ " " ++ monthNames.getD (t.month - 1) "" ++ " " ++
    padded 2 t.day ++ " " ++ padded 2 t.hour ++ ":" ++ padded 2 t.minute ++ ":" ++
    padded 2 t.second ++ " " ++ toString t.year

def Stamp.shortForm (t : Stamp) : String :=
  padded 2 t.month ++ "/" ++ padded 2 t.day ++ "/" ++ toString t.year ++ " " ++
    padded 2 t.hour ++ ":" ++ padded 2 t.minute

def digitsValue? (cs : List Char) : Option Nat :=
  if cs.all Char.isDigit then some (cs.foldl (fun n c => n * 10 + (c.toNat - '0'.toNat)) 0)
  else none

/-- Reads the time of day: `hh`, `hh:mm`, `hh:mm:ss`, optionally with a fraction of
a second and a zone offset, which are checked and not kept. -/
def readClock (cs : List Char) : Option (Nat × Nat × Nat) := do
  let (clock, _) := (cs.takeWhile (fun c => c != '+' && c != '-' && c != 'Z'),
    cs.dropWhile (fun c => c != '+' && c != '-' && c != 'Z'))
  let clock := clock.takeWhile (· != '.')
  match clock with
  | [h1, h2] => pure (← digitsValue? [h1, h2], 0, 0)
  | [h1, h2, ':', m1, m2] => pure (← digitsValue? [h1, h2], ← digitsValue? [m1, m2], 0)
  | [h1, h2, ':', m1, m2, ':', s1, s2] =>
    pure (← digitsValue? [h1, h2], ← digitsValue? [m1, m2], ← digitsValue? [s1, s2])
  | _ => none

/-- Reads an ISO 8601 date, optionally followed by one separator character and a
time of day; `none` when the text is no valid timestamp. -/
def Stamp.ofIso? (text : String) : Option Stamp := do
  let cs := text.toList
  let (y, m, d, rest) ← match cs with
    | y1 :: y2 :: y3 :: y4 :: '-' :: m1 :: m2 :: '-' :: d1 :: d2 :: rest =>
      pure (← digitsValue? [y1, y2, y3, y4], ← digitsValue? [m1, m2], ← digitsValue? [d1, d2], rest)
    | _ => none
  if y < 1 || m < 1 || m > 12 || d < 1 || d > daysInMonth y m then none
  let (hour, minute, second) ← match rest with
    | [] => pure (0, 0, 0)
    | _ :: clock => readClock clock
  if hour > 23 || minute > 59 || second > 59 then none
  pure { year := y, month := m, day := d, hour, minute, second }

example : (Stamp.ofIso? "2024-03-05T14:07:00").map Stamp.longForm = some "Tue Mar 05 14:07:00 2024" := by
  decide +kernel

example : Stamp.ofEpochSeconds 1709647620 = { year := 2024, month := 3, day := 5, hour := 14, minute := 7 } := by
  decide

end PluginPack.Time
