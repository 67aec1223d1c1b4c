import Mathlib.Tactic.Lemma

/-!
# Time

`base::Time` and the two conversions of it that `workspace.cc` calls. The conversions belong to
Chromium's base library, so they are the class `TimeLib`; the instance `utcCalendar` gives what the
library does on the ISO 8601 strings that `TimeToString` writes, and is used on concrete inputs only.

`timeToString` and `timeFromString` are the two helpers of `workspace.cc` over these conversions.
-/

namespace PureCloak.Base

/-- `base::Time`, in microseconds since 1601-01-01 UTC; zero is the null time. -/
structure Time where
  us : Int
deriving DecidableEq

/-- `base::Time()`. -/
def Time.null : Time := ⟨0⟩

/-- `Time::is_null`. -/
def Time.isNull (t : Time) : Bool := t.us == 0

/-- `base::Time::Exploded`. -/
structure Exploded where
  year : Int
  month : Int
  dayOfMonth : Int
  hour : Int
  minute : Int
  second : Int
  millisecond : Int

/-- The calendar conversions of `base::Time`. -/
class TimeLib where
  /-- `Time::UTCExplode`. -/
  utcExplode : Time → Exploded
  /-- `Time::FromUTCString`; `none` is a failed parse. -/
  fromUTCString : String → Option Time

/-- `%0wd` of `snprintf`. -/
def padInt (w : Nat) (i : Int) : String :=
  let sign := if i < 0 then "-" else ""
  let digits := toString i.natAbs
  sign ++ String.ofList (List.replicate (w - sign.length - digits.length) '0') ++ digits

section
variable [TimeLib]

/-- `TimeToString`. -/
def timeToString (t : Time) : String :=
  if t.isNull then ""
  else
    let exploded := TimeLib.utcExplode t
    padInt 4 exploded.year ++ "-" ++ padInt 2 exploded.month ++ "-" ++
      padInt 2 exploded.dayOfMonth ++ "T" ++ padInt 2 exploded.hour ++ ":" ++
      padInt 2 exploded.minute ++ ":" ++ padInt 2 exploded.second ++ "." ++
      padInt 3 exploded.millisecond ++ "Z"

/-- The first `'T'` of a string replaced by a blank, if it has one. -/
def spaceForT : List Char → Option (List Char)
  | [] => none
  | 'T' :: cs => some (' ' :: cs)
  | c :: cs => (spaceForT cs).map (c :: ·)

/-- `TimeFromString`. -/
def timeFromString (str : String) : Time :=
  if str.isEmpty then Time.null
  else
    match TimeLib.fromUTCString str with
    | some t => t
    | none =>
      match spaceForT str.toList with
      | some spaced => (TimeLib.fromUTCString (String.ofList spaced)).getD Time.null
      | none => Time.null

end

/-- Days from 1601-01-01 to a date of the Gregorian calendar. -/
def daysFromCivil (year month day : Int) : Int :=
  let y := if month ≤ 2 then year - 1 else year
  let era := y / 400
  let yoe := y - era * 400
  let doy := (153 * (if month > 2 then month - 3 else month + 9) + 2) / 5 + day - 1
  era * 146097 + yoe * 365 + yoe / 4 - yoe / 100 + doy - 584694

/-- The date that lies a number of days after 1601-01-01. -/
def civilFromDays (days : Int) : Int × Int × Int :=
  let z := days + 584694
  let era := z / 146097
  let doe := z - era * 146097
  let yoe := (doe - doe / 1460 + doe / 36524 - doe / 146096) / 365
  let doy := doe - (365 * yoe + yoe / 4 - yoe / 100)
  let mp := (5 * doy + 2) / 153
  let month := if mp < 10 then mp + 3 else mp - 9
  let year := yoe + era * 400 + (if month ≤ 2 then 1 else 0)
  (year, month, doy - (153 * mp + 2) / 5 + 1)

/-- The value of a run of decimal digits. -/
def digitsValue (cs : List Char) : Int :=
  cs.foldl (fun n c => n * 10 + (c.toNat - '0'.toNat : Nat)) 0

/-- The UTC calendar, on the strings `TimeToString` writes for the years 0 to 9999. -/
instance utcCalendar : TimeLib where
  utcExplode t :=
    let ms := t.us / 1000
    let date := civilFromDays (ms / 86400000)
    ⟨date.1, date.2.1, date.2.2, ms / 3600000 % 24, ms / 60000 % 60, ms / 1000 % 60, ms % 1000⟩
  fromUTCString str :=
    match str.toList with
    | [y1, y2, y3, y4, '-', m1, m2, '-', d1, d2, 'T', h1, h2, ':', n1, n2, ':', s1, s2, '.', f1, f2,
        f3, 'Z'] =>
      let days := daysFromCivil (digitsValue [y1, y2, y3, y4]) (digitsValue [m1, m2])
        (digitsValue [d1, d2])
      let minutes := days * 1440 + digitsValue [h1, h2] * 60 + digitsValue [n1, n2]
      some ⟨(minutes * 60000 + digitsValue [s1, s2] * 1000 + digitsValue [f1, f2, f3]) * 1000⟩
    | _ => none

example : timeToString ⟨13426387200123456⟩ = "2026-06-20T00:00:00.123Z" := by decide

example : timeFromString "2026-06-20T00:00:00.123Z" = ⟨13426387200123000⟩ := by decide

end PureCloak.Base
