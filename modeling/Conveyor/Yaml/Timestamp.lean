import Conveyor.Fault
import Conveyor.Value.Basic

/-!
# Timestamps

A timestamp scalar is a date, `2001-12-14` (month and day may have one digit), or a
date and a time of day: `T`, `t` or blanks, then `h:mm:ss`, an optional fraction
of a second after a point, and an optional zone (`Z`, or a sign, hours and
optional `:mm`), blanks allowed before it. A final line feed may follow.

A timestamp must name a real moment: the year is 1 to 9999, the month 1 to 12,
the day within the month (29 February only in leap years), the hour below 24 and
minute and second below 60. A zone must be less than a day away from UTC; it is
checked before the date. Only six digits of the fraction count.
-/

namespace Conveyor.Yaml

set_option autoImplicit false

/-- The fields of a timestamp scalar, as written. -/
structure TimestampText where
  year : List Char
  month : List Char
  day : List Char
  time : Option (List Char × List Char × List Char × List Char)
  /-- `none` without a zone; `some none` for `Z`; else the sign, hours and minutes. -/
  zone : Option (Option (Char × List Char × List Char))

def digitsValue (cs : List Char) : Nat :=
  cs.foldl (fun acc c => acc * 10 + (c.toNat - 48)) 0

def oneOrTwoDigits (cs : List Char) : Option (List Char × List Char) :=
  match cs with
  | a :: b :: rest => if a.isDigit then (if b.isDigit then some ([a, b], rest) else some ([a], b :: rest)) else none
  | [a] => if a.isDigit then some ([a], []) else none
  | [] => none

def exactDigits (n : Nat) (cs : List Char) : Option (List Char × List Char) :=
  let ds := cs.take n
  if ds.length == n && ds.all Char.isDigit then some (ds, cs.drop n) else none

def literal (c : Char) (cs : List Char) : Option (List Char) :=
  match cs with
  | d :: rest => if c == d then some rest else none
  | [] => none

def atEnd (cs : List Char) : Bool :=
  cs.isEmpty || cs == ['\n']

def isStampBlank (c : Char) : Bool :=
  c == ' ' || c == '\t'

def readOffset (cs : List Char) : Option (List Char × List Char) := do
  let (hours, more) ← oneOrTwoDigits cs
  if atEnd more then pure (hours, [])
  else
    let more ← literal ':' more
    let (minutes, more) ← exactDigits 2 more
    if atEnd more then pure (hours, minutes) else none

def readZone (cs : List Char) : Option (Option (Option (Char × List Char × List Char))) :=
  if atEnd cs then some none
  else
    match cs.dropWhile isStampBlank with
    | 'Z' :: more => if atEnd more then some (some none) else none
    | s :: more =>
      if s == '-' || s == '+' then
        (readOffset more).map fun (hours, minutes) => some (some (s, hours, minutes))
      else none
    | [] => none

def afterSeparator : List Char → Option (List Char)
  | c :: rest =>
    if c == 'T' || c == 't' then some rest
    else if isStampBlank c then some (rest.dropWhile isStampBlank)
    else none
  | [] => none

def readTime (cs : List Char) :
    Option ((List Char × List Char × List Char × List Char) ×
      Option (Option (Char × List Char × List Char))) := do
  let cs ← afterSeparator cs
  let (hour, cs) ← oneOrTwoDigits cs
  let cs ← literal ':' cs
  let (minute, cs) ← exactDigits 2 cs
  let cs ← literal ':' cs
  let (second, cs) ← exactDigits 2 cs
  let (fraction, cs) := match cs with
    | '.' :: rest => (rest.takeWhile Char.isDigit, rest.dropWhile Char.isDigit)
    | _ => ([], cs)
  let zone ← readZone cs
  pure ((hour, minute, second, fraction), zone)

def TimestampText.read? (s : String) : Option TimestampText := do
  let cs := s.toList
  let (year, cs) ← exactDigits 4 cs
  let cs ← literal '-' cs
  let (month, cs) ← oneOrTwoDigits cs
  let cs ← literal '-' cs
  let (day, cs) ← oneOrTwoDigits cs
  if atEnd cs then pure ⟨year, month, day, none, none⟩
  else
    let (time, zone) ← readTime cs
    pure ⟨year, month, day, some time, zone⟩

def isLeapYear (y : Nat) : Bool :=
  y % 4 == 0 && (y % 100 != 0 || y % 400 == 0)

def daysInMonth (y m : Nat) : Nat :=
  if m == 2 then (if isLeapYear y then 29 else 28)
  else if m == 4 || m == 6 || m == 9 || m == 11 then 30
  else 31

def checkDate (year month day : Nat) : Except Fault Unit := do
  if year < 1 || year > 9999 then throw (.value ("year " ++ toString year ++ " is out of range"))
  if month < 1 || month > 12 then throw (.value "month must be in 1..12")
  if day < 1 || day > daysInMonth year month then throw (.value "day is out of range for month")

def TimestampText.value (t : TimestampText) : Except Fault Value := do
  let year := digitsValue t.year
  let month := digitsValue t.month
  let day := digitsValue t.day
  match t.time with
  | none =>
    checkDate year month day
    pure (.date ⟨year, month, day⟩)
  | some (hour, minute, second, fraction) =>
    let offset : Option Int ← match t.zone with
      | some (some (sign, hours, minutes)) =>
        let span : Int := (digitsValue hours : Int) * 3600 + (digitsValue minutes : Int) * 60
        let span := if sign == '-' then -span else span
        if span ≤ -86400 || span ≥ 86400 then
          throw (.value ("offset must be a timedelta strictly between -timedelta(hours=24) and " ++
            "timedelta(hours=24), not " ++ spanLiteral span ++ "."))
        pure (some span)
      | some none => pure (some 0)
      | none => pure none
    checkDate year month day
    let hour := digitsValue hour
    let minute := digitsValue minute
    let second := digitsValue second
    if hour > 23 then throw (.value "hour must be in 0..23")
    if minute > 59 then throw (.value "minute must be in 0..59")
    if second > 59 then throw (.value "second must be in 0..59")
    let micro := digitsValue ((fraction.take 6) ++ List.replicate (6 - (fraction.take 6).length) '0')
    pure (.moment ⟨⟨year, month, day⟩, hour, minute, second, micro, offset⟩)

example : (TimestampText.read? "2001-12-14").isSome = true := by decide
example : daysInMonth 2000 2 = 29 ∧ daysInMonth 1900 2 = 28 := by decide

end Conveyor.Yaml
