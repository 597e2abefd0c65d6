/-!
# Values

## Dates and moments

A YAML document may hold a date, or a *moment*: a date and a time of day to the
microsecond, with its offset from UTC in seconds, or none for a local time. The
fields hold a date and time that have been checked to exist.

Two moments with offsets are the same when they name the same instant; a moment
without an offset is only ever the same as one without an offset and equal
fields.

A date is written `YYYY-MM-DD`; a moment adds ` hh:mm:ss`, then `.ffffff` when it
has microseconds, and its offset as `+hh:mm` or `-hh:mm`. As source, a date is
`datetime.date(Y, M, D)` and a moment `datetime.datetime(Y, M, D, h, m, s, us)`, the
microseconds left out when zero and then the seconds too, with `tzinfo=` and its
zone when it has an offset. A span of seconds is written as whole days, rounded
down, and the seconds left.
-/

namespace Conveyor

set_option autoImplicit false

/-- A date of the Gregorian calendar. -/
structure CalendarDate where
  year : Nat
  month : Nat
  day : Nat
  deriving DecidableEq, Inhabited

/-- A date with a time of day, and its offset from UTC in seconds if it has one. -/
structure Moment where
  date : CalendarDate
  hour : Nat
  minute : Nat
  second : Nat
  micro : Nat
  offset : Option Int
  deriving DecidableEq, Inhabited

def CalendarDate.ordinal (d : CalendarDate) : Nat :=
  let y := d.year - 1
  let leap := d.year % 4 == 0 && (d.year % 100 != 0 || d.year % 400 == 0)
  let monthStarts := [0, 31, 59, 90, 120, 151, 181, 212, 243, 273, 304, 334]
  y * 365 + y / 4 - y / 100 + y / 400 + monthStarts.getD (d.month - 1) 0 +
    (if leap && d.month > 2 then 1 else 0) + d.day

def Moment.localMicros (m : Moment) : Int :=
  ((m.date.ordinal * 86400 + m.hour * 3600 + m.minute * 60 + m.second : Nat) : Int) * 1000000 + m.micro

/-- Whether two moments are the same: the same instant when both have offsets, equal
fields when neither has. -/
def Moment.same (a b : Moment) : Bool :=
  match a.offset, b.offset with
  | some x, some y => a.localMicros - x * 1000000 == b.localMicros - y * 1000000
  | none, none => a == b
  | _, _ => false

def zeroPadded (width n : Nat) : String :=
  let digits := toString n
  String.ofList (List.replicate (width - digits.length) '0') ++ digits

def spanLiteral (seconds : Int) : String :=
  let days := seconds.fdiv 86400
  let rest := seconds.fmod 86400
  let fields := (if days != 0 then ["days=" ++ toString days] else []) ++
    (if rest != 0 then ["seconds=" ++ toString rest] else [])
  "datetime.timedelta(" ++ (if fields.isEmpty then "0" else ", ".intercalate fields) ++ ")"

def zoneLiteral (offset : Int) : String :=
  if offset == 0 then "datetime.timezone.utc"
  else "datetime.timezone(" ++ spanLiteral offset ++ ")"

def CalendarDate.text (d : CalendarDate) : String :=
  zeroPadded 4 d.year ++ "-" ++ zeroPadded 2 d.month ++ "-" ++ zeroPadded 2 d.day

def CalendarDate.literal (d : CalendarDate) : String :=
  "datetime.date(" ++ ", ".intercalate ([d.year, d.month, d.day].map toString) ++ ")"

def offsetText (offset : Int) : String :=
  let whole := offset.natAbs
  (if offset < 0 then "-" else "+") ++ zeroPadded 2 (whole / 3600) ++ ":" ++ zeroPadded 2 (whole % 3600 / 60)

def Moment.text (m : Moment) : String :=
  m.date.text ++ " " ++ zeroPadded 2 m.hour ++ ":" ++ zeroPadded 2 m.minute ++ ":" ++
    zeroPadded 2 m.second ++ (if m.micro == 0 then "" else "." ++ zeroPadded 6 m.micro) ++
    (match m.offset with
     | some offset => offsetText offset
     | none => "")

def Moment.literal (m : Moment) : String :=
  let time := if m.micro != 0 then [m.hour, m.minute, m.second, m.micro]
    else if m.second != 0 then [m.hour, m.minute, m.second]
    else [m.hour, m.minute]
  let fields := ([m.date.year, m.date.month, m.date.day] ++ time).map toString
  let zone := match m.offset with
    | some offset => ["tzinfo=" ++ zoneLiteral offset]
    | none => []
  "datetime.datetime(" ++ ", ".intercalate (fields ++ zone) ++ ")"

example : spanLiteral (-18000) = "datetime.timedelta(days=-1, seconds=68400)" := by decide
example : CalendarDate.text ⟨2001, 2, 3⟩ = "2001-02-03" := by decide

end Conveyor

/-!
## Configuration values

A configuration document, a request and a report are all trees of the same
seven shapes: nothing, a truth value, a whole number of any size, a binary64
number, text, a sequence and a mapping whose keys are text. Integers and
binary64 numbers stay apart, because a reader of the output tells `2` from
`2.0`. A mapping keeps the order in which its keys were first written.

A YAML document holds a few more: bytes, dates, moments, sets, fixed tuples (the
pairs of an ordered map), and mappings with keys that are not text. Its anchors can
make a collection hold itself; such a collection is followed a few times around and
then left as a `cycle`, which stands for the rest.
-/

namespace Conveyor

set_option autoImplicit false

/-- One node of a configuration tree. -/
inductive Value where
  | null
  | bool (b : Bool)
  | int (n : Int)
  | float (x : Float)
  | str (s : String)
  | list (items : List Value)
  | object (fields : List (String × Value))
  /-- Bytes, as a document's binary data holds them. -/
  | bytes (data : List UInt8)
  /-- A date. -/
  | date (d : CalendarDate)
  /-- A date with a time of day. -/
  | moment (m : Moment)
  /-- Distinct values, in the order first written. -/
  | set (items : List Value)
  /-- A fixed sequence of values. -/
  | tuple (items : List Value)
  /-- A mapping with a key that is not text, in the order keys were first written. -/
  | keyed (pairs : List (Value × Value))
  /-- A collection met again inside itself, deeper than it is followed: a mapping or a
  sequence. Walking it whole never ends. -/
  | cycle (mapping : Bool)
  deriving Inhabited

namespace Value

def kindName : Value → String
  | .null => "NoneType"
  | .bool _ => "bool"
  | .int _ => "int"
  | .float _ => "float"
  | .str _ => "str"
  | .list _ => "list"
  | .object _ => "dict"
  | .bytes _ => "bytes"
  | .date _ => "date"
  | .moment _ => "datetime"
  | .set _ => "set"
  | .tuple _ => "tuple"
  | .keyed _ => "dict"
  | .cycle mapping => if mapping then "dict" else "list"

def field? (v : Value) (key : String) : Option Value :=
  match v with
  | .object fields => fields.lookup key
  | _ => none

def hasField (v : Value) (key : String) : Bool :=
  (v.field? key).isSome

def str? : Value → Option String
  | .str s => some s
  | _ => none

def list? : Value → Option (List Value)
  | .list items => some items
  | _ => none

def object? : Value → Option (List (String × Value))
  | .object fields => some fields
  | _ => none

def isObject : Value → Bool
  | .object _ => true
  | _ => false

def isList : Value → Bool
  | .list _ => true
  | _ => false

/-- Whether a value counts as false when tested: nothing, false, zero, empty text or
collection. -/
def isFalsy : Value → Bool
  | .null => true
  | .bool b => !b
  | .int n => n == 0
  | .float x => x == 0.0
  | .str s => s.isEmpty
  | .list items => items.isEmpty
  | .object fields => fields.isEmpty
  | .bytes data => data.isEmpty
  | .date _ | .moment _ => false
  | .set items | .tuple items => items.isEmpty
  | .keyed pairs => pairs.isEmpty
  | .cycle _ => false

def isNull : Value → Bool
  | .null => true
  | _ => false

def ofOption : Option String → Value
  | some s => .str s
  | none => .null

def strs (xs : List String) : Value :=
  .list (xs.map Value.str)

end Value

def Fields.set (fields : List (String × Value)) (key : String) (v : Value) :
    List (String × Value) :=
  if fields.any (fun entry => entry.1 == key) then
    fields.map (fun entry => if entry.1 == key then (key, v) else entry)
  else
    fields ++ [(key, v)]

theorem Fields.set_lookup_self (fields : List (String × Value)) (key : String) (v : Value) :
    (Fields.set fields key v).lookup key = some v := by
  unfold Fields.set
  split
  · rename_i present
    induction fields with
    | nil => simp at present
    | cons head rest ih =>
      obtain ⟨k, b⟩ := head
      by_cases same : k = key
      · subst same
        simp
      · have restPresent : rest.any (fun entry => entry.1 == key) = true := by
          simpa [same] using present
        have keyDiffers : (key == k) = false := by
          simpa [beq_iff_eq] using fun back => same back.symm
        have kDiffers : (k == key) = false := by
          simpa [beq_iff_eq] using same
        simp only [List.map_cons, kDiffers, Bool.false_eq_true, if_false, List.lookup_cons, keyDiffers]
        exact ih restPresent
  · rename_i absent
    induction fields with
    | nil => simp
    | cons head rest ih =>
      obtain ⟨k, b⟩ := head
      have headDiffers : k ≠ key := by
        intro same
        simp [same] at absent
      have restAbsent : ¬ rest.any (fun entry => entry.1 == key) = true := by
        intro restPresent
        simp_all
      have keyDiffers : (key == k) = false := by
        simpa [beq_iff_eq] using fun back => headDiffers back.symm
      rw [List.cons_append, List.lookup_cons, keyDiffers]
      exact ih restAbsent
end Conveyor
