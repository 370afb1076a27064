import ArchModel.Text.Char

/-!
# Dates and times

A timestamp is a date of the Gregorian calendar, possibly with a time of day and an offset.

* `Timestamp.read?` reads the written form, which a line feed may follow; `isTimestamp` says which
  plain scalars are timestamps.
* `Timestamp.instant?` is the moment of a timestamp with an offset.
* `Timestamp.check?` accepts the timestamps that exist.
* `Timestamp.text` writes a timestamp, `Timestamp.nested` the form it has inside a collection.
-/

namespace ArchModel.Yaml

open Text

/-- A time of day, with the offset from universal time in minutes if one is given. -/
structure TimeOfDay where
  hour : Nat
  minute : Nat
  second : Nat
  micro : Nat
  offset : Option Int
  deriving DecidableEq, Repr

/-- A date, possibly with a time of day. -/
structure Timestamp where
  year : Nat
  month : Nat
  day : Nat
  time : Option TimeOfDay
  deriving DecidableEq, Repr

namespace Timestamp

/-- One to `most` digits at the front, as many as there are. -/
def digits? (most : Nat) (cs : List Char) : Option (Nat × List Char) :=
  let ds := (cs.take most).takeWhile Char.isDigit
  if ds.isEmpty then none else some (decimalValue ds, cs.drop ds.length)

/-- Exactly `count` digits at the front. -/
def fixed? (count : Nat) (cs : List Char) : Option (Nat × List Char) :=
  let ds := (cs.take count).takeWhile Char.isDigit
  if ds.length = count then some (decimalValue ds, cs.drop count) else none

/-- A character at the front. -/
def char? (c : Char) : List Char → Option (List Char)
  | d :: cs => if d = c then some cs else none
  | [] => none

/-- The offset at the end of a time. -/
def offset? (cs : List Char) : Option (Option Int) :=
  if cs.isEmpty then some none
  else
    match cs.dropWhile fun c => c = ' ' ∨ c = '\t' with
    | ['Z'] => some (some 0)
    | sign :: cs => do
      if sign ≠ '+' ∧ sign ≠ '-' then none
      let (hours, cs) ← digits? 2 cs
      let (minutes, cs) ← match cs with
        | ':' :: cs => fixed? 2 cs
        | cs => some (0, cs)
      if !cs.isEmpty then none
      let n : Int := hours * 60 + minutes
      return some (if sign = '-' then -n else n)
    | [] => none

/-- A time of day with its offset. -/
def time? (cs : List Char) : Option TimeOfDay := do
  let (hour, cs) ← digits? 2 cs
  let cs ← char? ':' cs
  let (minute, cs) ← fixed? 2 cs
  let cs ← char? ':' cs
  let (second, cs) ← fixed? 2 cs
  let (micro, cs) := match cs with
    | '.' :: cs =>
      let ds := cs.takeWhile Char.isDigit
      let six := ds.take 6 ++ List.replicate (6 - ds.length) '0'
      (decimalValue six, cs.drop ds.length)
    | cs => (0, cs)
  let offset ← offset? cs
  return { hour, minute, second, micro, offset }

/-- The timestamp that a text without a line feed stands for. -/
def readLine? (cs : List Char) : Option Timestamp := do
  let (year, cs) ← fixed? 4 cs
  let cs ← char? '-' cs
  let (month, cs) ← digits? 2 cs
  let cs ← char? '-' cs
  let (day, cs) ← digits? 2 cs
  match cs with
  | [] => return { year, month, day, time := none }
  | c :: cs =>
    if c = 'T' ∨ c = 't' then
      return { year, month, day, time := some (← time? cs) }
    else if c = ' ' ∨ c = '\t' then
      return { year, month, day, time := some (← time? (cs.dropWhile fun c => c = ' ' ∨ c = '\t')) }
    else none

/-- The timestamp that a text stands for. -/
def read? (cs : List Char) : Option Timestamp :=
  readLine? (if cs.getLast? = some '\n' then cs.dropLast else cs)

/-- The number of days of a month. -/
def daysIn (year month : Nat) : Nat :=
  if month = 2 then
    if year % 4 = 0 ∧ (year % 100 ≠ 0 ∨ year % 400 = 0) then 29 else 28
  else if [4, 6, 9, 11].contains month then 30 else 31

/-- The timestamp, if there is such a day and time and the offset is less than a day. -/
def check? (t : Timestamp) : Option Timestamp :=
  let dateOk := 1 ≤ t.year ∧ 1 ≤ t.month ∧ t.month ≤ 12 ∧ 1 ≤ t.day ∧ t.day ≤ daysIn t.year t.month
  let timeOk := t.time.all fun time =>
    time.hour < 24 && time.minute < 60 && time.second < 60 &&
      time.offset.all fun o => o.natAbs < 24 * 60
  if dateOk ∧ timeOk then some t else none

/-- The number of days before a date, from the start of the calendar on. -/
def daysBefore (t : Timestamp) : Nat :=
  let years := t.year - 1
  let months := (List.range (t.month - 1)).foldl (fun n m => n + daysIn t.year (m + 1)) 0
  365 * years + years / 4 - years / 100 + years / 400 + months + (t.day - 1)

/-- The moment of a timestamp with an offset, in microseconds. -/
def instant? (t : Timestamp) : Option Int := do
  let time ← t.time
  let offset ← time.offset
  let minutes : Int := (t.daysBefore * 24 + time.hour) * 60 + time.minute - offset
  return (minutes * 60 + time.second) * 1000000 + time.micro

/-- A number with leading zeros. -/
def padded (width n : Nat) : String := String.ofList (digitsPadded 10 width n)

/-- The written form. -/
def text (t : Timestamp) : String :=
  let date := padded 4 t.year ++ "-" ++ padded 2 t.month ++ "-" ++ padded 2 t.day
  match t.time with
  | none => date
  | some time =>
    let clock := padded 2 time.hour ++ ":" ++ padded 2 time.minute ++ ":" ++ padded 2 time.second
    let micro := if time.micro = 0 then "" else "." ++ padded 6 time.micro
    let zone := match time.offset with
      | none => ""
      | some o => (if o < 0 then "-" else "+") ++ padded 2 (o.natAbs / 60) ++ ":" ++
          padded 2 (o.natAbs % 60)
    date ++ " " ++ clock ++ micro ++ zone

/-- The form of an offset inside a collection. -/
def nestedOffset (o : Int) : String :=
  if o = 0 then "datetime.timezone.utc"
  else
    let days := o.fdiv (24 * 60)
    let seconds := (o - days * (24 * 60)) * 60
    let parts := (if days = 0 then [] else ["days=" ++ toString days]) ++
      (if seconds = 0 then [] else ["seconds=" ++ toString seconds])
    "datetime.timezone(datetime.timedelta(" ++ ", ".intercalate parts ++ "))"

/-- The form of a timestamp inside a collection. -/
def nested (t : Timestamp) : String :=
  let date := [t.year, t.month, t.day].map toString
  match t.time with
  | none => "datetime.date(" ++ ", ".intercalate date ++ ")"
  | some time =>
    let small := if time.micro ≠ 0 then [time.second, time.micro]
      else if time.second ≠ 0 then [time.second] else []
    let clock := ([time.hour, time.minute] ++ small).map toString
    let zone := match time.offset with
      | none => []
      | some o => ["tzinfo=" ++ nestedOffset o]
    "datetime.datetime(" ++ ", ".intercalate (date ++ clock ++ zone) ++ ")"

end Timestamp

/-- Whether a plain scalar is a timestamp: a date with two digits each for month and day, or a date
with a time. -/
def isTimestamp (cs : List Char) : Bool :=
  match Timestamp.readLine? cs with
  | some t => t.time.isSome || cs.length == 10
  | none => false

end ArchModel.Yaml
