import JarLens.Report.Instant
import JarLens.Shell.Number

/-!
# Moments in words

Moments as they are told to utilities: in digits only, or in words, which are a date, a time of day
and distances from them in any order. Times are universal ones. What comes before the start of 1970
counts as that.
-/

namespace JarLens.Shell.Utility

/-- The microseconds of a second. -/
def second : Nat := 1000000

/-- The seconds of a day. -/
def daySeconds : Nat := 86400

/-- The microseconds from the start of 1970 to a second of a day. -/
def momentOf (day : Int) (seconds : Nat) : Int :=
  (day * daySeconds + seconds) * second

/-- The day of the calendar that three numbers tell. -/
def dayOf? (year month day : Nat) : Option Int :=
  let d : Day := { year, month, day }
  if d.isValid then some d.toNumber else none

/-- The seconds of a time of day. -/
def secondsOf? (hour minute second : Nat) : Option Nat :=
  if hour < 24 && minute < 60 && second < 61 then some (hour * 3600 + minute * 60 + second)
  else none

/-! ## Digits -/

/-- The moment that digits tell: month, day, hour and minute after the year, which can have two
digits or be left out, and before the second, which follows a point. -/
def momentOfDigits? (now : Nat) (t : Text) : Option Nat := do
  let digits := t.takeWhile Char.isDigit
  let seconds ← match t.drop digits.length with
    | [] => some 0
    | ['.', a, b] => Text.number? 10 [a, b]
    | _ => none
  let number := fun (start count : Nat) => Text.number? 10 ((digits.drop start).take count)
  let thisYear := (Day.ofNumber (now / second / daySeconds)).year
  let (year, start) ← match digits.length with
    | 8 => some (thisYear, 0)
    | 10 => (number 0 2).map fun n => (if n < 69 then 2000 + n else 1900 + n, 2)
    | 12 => (number 0 4).map fun n => (n, 4)
    | _ => none
  let day ← dayOf? year (← number start 2) (← number (start + 2) 2)
  let time ← secondsOf? (← number (start + 4) 2) (← number (start + 6) 2) seconds
  some (momentOf day time).toNat

/-! ## Words -/

/-- What words tell of a moment. -/
structure Telling where
  /-- The days from the first one of 1970. -/
  day : Option Int := none
  /-- The time of day in microseconds. -/
  time : Option Nat := none
  /-- How much later the moment is, in microseconds. -/
  later : Int := 0
  months : Int := 0

/-- The seconds of what time is counted in, and its months. -/
def unit? (t : Text) : Option (Nat × Nat) :=
  let t := if 1 < t.length && t.getLast? == some 's' then t.dropLast else t
  match String.ofList t with
  | "sec" | "second" => some (1, 0)
  | "min" | "minute" => some (60, 0)
  | "hour" => some (3600, 0)
  | "day" => some (daySeconds, 0)
  | "week" => some (7 * daySeconds, 0)
  | "fortnight" => some (14 * daySeconds, 0)
  | "month" => some (0, 1)
  | "year" => some (0, 12)
  | _ => none

/-- The date in a word. -/
def date? (t : Text) : Option Int :=
  match (Text.splitOn '-' t).map (Text.number? 10), (Text.splitOn '/' t).map (Text.number? 10) with
  | [some year, some month, some day], _ => dayOf? year month day
  | _, [some first, some second, some third] =>
    if 31 < first then dayOf? first second third else dayOf? third first second
  | _, _ => none

/-- The fraction of a second that digits after the point tell, in microseconds. -/
def fraction? (digits : Text) : Option Nat :=
  Text.number? 10 (digits.take 6 ++ List.replicate (6 - digits.length) '0')

/-- The time of day in a word, in microseconds. -/
def time? (t : Text) : Option Nat := do
  let t := if t.getLast? == some 'z' then t.dropLast else t
  let (t, microseconds) ← match Text.splitOn '.' t with
    | [t] => some (t, 0)
    | [t, digits] => (fraction? digits).map fun n => (t, n)
    | _ => none
  let seconds ← match (Text.splitOn ':' t).map (Text.number? 10) with
    | [some hour, some minute] => secondsOf? hour minute 0
    | [some hour, some minute, some second] => secondsOf? hour minute second
    | _ => none
  some (seconds * second + microseconds)

/-- Goes on by a number of units. -/
def Telling.goOn (told : Telling) (count : Int) (unit : Nat × Nat) : Telling :=
  { told with
    later := told.later + count * (unit.1 * second : Nat)
    months := told.months + count * unit.2 }

/-- The number that a word tells of the unit after it. -/
def count? (word : Text) : Option Int :=
  match String.ofList word with
  | "next" => some 1
  | "last" => some (-1)
  | _ => decimal? word

/-- What words tell besides what is told already, the first of them after a number or not. None if
they cannot be read. -/
def tellWords? (told : Telling) (count : Option Int) : List Text → Option Telling
  | [] => if count.isSome then none else some told
  | word :: words =>
    let sign : Int := if words.head? == some "ago".toList then -1 else 1
    match unit? word with
    | some unit => tellWords? (told.goOn (sign * count.getD 1) unit) none words
    | none =>
      if count.isSome then none
      else
        match String.ofList word with
        | "now" | "today" | "utc" | "z" | "ago" => tellWords? told none words
        | "yesterday" => tellWords? (told.goOn (-1) (daySeconds, 0)) none words
        | "tomorrow" => tellWords? (told.goOn 1 (daySeconds, 0)) none words
        | _ =>
          match count? word, date? word, time? word with
          | some count, _, _ => tellWords? told (some count) words
          | none, some day, _ => tellWords? { told with day := some day } none words
          | none, none, some time => tellWords? { told with time := some time } none words
          | none, none, none => none

/-- The day that lies some months after another one. -/
def afterMonths (day months : Int) : Int :=
  if months = 0 then day
  else
    let d := Day.ofNumber day.toNat
    let month := d.year * 12 + (d.month - 1) + months
    let year := (month / 12).toNat
    ({ d with year, month := (month % 12).toNat + 1 } : Day).toNumber

/-- The moment that words tell, or seconds after a sign. -/
def momentOfWords? (now : Nat) (t : Text) : Option Nat :=
  match t with
  | '@' :: t =>
    match Text.splitOn '.' t with
    | [seconds] => (decimal? seconds).map fun n : Int => (n * second).toNat
    | [seconds, digits] => do
      let n ← decimal? seconds
      let part ← fraction? digits
      some (n * second + part).toNat
    | _ => none
  | t => do
    let plain := fun (c : Char) => if isNumberSpace c then ' ' else c.toLower
    let words := (Text.splitOn ' ' (t.map plain)).filter (!·.isEmpty)
    let words := words.flatMap fun word =>
      match word.head?.any Char.isDigit, Text.splitOn 't' word with
      | true, [date, time] => if (date? date).isSome then [date, time] else [word]
      | _, _ => [word]
    let told ← tellWords? {} none words
    let microseconds := told.time.getD
      (if told.day.isSome then 0 else now % (daySeconds * second))
    let day := told.day.getD (now / (daySeconds * second) : Nat)
    some (afterMonths day told.months * (daySeconds * second : Nat) + microseconds +
      told.later).toNat

end JarLens.Shell.Utility
