import JarLens.Text.Number

/-!
# Instants

A moment as the seconds since the start of 1970 in universal time, and its written form: date and
time with a `T` between, the fraction of a second if there is one, and a final `Z`.
-/

namespace JarLens

/-- A moment in universal time. -/
structure Instant where
  /-- Whole seconds since the start of 1970. -/
  seconds : Nat
  microseconds : Nat

/-- A day of the calendar. -/
structure Day where
  year : Nat
  month : Nat
  day : Nat
  deriving DecidableEq

/-- The calendar day that lies `days` days after the first one of 1970. Years are counted from March
on, so that the leap day is the last of its year, in eras of 400 years. -/
def Day.ofNumber (days : Nat) : Day :=
  let shifted := days + 719468
  let era := shifted / 146097
  let inEra := shifted % 146097
  let yearOfEra := (inEra - inEra / 1460 + inEra / 36524 - inEra / 146096) / 365
  let inYear := inEra - (365 * yearOfEra + yearOfEra / 4 - yearOfEra / 100)
  let fromMarch := (5 * inYear + 2) / 153
  let month := if fromMarch < 10 then fromMarch + 3 else fromMarch - 9
  { year := yearOfEra + era * 400 + if month ≤ 2 then 1 else 0
    month
    day := inYear - (153 * fromMarch + 2) / 5 + 1 }

/-- How many days after the first one of 1970 a calendar day lies. -/
def Day.toNumber (d : Day) : Int :=
  let year := if d.month ≤ 2 then d.year - 1 else d.year
  let fromMarch := (d.month + 9) % 12
  let inYear := (153 * fromMarch + 2) / 5 + d.day - 1
  let yearOfEra := year % 400
  let inEra := yearOfEra * 365 + yearOfEra / 4 - yearOfEra / 100 + inYear
  (year / 400 * 146097 + inEra : Nat) - 719468

/-- Whether a day is in the calendar. -/
def Day.isValid (d : Day) : Bool :=
  1 ≤ d.month && d.month ≤ 12 && 1 ≤ d.day && Day.ofNumber d.toNumber.toNat == d

/-- A number filled up with zeros to `width` digits. -/
def Text.ofNatPadded (width n : Nat) : Text :=
  let digits := Text.ofNat n
  List.replicate (width - digits.length) '0' ++ digits

/-- The written form of an instant. -/
def Instant.toText (t : Instant) : Text :=
  let day := Day.ofNumber (t.seconds / 86400)
  let second := t.seconds % 86400
  Text.join ['-'] [Text.ofNatPadded 4 day.year, Text.ofNatPadded 2 day.month,
    Text.ofNatPadded 2 day.day] ++ 'T' ::
  Text.join [':'] [Text.ofNatPadded 2 (second / 3600), Text.ofNatPadded 2 (second / 60 % 60),
    Text.ofNatPadded 2 (second % 60)] ++
  (if t.microseconds = 0 then [] else '.' :: Text.ofNatPadded 6 t.microseconds) ++ ['Z']

end JarLens
