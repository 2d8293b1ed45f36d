import MarkdownTemplate.Decimal.Numeral
import MarkdownTemplate.Toml.Reading

/-!
# Dates and times in TOML text

A moment is a date, a time of day, or both, and then perhaps with its distance from universal time.
`Moment.text` writes it with a `T` between date and time and as many places of a second as it needs.
-/

namespace MarkdownTemplate

namespace Toml

open Reading

/-- A day of a month of a year. -/
structure Date where
  /-- The year. -/
  year : Nat
  /-- The month, from one. -/
  month : Nat
  /-- The day, from one. -/
  day : Nat
deriving DecidableEq

/-- A time of day. -/
structure Time where
  /-- The hour. -/
  hour : Nat
  /-- The minute. -/
  minute : Nat
  /-- The second. -/
  second : Nat
  /-- The digits of the fraction of the second, at most nine. -/
  fraction : List Char
deriving DecidableEq

/-- The distance of a time from universal time. -/
inductive TimeOffset where
  /-- The time is universal time. -/
  | universal
  /-- The time is so many minutes ahead. -/
  | minutes (distance : Int)
deriving DecidableEq

/-- A date, a time, or both. -/
structure Moment where
  /-- The date. -/
  date : Option Date
  /-- The time. -/
  time : Option Time
  /-- The distance of the time from universal time. -/
  timeOffset : Option TimeOffset
deriving DecidableEq

/-- A number in at least `width` digits. -/
def padded (width n : Nat) : String :=
  String.ofList (List.leftpad width '0' (Nat.toDigits 10 n))

/-- The text of a date. -/
def Date.text (date : Date) : String :=
  s!"{padded 4 date.year}-{padded 2 date.month}-{padded 2 date.day}"

/-- The text of a time, without zeros at the end of its fraction. -/
def Time.text (time : Time) : String :=
  let fraction := (time.fraction.reverse.dropWhile (· == '0')).reverse
  s!"{padded 2 time.hour}:{padded 2 time.minute}:{padded 2 time.second}" ++
    if fraction.isEmpty then "" else "." ++ String.ofList fraction

/-- The text of a distance from universal time. -/
def TimeOffset.text : TimeOffset → String
  | universal => "Z"
  | minutes distance =>
    let sign := if distance < 0 then "-" else "+"
    s!"{sign}{padded 2 (distance.natAbs / 60)}:{padded 2 (distance.natAbs % 60)}"

/-- The text of a moment. -/
def Moment.text (moment : Moment) : String :=
  let date := (moment.date.map Date.text).getD ""
  let time := (moment.time.map Time.text).getD ""
  let middle := if moment.date.isSome && moment.time.isSome then "T" else ""
  date ++ middle ++ time ++ (moment.timeOffset.map TimeOffset.text).getD ""

/-- Reads a number of exactly `width` digits, which has to lie between the two bounds. -/
def fixedNumber (width least greatest : Nat) : Reading Nat := do
  let chars := ((← get).rest.take width).takeWhile (isDigitIn 10)
  if chars.length < width then fail
  else converted false (take width) fun chars =>
    let value := (readNatural? 10 chars).getD 0
    if least ≤ value && value ≤ greatest then .ok value else .error (some .outOfRange)

/-- How many days a month has. -/
def daysInMonth (year month : Nat) : Nat :=
  let isLeap := year % 4 == 0 && (year % 100 != 0 || year % 400 == 0)
  if month == 2 then (if isLeap then 29 else 28)
  else if month == 4 || month == 6 || month == 9 || month == 11 then 30
  else 31

/-- Reads a date. -/
def date : Reading Date := do
  let year ← fixedNumber 4 0 9999
  let _ ← char '-'
  settle do
    let month ← fixedNumber 2 1 12
    let _ ← char '-'
    let day ← fixedNumber 2 1 (daysInMonth year month)
    return ⟨year, month, day⟩

/-- Reads the fraction of a second; digits past the ninth are dropped. -/
def secondFraction : Reading (List Char) := do
  let _ ← char '.'
  return (← takeSome (isDigitIn 10)).take 9

/-- Reads a time of day. -/
def time : Reading Time := do
  let hour ← fixedNumber 2 0 23
  let _ ← char ':'
  settle do
    let minute ← fixedNumber 2 0 59
    let _ ← char ':'
    let second ← fixedNumber 2 0 60
    let fraction ← optional secondFraction
    return ⟨hour, minute, second, fraction.getD []⟩

/-- Reads the distance of a time from universal time. -/
def timeOffset : Reading TimeOffset := named .timeOffset do
  let universal : Reading TimeOffset := do
    let _ ← one fun c => c == 'Z' || c == 'z'
    return .universal
  orElse universal do
    let sign ← one fun c => c == '+' || c == '-'
    settle do
      let hours ← fixedNumber 2 0 23
      let _ ← char ':'
      let minutes ← fixedNumber 2 0 59
      let distance : Int := hours * 60 + minutes
      return .minutes (if sign == '-' then -distance else distance)

/-- Reads a date, a time, or both. -/
def moment : Reading Moment :=
  let dated : Reading Moment := named .dateTime do
    let date ← date
    let time? ← optional do
      let _ ← one fun c => c == 'T' || c == 't' || c == ' '
      let time ← time
      return (time, ← optional timeOffset)
    return ⟨some date, time?.map Prod.fst, time?.bind Prod.snd⟩
  orElse dated <| named .time do
    return ⟨none, some (← time), none⟩

end Toml

end MarkdownTemplate
