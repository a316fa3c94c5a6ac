import StreamWatch.Numeral.Integer

/-! Moments of the calendar, in universal time. Every time the hour is asked for, the next answer is
one second later, up to the end of the calendar with its last year. -/
namespace StreamWatch.Report

structure Instant where
  year : Nat
  month : Nat
  day : Nat
  hour : Nat
  minute : Nat
  second : Nat
  microsecond : Nat
  deriving DecidableEq

namespace Instant

def isLeap (year : Nat) : Bool := year % 4 == 0 && (year % 100 != 0 || year % 400 == 0)

def daysIn (year month : Nat) : Nat :=
  if month = 2 then if isLeap year then 29 else 28
  else if month = 4 ∨ month = 6 ∨ month = 9 ∨ month = 11 then 30
  else 31

def nextDay (t : Instant) : Instant :=
  if t.day < daysIn t.year t.month then { t with day := t.day + 1 }
  else if t.month < 12 then { t with day := 1, month := t.month + 1 }
  else { t with day := 1, month := 1, year := t.year + 1 }

def lastYear : Nat := 9999

def nextSecond (t : Instant) : Instant :=
  if t.second < 59 then { t with second := t.second + 1 }
  else if t.minute < 59 then { t with second := 0, minute := t.minute + 1 }
  else if t.hour < 23 then { t with second := 0, minute := 0, hour := t.hour + 1 }
  else nextDay { t with second := 0, minute := 0, hour := 0 }

def nextSecond? (t : Instant) : Option Instant :=
  some t.nextSecond |>.filter (·.year ≤ lastYear)

def text (t : Instant) : String :=
  let part (width n : Nat) := String.ofList (Numeral.Integer.padded width n)
  let date := s!"{part 4 t.year}-{part 2 t.month}-{part 2 t.day}"
  let time := s!"{part 2 t.hour}:{part 2 t.minute}:{part 2 t.second}"
  let fraction := if t.microsecond = 0 then "" else "." ++ part 6 t.microsecond
  s!"{date}T{time}{fraction}Z"

end Instant
end StreamWatch.Report
