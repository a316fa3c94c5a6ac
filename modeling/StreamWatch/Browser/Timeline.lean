import StreamWatch.Sample.Number

/-! The clock a check runs by. A check needs a few questions answered only: when a number of
milliseconds will have passed, how long ago an instant was, whether that reaches a limit, and how
much is left of the limit. Binary seconds answer them with rounding, rational milliseconds
exactly. -/
namespace StreamWatch.Browser

class Timeline (τ : Type) where
  later : τ → Int → Except Fault τ
  elapsed : τ → τ → τ
  reaches : τ → Int → Bool
  /-- The whole milliseconds, rounded up, that a span leaves of a limit. -/
  left : Int → τ → Except Fault Int
  /-- The whole milliseconds of a span, rounded toward zero. -/
  whole : τ → Except Fault Int

instance binarySeconds : Timeline Float where
  later t ms := (Sample.floatOf ms).map fun x => t + x / 1000.0
  elapsed start now := (now - start) * 1000.0
  reaches span ms := Numeral.Binary64.atLeast span ms
  left ms span := do
    let x := (← Sample.floatOf ms) - span
    match Numeral.Binary64.ceil? x with
    | some n => .ok n
    | none => .error (if x.isNaN then .undefinedNumber else .tooLarge)
  whole := Sample.wholeOf

instance exactMilliseconds : Timeline Rat where
  later t ms := .ok (t + ms)
  elapsed start now := now - start
  reaches span ms := decide ((ms : Rat) ≤ span)
  left ms span := .ok (ms - span).ceil
  whole span := .ok (if span < 0 then span.ceil else span.floor)

end StreamWatch.Browser
