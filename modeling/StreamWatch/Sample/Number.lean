import StreamWatch.Json.Value
import StreamWatch.Numeral.Decimal

/-! Numbers out of values of unknown shape. A counter is zero wherever its value is absent or cannot
be read; only an infinite number is refused. A time has to be a number or the text of one. -/
namespace StreamWatch.Sample

open Json (Value)

def wholeOf (x : Float) : Except Fault Int :=
  match Numeral.Binary64.whole? x with
  | some n => .ok n
  | none => if x.isNaN then .error .undefinedNumber else .error .tooLarge

def floatOf (n : Int) : Except Fault Float :=
  match Numeral.Binary64.ofInt? n with
  | some x => .ok x
  | none => .error .tooLarge

def counter : Value → Except Fault Int
  | .bool b => .ok (if b then 1 else 0)
  | .int n => .ok n
  | .float x => if x.isNaN then .ok 0 else wholeOf x
  | .text s => match Numeral.Integer.read 10 s.toList with
    | .ok n => .ok n
    | .error _ => .ok 0
  | _ => .ok 0

def optionalCounter : Value → Except Fault (Option Int)
  | .null => .ok none
  | v => (counter v).map some

def seconds (v : Value) : Except Fault Float :=
  if v.isPresent then
    match v with
    | .bool _ => .ok 1.0
    | .int n => floatOf n
    | .float x => .ok x
    | .text s => Numeral.Decimal.read s.toList
    | _ => .error .wrongKind
  else .ok 0.0

def fieldsOf : Value → Except Fault (List (String × Value))
  | .record fields => .ok fields
  | _ => .error .notARecord

/-- The items a value can be gone through for. A text gives its characters and a record its names.
-/
def itemsOf : Value → Except Fault (List Value)
  | .list items => .ok items
  | .text s => .ok (s.toList.map fun c => .text (.ofList [c]))
  | .record fields => .ok (fields.map fun f => .text f.1)
  | _ => .error .wrongKind

end StreamWatch.Sample
