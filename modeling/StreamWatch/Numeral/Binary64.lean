/-! Binary64 numbers beside whole numbers. A finite number is ± m · 2^e with natural `m`; its whole
part, its ceiling and its order against a whole number are computed exactly on `m` and `e`. -/
namespace StreamWatch.Numeral.Binary64

def floorOf (m : Nat) : Int → Nat
  | .ofNat e => m * Nat.pow 2 e
  | .negSucc e => m / Nat.pow 2 (e + 1)

def ceilOf (m : Nat) : Int → Nat
  | .ofNat e => m * Nat.pow 2 e
  | .negSucc e => (m + (Nat.pow 2 (e + 1) - 1)) / Nat.pow 2 (e + 1)

inductive Size
  | undefined
  | unbounded (negative : Bool)
  | finite (negative : Bool) (m : Nat) (e : Int)

def size (x : Float) : Size :=
  match x.toModel.unpack with
  | .notANumber => .undefined
  | .infinity s => .unbounded (s == .negative)
  | .zero s => .finite (s == .negative) 0 0
  | .finite s m e _ => .finite (s == .negative) m e

def whole? (x : Float) : Option Int :=
  match size x with
  | .finite negative m e => some (if negative then -(floorOf m e : Int) else floorOf m e)
  | _ => none

def ceil? (x : Float) : Option Int :=
  match size x with
  | .finite negative m e => some (if negative then -(floorOf m e : Int) else ceilOf m e)
  | _ => none

def atLeast (x : Float) (n : Int) : Bool :=
  match size x with
  | .undefined => false
  | .unbounded negative => !negative
  | .finite true m e => decide (n ≤ -(ceilOf m e : Int))
  | .finite false m e => decide (n ≤ floorOf m e)

def ofInt? (n : Int) : Option Float :=
  let x := Float.ofInt n
  if x.isFinite then some x else none

end StreamWatch.Numeral.Binary64
