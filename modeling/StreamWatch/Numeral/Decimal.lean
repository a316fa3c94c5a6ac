import StreamWatch.Fault
import StreamWatch.Numeral.Binary64
import StreamWatch.Numeral.Integer

/-! Binary64 numbers as decimal text. Reading takes the nearest number. Writing takes the fewest
digits that read back, the nearest such digits if there are several, and a tie goes to the even
digit; the point is placed within the digits for decimal exponents from -4 to 15, and an exponent is
written otherwise. -/
namespace StreamWatch.Numeral.Decimal

/-- Drops the underscores of a numeral; each has to stand between two digits. `after` says whether a
digit was just read. -/
def bare? (after : Bool) : List Char → Option (List Char)
  | [] => some []
  | '_' :: c :: r => if after ∧ c.isDigit then (bare? true r).map (c :: ·) else none
  | c :: r => if c = '_' then none else (bare? c.isDigit r).map (c :: ·)

def value (digits : List Char) : Nat := digits.foldl (fun n c => n * 10 + (c.toNat - 0x30)) 0

def exponent? : List Char → Option Int
  | [] => some 0
  | c :: r =>
    let (negative, digits) := signed r
    if (c = 'e' ∨ c = 'E') ∧ digits ≠ [] ∧ digits.all Char.isDigit then
      some (if negative then -(value digits : Int) else value digits)
    else none

def scaled (m : Nat) (e : Int) : Float := Float.ofScientific m (e < 0) e.natAbs

def magnitude? (s : List Char) : Option Float :=
  let whole := s.takeWhile Char.isDigit
  let rest := s.dropWhile Char.isDigit
  let tail := match rest with
    | '.' :: r => r
    | _ => []
  let fraction := tail.takeWhile Char.isDigit
  let last := match rest with
    | '.' :: r => r.dropWhile Char.isDigit
    | r => r
  if whole ++ fraction = [] then none
  else (exponent? last).map fun e => scaled (value (whole ++ fraction)) (e - fraction.length)

def infinity : Float := Float.ofBits 0x7FF0000000000000
def undefined : Float := Float.ofBits 0x7FF8000000000000

def named? (s : List Char) : Option Float :=
  match String.ofList (s.map Char.toLower) with
  | "inf" | "infinity" => some infinity
  | "nan" => some undefined
  | _ => none

def read? (s : List Char) : Option Float := do
  let (negative, r) := signed (← bare? false (plain s))
  let x ← (named? r).orElse fun _ => magnitude? r
  pure (if negative then -x else x)

def read (s : List Char) : Except Fault Float :=
  match read? s with
  | some x => .ok x
  | none => .error (.notADecimal (.ofList s))

/-- The numbers that round to m · 2^e, as `low / unit` to `high / unit` around `mid / unit`. Below a
power of two the neighbours are only half as far. -/
structure Bracket where
  low : Nat
  mid : Nat
  high : Nat
  unit : Nat
  closed : Bool

def bracket (m : Nat) (e : Int) : Bracket :=
  let below := if m = Nat.pow 2 52 ∧ -1074 < e then 1 else 2
  match e - 2 with
  | .ofNat k =>
    let scale := Nat.pow 2 k
    ⟨(4 * m - below) * scale, 4 * m * scale, (4 * m + 2) * scale, 1, m % 2 = 0⟩
  | .negSucc k => ⟨4 * m - below, 4 * m, 4 * m + 2, Nat.pow 2 (k + 1), m % 2 = 0⟩

def Bracket.has (b : Bracket) (d : Nat) (k : Int) : Bool :=
  let x := d * Nat.pow 10 k.toNat * b.unit
  let scale := Nat.pow 10 (-k).toNat
  let low := b.low * scale
  let high := b.high * scale
  if b.closed then low ≤ x && x ≤ high else low < x && x < high

def Bracket.onGrid? (b : Bracket) (k : Int) : Option Nat :=
  let num := b.mid * Nat.pow 10 (-k).toNat
  let den := b.unit * Nat.pow 10 k.toNat
  let d := num / den
  let upper := 2 * num > (2 * d + 1) * den ∨ (2 * num = (2 * d + 1) * den ∧ d % 2 = 1)
  match b.has d k, b.has (d + 1) k with
  | true, true => some (if upper then d + 1 else d)
  | true, false => some d
  | false, true => some (d + 1)
  | false, false => none

def Bracket.search (b : Bracket) : Nat → Int → Nat × Int
  | 0, k => (b.mid * Nat.pow 10 (-k).toNat / (b.unit * Nat.pow 10 k.toNat), k)
  | grids + 1, k => match b.onGrid? k with
    | some d => (d, k)
    | none => b.search grids (k - 1)

/-- The number of digits before the point of `num / den`, if it is at least one; else the negated
number of zeros after the point. -/
def magnitude (num den : Nat) : Int :=
  if den ≤ num then (Integer.writeNat (num / den)).length
  else 1 - ((Integer.writeNat ((den - 1) / num)).length : Int)

/-- Digits `d` and exponent `k` of the shortest decimal `d · 10^k` that reads back. -/
def shortest (m : Nat) (e : Int) : Nat × Int :=
  let b := bracket m e
  b.search 20 (magnitude b.mid b.unit)

def trimZeros (digits : List Char) : List Char :=
  match Text.dropEndWhile (· == '0') digits with
  | [] => ['0']
  | r => r

def writeExponent (e : Int) : List Char :=
  'e' :: (if e < 0 then '-' else '+') :: Integer.padded 2 e.natAbs

def layOut (d : Nat) (k : Int) : List Char :=
  let all := Integer.writeNat d
  let digits := trimZeros all
  let point : Int := all.length + k
  if -4 < point ∧ point ≤ 16 then
    if point ≤ 0 then ['0', '.'] ++ List.replicate point.natAbs '0' ++ digits
    else if digits.length ≤ point.toNat then
      digits ++ List.replicate (point.toNat - digits.length) '0' ++ ['.', '0']
    else digits.take point.toNat ++ '.' :: digits.drop point.toNat
  else match digits with
    | [c] => c :: writeExponent (point - 1)
    | c :: r => c :: '.' :: r ++ writeExponent (point - 1)
    | [] => []

def writeMagnitude (m : Nat) (e : Int) : List Char :=
  if m = 0 then ['0', '.', '0'] else
    let (d, k) := shortest m e
    layOut d k

def write (x : Float) : List Char :=
  match Binary64.size x with
  | .undefined => "nan".toList
  | .unbounded negative => (if negative then "-inf" else "inf").toList
  | .finite negative m e => (if negative then ['-'] else []) ++ writeMagnitude m e

end StreamWatch.Numeral.Decimal
