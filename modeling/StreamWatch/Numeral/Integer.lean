import StreamWatch.Fault
import StreamWatch.Text.Classes

/-! Whole numbers as text. A numeral has an optional sign, digits, and single underscores between
digits; to base sixteen it may start with `0x`. It is read in plain characters: outside ASCII, a
decimal digit of any script stands for its ASCII digit and a blank for a space. Decimal numerals
beyond the digit limit are refused, read or written. `read 10` inverts `write`. -/
namespace StreamWatch.Numeral

def plainChar (c : Char) : Char :=
  if c.toNat < 0x7F then c
  else if Text.isBlank c then ' '
  else match Text.digitValue? c with
    | some d => Char.ofNat (0x30 + d)
    | none => '?'

def plain (s : List Char) : List Char := Text.trimOf Text.isAsciiBlank (s.map plainChar)

def signed : List Char → Bool × List Char
  | '-' :: r => (true, r)
  | '+' :: r => (false, r)
  | s => (false, s)

namespace Integer

def digit? (base : Nat) (c : Char) : Option Nat :=
  (Text.hexValue? c).filter (· < base)

structure Run where
  value : Nat
  count : Nat
  rest : List Char

/-- Reads on from `value` and `count`; `owed` says that a digit has to come next. -/
def run? (base value count : Nat) (owed : Bool) : List Char → Option Run
  | [] => if owed then none else some ⟨value, count, []⟩
  | c :: r =>
    if c = '_' then if owed then none else run? base value count true r
    else match digit? base c with
      | some d => run? base (value * base + d) (count + 1) false r
      | none => if owed then none else some ⟨value, count, c :: r⟩

def pastRadix (base : Nat) : List Char → List Char
  | '0' :: x :: r =>
    if base = 16 ∧ (x = 'x' ∨ x = 'X') then
      match r with
      | '_' :: r' => r'
      | _ => r
    else '0' :: x :: r
  | s => s

def read (base : Nat) (s : List Char) : Except Fault Int :=
  let (negative, digits) := signed (plain s)
  match run? base 0 0 true (pastRadix base digits) with
  | none => .error (.notAnInteger base (.ofList s))
  | some ⟨value, count, rest⟩ =>
    if base = 10 ∧ count > Fault.digitLimit then .error (.tooManyDigits count)
    else if rest = [] then .ok (if negative then -(value : Int) else value)
    else .error (.notAnInteger base (.ofList s))

def writeNat (n : Nat) : List Char := Nat.toDigits 10 n

def write : Int → List Char
  | .ofNat n => writeNat n
  | .negSucc n => '-' :: writeNat (n + 1)

def isWritable (n : Int) : Bool := n.natAbs < Nat.pow 10 Fault.digitLimit

theorem isWritable_eq_false_iff {n : Int} :
    isWritable n = false ↔ Nat.pow 10 Fault.digitLimit ≤ n.natAbs := by
  rw [isWritable, decide_eq_false_iff_not, Nat.not_lt]

def padded (width n : Nat) : List Char :=
  List.replicate (width - (writeNat n).length) '0' ++ writeNat n

end Integer

def decimal (n : Int) : String := .ofList (Integer.write n)

def shown (n : Int) : Except Fault String :=
  if Integer.isWritable n then .ok (decimal n) else .error .unwritableNumber

end StreamWatch.Numeral
