import StreamWatch.Json.Value
import StreamWatch.Numeral.Decimal

/-! Reading a value back from its text. Beside the numbers of JSON the reader knows `NaN`,
`Infinity` and `-Infinity`; a numeral without point and exponent is a whole number. Text after the
value is refused, but for blanks. -/
namespace StreamWatch.Json

def isSpace (c : Char) : Bool := c == ' ' || c == '\n' || c == '\r' || c == '\t'

def skip (s : List Char) : List Char := s.dropWhile isSpace

def afterWord? (word s : List Char) : Option (List Char) :=
  if word.isPrefixOf s then some (s.drop word.length) else none

def escaped? (c : Char) : Option Nat :=
  if c = '\x22' ∨ c = '\\' ∨ c = '/' then some c.toNat
  else if c = 'n' then some 0x0A
  else if c = 'r' then some 0x0D
  else if c = 't' then some 0x09
  else if c = 'b' then some 0x08
  else if c = 'f' then some 0x0C
  else none

def unit? (a b c d : Char) : Option Nat := do
  let a ← Text.hexValue? a
  let b ← Text.hexValue? b
  let c ← Text.hexValue? c
  let d ← Text.hexValue? d
  pure (((a * 16 + b) * 16 + c) * 16 + d)

def codes? : List Char → Option (List Nat × List Char)
  | [] => none
  | '\\' :: 'u' :: a :: b :: c :: d :: r => do
    let n ← unit? a b c d
    let (ns, rest) ← codes? r
    pure (n :: ns, rest)
  | '\\' :: c :: r => do
    let n ← escaped? c
    let (ns, rest) ← codes? r
    pure (n :: ns, rest)
  | c :: r =>
    if c = '\x22' then some ([], r)
    else if c.toNat < 0x20 then none
    else (codes? r).map fun (ns, rest) => (c.toNat :: ns, rest)

def isHigh (n : Nat) : Bool := 0xD800 ≤ n && n < 0xDC00
def isLow (n : Nat) : Bool := 0xDC00 ≤ n && n < 0xE000

def joinUnits? : List Nat → Option (List Char)
  | [] => some []
  | [n] => if isHigh n || isLow n then none else some [Char.ofNat n]
  | n :: m :: r =>
    if isHigh n then
      if isLow m then
        (joinUnits? r).map (Char.ofNat (0x10000 + (n - 0xD800) * 0x400 + (m - 0xDC00)) :: ·)
      else none
    else if isLow n then none
    else (joinUnits? (m :: r)).map (Char.ofNat n :: ·)

def readText? (s : List Char) : Option (String × List Char) := do
  let (ns, rest) ← codes? s
  pure (.ofList (← joinUnits? ns), rest)

def isNumeral (c : Char) : Bool :=
  c.isDigit || c == '-' || c == '+' || c == '.' || c == 'e' || c == 'E'

def readNumeral? (s : List Char) : Option Value :=
  let (negative, digits) := match s with
    | '-' :: r => (true, r)
    | _ => (false, s)
  if digits = [] ∨ ¬ (digits.headD '.').isDigit then none
  else if digits.all Char.isDigit then
    let n : Int := Nat.ofDigitChars 10 digits 0
    some (.int (if negative then -n else n))
  else (Numeral.Decimal.magnitude? digits).map fun x => .float (if negative then -x else x)

def words : List (List Char × Value) := [
  ("null".toList, .null), ("true".toList, .bool true), ("false".toList, .bool false),
  ("NaN".toList, .float Numeral.Decimal.undefined),
  ("Infinity".toList, .float Numeral.Decimal.infinity),
  ("-Infinity".toList, .float (-Numeral.Decimal.infinity))]

def readScalar? (s : List Char) : Option (Value × List Char) :=
  match words.findSome? fun (word, v) => (afterWord? word s).map fun rest => (v, rest) with
  | some answer => some answer
  | none => (readNumeral? (s.takeWhile isNumeral)).map fun v => (v, s.dropWhile isNumeral)

mutual
def readValue? : Nat → List Char → Option (Value × List Char)
  | 0, _ => none
  | fuel + 1, s => match s with
    | '\x22' :: r => (readText? r).map fun (t, rest) => (.text t, rest)
    | '[' :: r => match skip r with
      | ']' :: rest => some (.list [], rest)
      | r => (readItems? fuel r).map fun (vs, rest) => (.list vs, rest)
    | '\x7b' :: r => match skip r with
      | '\x7d' :: rest => some (.record [], rest)
      | r => (readFields? fuel r).map fun (fs, rest) => (.record fs, rest)
    | _ => readScalar? s

def readItems? : Nat → List Char → Option (List Value × List Char)
  | 0, _ => none
  | fuel + 1, s => do
    let (v, r) ← readValue? fuel s
    match skip r with
    | ']' :: rest => pure ([v], rest)
    | ',' :: r =>
      let (vs, rest) ← readItems? fuel (skip r)
      pure (v :: vs, rest)
    | _ => none

def readFields? : Nat → List Char → Option (List (String × Value) × List Char)
  | 0, _ => none
  | fuel + 1, s => match s with
    | '\x22' :: r => do
      let (k, r) ← readText? r
      let r ← afterWord? [':'] (skip r)
      let (v, r) ← readValue? fuel (skip r)
      match skip r with
      | '\x7d' :: rest => pure ([(k, v)], rest)
      | ',' :: r =>
        let (fs, rest) ← readFields? fuel (skip r)
        pure ((k, v) :: fs, rest)
      | _ => none
    | _ => none
end

def Value.parse? (s : String) : Option Value := do
  let text := skip s.toList
  let (v, rest) ← readValue? (text.length + 1) text
  if skip rest = [] then some v else none

end StreamWatch.Json
