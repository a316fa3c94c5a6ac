/-! UTF-8. Decoding never fails: a byte that cannot open or continue a character ends the character
it stands in, which then counts as one replacement character, and is looked at again as an opening
byte. -/
namespace StreamWatch.Text.Utf8

def encodeChar (c : Char) : List UInt8 :=
  let n := c.toNat
  if n < 0x80 then [.ofNat n]
  else if n < 0x800 then [.ofNat (0xC0 + n / 64), .ofNat (0x80 + n % 64)]
  else if n < 0x10000 then
    [.ofNat (0xE0 + n / 4096), .ofNat (0x80 + n / 64 % 64), .ofNat (0x80 + n % 64)]
  else
    [.ofNat (0xF0 + n / 262144), .ofNat (0x80 + n / 4096 % 64), .ofNat (0x80 + n / 64 % 64),
      .ofNat (0x80 + n % 64)]

def encode (s : List Char) : List UInt8 := s.flatMap encodeChar

def replacement : Char := Char.ofNat 0xFFFD

/-- Where a decoder stands: between characters, or `owed + 1` bytes before the end of one whose next
byte lies between `low` and `high` and whose bits so far are `bits`. -/
inductive State
  | start
  | inside (owed low high bits : Nat)

def opening (b : Nat) : List Char × State :=
  if b < 0x80 then ([Char.ofNat b], .start)
  else if 0xC2 ≤ b ∧ b ≤ 0xDF then ([], .inside 0 0x80 0xBF (b - 0xC0))
  else if b = 0xE0 then ([], .inside 1 0xA0 0xBF 0)
  else if b = 0xED then ([], .inside 1 0x80 0x9F 0x0D)
  else if 0xE1 ≤ b ∧ b ≤ 0xEF then ([], .inside 1 0x80 0xBF (b - 0xE0))
  else if b = 0xF0 then ([], .inside 2 0x90 0xBF 0)
  else if 0xF1 ≤ b ∧ b ≤ 0xF3 then ([], .inside 2 0x80 0xBF (b - 0xF0))
  else if b = 0xF4 then ([], .inside 2 0x80 0x8F 4)
  else ([replacement], .start)

def next : State → Nat → List Char × State
  | .start, b => opening b
  | .inside owed low high bits, b =>
    if low ≤ b ∧ b ≤ high then
      match owed with
      | 0 => ([Char.ofNat (bits * 64 + (b - 0x80))], .start)
      | n + 1 => ([], .inside n 0x80 0xBF (bits * 64 + (b - 0x80)))
    else (replacement :: (opening b).1, (opening b).2)

def decodeFrom : State → List UInt8 → List Char
  | .start, [] => []
  | .inside .., [] => [replacement]
  | q, b :: r => (next q b.toNat).1 ++ decodeFrom (next q b.toNat).2 r

def decode (bytes : List UInt8) : List Char := decodeFrom .start bytes

end StreamWatch.Text.Utf8
