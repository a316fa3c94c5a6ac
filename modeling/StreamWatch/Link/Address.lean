import StreamWatch.Text.Hex
import StreamWatch.Text.Pieces

/-! IP addresses as they stand in a host. A version 4 address has four decimal numbers up to 255
without leading zeros; a version 6 address has eight groups of up to four hexadecimal digits, of
which one stretch may be left out, the last two may be a version 4 address, and a zone may follow
after a percent sign. -/
namespace StreamWatch.Link.Address

def isOctet (s : List Char) : Bool :=
  s ≠ [] && s.all Char.isDigit && s.length ≤ 3 && (s.length = 1 || s.head? ≠ some '0') &&
    Nat.ofDigitChars 10 s 0 ≤ 255

def isV4 (s : List Char) : Bool :=
  let parts := Text.pieces '.' s
  parts.length = 4 && parts.all isOctet

def isGroup (s : List Char) : Bool :=
  s ≠ [] && s.length ≤ 4 && s.all fun c => (Text.hexValue? c).isSome

def groups? (s : List Char) : Option (List (List Char)) :=
  let parts := Text.pieces ':' s
  let last := parts.getLastD []
  if parts.length < 3 then none
  else if last.contains '.' then
    if isV4 last then some (parts.dropLast ++ [['0'], ['0']]) else none
  else some parts

/-- The groups before and after the stretch that is left out, of which an address has at most one. A
group that is empty at the very start or end belongs to that stretch. -/
def isWithGap (before after : List (List Char)) : Bool :=
  let before := if before = [[]] then [] else before
  let after := if after = [[]] then [] else after
  before.length + after.length < 8 && before.all isGroup && after.all isGroup

def isGroups (parts : List (List Char)) : Bool :=
  let inner := parts.drop 1 |>.dropLast
  parts.length ≤ 9 &&
    match inner.findIdx? (· = []) with
    | some i => isWithGap (parts.take (i + 1)) (parts.drop (i + 2))
    | none => parts.length = 8 && parts.all isGroup

def isZone : Option (List Char) → Bool
  | none => true
  | some z => z ≠ [] && !z.contains '%'

def isV6 (s : List Char) : Bool :=
  !s.contains '/' && isZone (Text.past? '%' s) &&
    match groups? (Text.upTo '%' s) with
    | some parts => isGroups parts
    | none => false

def isFuture : List Char → Bool
  | 'v' :: r =>
    let digits := r.takeWhile fun c => (Text.hexValue? c).isSome
    match r.drop digits.length with
    | '.' :: c :: more => digits ≠ [] && (c :: more).all (· ≠ '\n')
    | _ => false
  | _ => false

end StreamWatch.Link.Address
