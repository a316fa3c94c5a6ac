import StreamWatch.Json.Value
import StreamWatch.Numeral.Decimal

/-! Values as indented text. The text is printable ASCII: any other character is written as its
UTF-16 units, four hexadecimal digits each. Every item of a list and every field of a record has a
line of its own, two spaces further in; an empty list or record stays on its line. -/
namespace StreamWatch.Json

def unitEscape (n : Nat) : List Char := '\\' :: 'u' :: Text.hexDigits 4 n

def escapeChar (c : Char) : List Char :=
  if c = '\x22' then ['\\', '\x22']
  else if c = '\\' then ['\\', '\\']
  else if c = '\n' then ['\\', 'n']
  else if c = '\r' then ['\\', 'r']
  else if c = '\t' then ['\\', 't']
  else if c = '\x08' then ['\\', 'b']
  else if c = '\x0c' then ['\\', 'f']
  else if 0x20 ≤ c.toNat ∧ c.toNat < 0x7F then [c]
  else if c.toNat < 0x10000 then unitEscape c.toNat
  else
    let n := c.toNat - 0x10000
    unitEscape (0xD800 + n / 0x400) ++ unitEscape (0xDC00 + n % 0x400)

def printText (s : List Char) : List Char := '\x22' :: s.flatMap escapeChar ++ ['\x22']

def printFloat (x : Float) : List Char :=
  match Numeral.Binary64.size x with
  | .undefined => "NaN".toList
  | .unbounded negative => (if negative then "-Infinity" else "Infinity").toList
  | .finite .. => Numeral.Decimal.write x

def newLine (depth : Nat) : List Char := '\n' :: List.replicate (2 * depth) ' '

namespace Value

def printScalar : Value → List Char
  | null => "null".toList
  | bool true => "true".toList
  | bool false => "false".toList
  | int n => Numeral.Integer.write n
  | float x => printFloat x
  | text s => printText s.toList
  | list _ => "[]".toList
  | record _ => "\x7b\x7d".toList

mutual
def print (depth : Nat) : Value → List Char
  | list (v :: r) => '[' :: newLine (depth + 1) ++ print (depth + 1) v ++ printItems (depth + 1) r
  | record ((k, v) :: r) =>
    '\x7b' :: newLine (depth + 1) ++ printText k.toList ++ ':' :: ' ' :: print (depth + 1) v ++
      printFields (depth + 1) r
  | v => printScalar v

def printItems (depth : Nat) : List Value → List Char
  | [] => newLine (depth - 1) ++ [']']
  | v :: r => ',' :: newLine depth ++ print depth v ++ printItems depth r

def printFields (depth : Nat) : List (String × Value) → List Char
  | [] => newLine (depth - 1) ++ ['\x7d']
  | (k, v) :: r =>
    ',' :: newLine depth ++ printText k.toList ++ ':' :: ' ' :: print depth v ++ printFields depth r
end

def render (v : Value) : String := .ofList (v.print 0)

mutual
def isWritable : Value → Bool
  | int n => Numeral.Integer.isWritable n
  | list items => areWritable items
  | record fields => fieldsAreWritable fields
  | _ => true

def areWritable : List Value → Bool
  | [] => true
  | v :: r => isWritable v && areWritable r

def fieldsAreWritable : List (String × Value) → Bool
  | [] => true
  | (_, v) :: r => isWritable v && fieldsAreWritable r
end

theorem areWritable_iff {items : List Value} :
    areWritable items = true ↔ ∀ v ∈ items, isWritable v = true := by
  induction items with
  | nil => simp [areWritable]
  | cons v rest ih => simp [areWritable, ih]

theorem fieldsAreWritable_iff {fields : List (String × Value)} :
    fieldsAreWritable fields = true ↔ ∀ f ∈ fields, isWritable f.2 = true := by
  induction fields with
  | nil => simp [fieldsAreWritable]
  | cons f rest ih => simp [fieldsAreWritable, ih]

def shown (v : Value) : Except Fault String :=
  if v.isWritable then .ok v.render else .error .unwritableNumber

end Value
end StreamWatch.Json
