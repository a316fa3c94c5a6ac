import StreamWatch.Json.Printer

/-! A value as it is shown within a message. A text stands for itself at the top and is quoted
inside lists and records. A value that holds a number beyond the digit limit cannot be shown. -/
namespace StreamWatch.Json.Value

def scalar : Value → List Char
  | null => "None".toList
  | bool true => "True".toList
  | bool false => "False".toList
  | int n => Numeral.Integer.write n
  | float x => Numeral.Decimal.write x
  | text s => Text.quoted s.toList
  | list _ => "[]".toList
  | record _ => "\x7b\x7d".toList

mutual
def spelled : Value → List Char
  | list (v :: r) => '[' :: spelled v ++ spelledItems r
  | record ((k, v) :: r) =>
    '\x7b' :: Text.quoted k.toList ++ ':' :: ' ' :: spelled v ++ spelledFields r
  | v => scalar v

def spelledItems : List Value → List Char
  | [] => [']']
  | v :: r => ',' :: ' ' :: spelled v ++ spelledItems r

def spelledFields : List (String × Value) → List Char
  | [] => ['\x7d']
  | (k, v) :: r => ',' :: ' ' :: Text.quoted k.toList ++ ':' :: ' ' :: spelled v ++ spelledFields r
end

def told : Value → String
  | text s => s
  | v => .ofList (spelled v)

def display (v : Value) : Except Fault String :=
  if v.isWritable then .ok v.told else .error .unwritableNumber

end StreamWatch.Json.Value
