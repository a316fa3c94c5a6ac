import StreamWatch.Text.Quoted

/-! What can be wrong with data: numerals that cannot be read or written, hosts that cannot be
parsed, values of the wrong kind, places in the file tree that cannot be written. Each cause has one
wording. -/
namespace StreamWatch

inductive Fault
  | notAnInteger (base : Nat) (text : String)
  | tooManyDigits (count : Nat)
  | unwritableNumber
  | notADecimal (text : String)
  | undefinedNumber
  | noSuchCharacter
  | malformedHost
  | malformedFutureAddress
  | bracketedV4Address
  | notAnAddress (host : String)
  | deceptiveHost (authority : String)
  | tooLarge
  | wrongKind
  | notARecord
  | missingEntry
  | outsideList
  | isDirectory
  | notADirectory
  | alreadyExists
  | nameTooLong
  | nullCharacter
  | tooDeep
  deriving DecidableEq, Repr

namespace Fault

/-- The longest numeral that is converted between text and a whole number. -/
def digitLimit : Nat := 4300

def spelled (s : String) : String := .ofList (Text.quoted s.toList)

def excerpt (s : String) : String := .ofList ((Text.quoted s.toList).take 200)

def message : Fault → String
  | notAnInteger base text => s!"invalid literal for int() with base {base}: {excerpt text}"
  | tooManyDigits count =>
    s!"Exceeds the limit ({digitLimit} digits) for integer string conversion: " ++
      s!"value has {count} digits; use sys.set_int_max_str_digits() to increase the limit"
  | unwritableNumber =>
    s!"Exceeds the limit ({digitLimit} digits) for integer string conversion; " ++
      "use sys.set_int_max_str_digits() to increase the limit"
  | notADecimal text => s!"could not convert string to float: {spelled text}"
  | undefinedNumber => "cannot convert float NaN to integer"
  | noSuchCharacter => "chr() arg not in range(0x110000)"
  | malformedHost => "Invalid IPv6 URL"
  | malformedFutureAddress => "IPvFuture address is invalid"
  | bracketedV4Address => "An IPv4 address cannot be in brackets"
  | notAnAddress host => s!"{spelled host} does not appear to be an IPv4 or IPv6 address"
  | deceptiveHost authority =>
    s!"netloc '{authority}' contains invalid characters under NFKC normalization"
  | tooLarge => "number out of range"
  | wrongKind => "value of the wrong kind"
  | notARecord => "value is not a record"
  | missingEntry => "entry missing"
  | outsideList => "position outside the list"
  | isDirectory => "the path names a directory"
  | notADirectory => "a part of the path is not a directory"
  | alreadyExists => "the path names a file"
  | nameTooLong => "the name of a file is too long"
  | nullCharacter => "embedded null byte"
  | tooDeep => "too many directories within one another"

def required {α : Type} : Option α → Except Fault α
  | some a => .ok a
  | none => .error .wrongKind

end Fault
end StreamWatch
