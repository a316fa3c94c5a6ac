import StreamWatch.Text.Hex
import StreamWatch.Text.Utf8

/-! Percent encoding. A character outside the kept set is written as its UTF-8 bytes, each a
percent sign and two capital hexadecimal digits. Decoding takes every run of ASCII characters by
itself, so a character beyond ASCII never joins the bytes around it; a percent sign without two
digits stays. -/
namespace StreamWatch.Link

def isUnreserved (c : Char) : Bool :=
  c.isAlphanum || c == '_' || c == '.' || c == '-' || c == '~'

def escapeByte (b : UInt8) : List Char :=
  ['%', Text.upperHexDigit (b.toNat / 16), Text.upperHexDigit (b.toNat % 16)]

def quoteChar (also : Char → Bool) (c : Char) : List Char :=
  if isUnreserved c || also c then [c] else (Text.Utf8.encodeChar c).flatMap escapeByte

def quote (also : Char → Bool) (s : List Char) : List Char := s.flatMap (quoteChar also)

def unescape : List Char → List UInt8
  | [] => []
  | '%' :: a :: b :: r =>
    match Text.hexValue? a, Text.hexValue? b with
    | some x, some y => .ofNat (x * 16 + y) :: unescape r
    | _, _ => 0x25 :: unescape (a :: b :: r)
  | c :: r => .ofNat c.toNat :: unescape r

def isAscii (c : Char) : Bool := c.toNat < 0x80

/-- `run` holds the ASCII characters just read, last one first. -/
def unquoteFrom (run : List Char) : List Char → List Char
  | [] => Text.Utf8.decode (unescape run.reverse)
  | c :: r =>
    if isAscii c then unquoteFrom (c :: run) r
    else Text.Utf8.decode (unescape run.reverse) ++ c :: unquoteFrom [] r

def unquote (s : List Char) : List Char := unquoteFrom [] s

end StreamWatch.Link
