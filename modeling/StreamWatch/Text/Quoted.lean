import StreamWatch.Text.Hex
import StreamWatch.Text.Printable

/-! The quoted spelling of a text, as error messages and nested values show it. The mark is a single
quote, or a double one where the text has a single quote and no double one. What cannot be printed
is written as an escape of two, four or eight hexadecimal digits. -/
namespace StreamWatch.Text

def singleQuote : Char := '\x27'
def doubleQuote : Char := '\x22'

def quoteMark (s : List Char) : Char :=
  if s.contains singleQuote && !s.contains doubleQuote then doubleQuote else singleQuote

def codeEscape (n : Nat) : List Char :=
  if n < 0x100 then '\\' :: 'x' :: hexDigits 2 n
  else if n < 0x10000 then '\\' :: 'u' :: hexDigits 4 n
  else '\\' :: 'U' :: hexDigits 8 n

def quotedChar (mark c : Char) : List Char :=
  if c = mark ∨ c = '\\' then ['\\', c]
  else if c = '\n' then ['\\', 'n']
  else if c = '\r' then ['\\', 'r']
  else if c = '\t' then ['\\', 't']
  else if isPrintable c then [c]
  else codeEscape c.toNat

def quoted (s : List Char) : List Char :=
  let mark := quoteMark s
  mark :: s.flatMap (quotedChar mark) ++ [mark]

end StreamWatch.Text
