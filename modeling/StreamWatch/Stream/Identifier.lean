import StreamWatch.Digest.Sha256
import StreamWatch.Link.Parts
import StreamWatch.Link.Percent
import StreamWatch.Numeral.Integer

/-! Names of streams. On the handshake server a stream goes by its identifier in plain characters,
followed by six digits of a digest of password and salt where a password is in use. The salt is the
last two labels of the site's host. -/
namespace StreamWatch.Stream

def isWordChar (c : Char) : Bool := c.isAlphanum || c == '_'

def isFileChar (c : Char) : Bool := isWordChar c || c == '-'

/-- Writes each run of characters outside `plain` as one underscore. `inRun` says whether the last
character belonged to such a run. -/
def collapseFrom (plain : Char → Bool) (inRun : Bool) : List Char → List Char
  | [] => []
  | c :: r =>
    if plain c then c :: collapseFrom plain false r
    else if inRun then collapseFrom plain true r
    else '_' :: collapseFrom plain true r

def collapse (plain : Char → Bool) (s : List Char) : List Char := collapseFrom plain false s

def sanitize (value : String) (maxLength : Int) : String :=
  .ofList (Text.keep maxLength (collapse isWordChar (Text.trim value.toList)))

def fileName (value : String) (index : Int) : String :=
  let number := Numeral.Integer.write index
  let cleaned := (collapse isFileChar value.toList).take 80
  let padding := List.replicate (2 - number.length) '0'
  let number := match number with
    | '-' :: r => '-' :: padding ++ r
    | r => padding ++ r
  .ofList (number ++ '_' :: (if cleaned = [] then "url".toList else cleaned))

def refusedPasswords : List String := ["false", "0", "off", "no"]

def isPasswordRefusal (password : Option String) : Bool :=
  match password with
  | none => false
  | some p => p ≠ "" && refusedPasswords.contains (.ofList (Text.lower (Text.trim p.toList)))

def defaultSalt : String := "vdo.ninja"

def secret? (password : Option String) : Option String :=
  let secret := String.ofList (Text.trim (password.getD "").toList)
  if secret = "" ∨ isPasswordRefusal (some secret) then none else some secret

def hashed (stream : String) (password : Option String) (salt : String) : String :=
  let plain := sanitize stream 64
  match secret? password with
  | none => plain
  | some secret =>
    plain ++ .ofList
      ((Digest.Sha256.hexDigest (Text.Utf8.encode (secret ++ salt).toList)).take 6)

def domain (host : List Char) : List Char :=
  let labels := Text.pieces '.' host
  ['.'].intercalate (labels.drop (labels.length - 2))

def saltOf (site : String) : Except Fault String := do
  let parts ← Link.Parts.ofText site.toList
  pure (match parts.host? with
    | some host => .ofList (domain host)
    | none => defaultSalt)

def isLinkMark (c : Char) : Bool := ['!', '~', '*', '\x27', '(', ')'].contains c

def linkForm (stream : String) : List Char := Link.quote isLinkMark stream.toList

end StreamWatch.Stream
