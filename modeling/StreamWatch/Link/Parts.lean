import StreamWatch.Fault
import StreamWatch.Link.Address
import StreamWatch.Text.Classes
import StreamWatch.Text.Lowercase

/-! The parts of a link: scheme, authority, path, query and fragment. A link is cleaned first, of
control characters and blanks in front and of tabs and line ends anywhere. `ofText` splits and
`toText` joins again; only the authority can be refused, for its brackets or for characters that
turn into separators under compatibility normalization. -/
namespace StreamWatch.Link

structure Parts where
  scheme : List Char
  authority : List Char
  path : List Char
  query : List Char
  fragment : List Char
  deriving DecidableEq

namespace Parts

def clean (s : List Char) : List Char :=
  (s.dropWhile fun c => c.toNat ≤ 0x20).filter fun c => c ≠ '\t' && c ≠ '\r' && c ≠ '\n'

def isSchemeChar (c : Char) : Bool := c.isAlphanum || c == '+' || c == '-' || c == '.'

def splitScheme (s : List Char) : List Char × List Char :=
  match Text.upTo ':' s, Text.past? ':' s with
  | c :: name, some rest =>
    if c.isAlpha && (c :: name).all isSchemeChar then ((c :: name).map Char.toLower, rest)
    else ([], s)
  | _, _ => ([], s)

def endsAuthority (c : Char) : Bool := c == '/' || c == '?' || c == '#'

def splitAuthority : List Char → List Char × List Char
  | '/' :: '/' :: r => (r.takeWhile (!endsAuthority ·), r.dropWhile (!endsAuthority ·))
  | s => ([], s)

def hostAndRest (authority : List Char) : List Char × List Char :=
  let site := Text.afterLast '@' authority
  match Text.past? '[' site with
  | some inside => (Text.upTo ']' inside, (Text.past? ']' inside).getD [])
  | none => (Text.upTo ':' site, (Text.past? ':' site).getD [])

def checkHost (host : List Char) : Except Fault Unit :=
  if host.head? = some 'v' then
    if Address.isFuture host then .ok () else .error .malformedFutureAddress
  else if Address.isV4 host then .error .bracketedV4Address
  else if Address.isV6 host then .ok ()
  else .error (.notAnAddress (.ofList host))

def checkBrackets (authority : List Char) : Except Fault Unit :=
  match authority.contains '[', authority.contains ']' with
  | false, false => .ok ()
  | true, true =>
    let site := Text.afterLast '@' authority
    let (host, rest) := hostAndRest authority
    if site.contains '[' && (site.head? ≠ some '[' || (rest ≠ [] && rest.head? ≠ some ':')) then
      .error .malformedHost
    else checkHost host
  | _, _ => .error .malformedHost

/-- The characters whose compatibility form holds one of `/?#@:`. -/
def deceptive : List Nat := [
  0x2047, 0x2048, 0x2049, 0x2100, 0x2101, 0x2105, 0x2106, 0x2A74, 0xFE13, 0xFE16, 0xFE55, 0xFE56,
  0xFE5F, 0xFE6B, 0xFF03, 0xFF0F, 0xFF1A, 0xFF1F, 0xFF20]

def checkNormalForm (authority : List Char) : Except Fault Unit :=
  if authority.any fun c => deceptive.contains c.toNat then
    .error (.deceptiveHost (.ofList authority))
  else .ok ()

def ofText (s : List Char) : Except Fault Parts := do
  let (scheme, rest) := splitScheme (clean s)
  let (authority, rest) := splitAuthority rest
  checkBrackets authority
  let fragment := (Text.past? '#' rest).getD []
  let rest := Text.upTo '#' rest
  checkNormalForm authority
  pure {
    scheme, authority, fragment
    path := Text.upTo '?' rest
    query := (Text.past? '?' rest).getD [] }

def authoritySchemes : List String := [
  "ftp", "http", "gopher", "nntp", "telnet", "imap", "wais", "file", "mms", "https", "shttp",
  "snews", "prospero", "rtsp", "rtspu", "rsync", "svn", "svn+ssh", "sftp", "nfs", "git", "git+ssh",
  "ws", "wss"]

def writesAuthority (p : Parts) : Bool :=
  p.authority ≠ [] ||
    (authoritySchemes.contains (.ofList p.scheme) && !"//".toList.isPrefixOf p.path)

def toText (p : Parts) : List Char :=
  let path :=
    if p.writesAuthority then
      '/' :: '/' :: p.authority ++
        (if p.path ≠ [] && p.path.head? ≠ some '/' then '/' :: p.path else p.path)
    else p.path
  (if p.scheme = [] then [] else p.scheme ++ [':']) ++ path ++
    (if p.query = [] then [] else '?' :: p.query) ++
    (if p.fragment = [] then [] else '#' :: p.fragment)

/-- The host in small letters, but for a zone after a percent sign; none if it is empty. -/
def host? (p : Parts) : Option (List Char) :=
  match (hostAndRest p.authority).1 with
  | [] => none
  | host => some (Text.lower (Text.upTo '%' host) ++ host.dropWhile (· != '%'))

end Parts
end StreamWatch.Link
