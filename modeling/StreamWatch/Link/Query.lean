import StreamWatch.Link.Parts
import StreamWatch.Link.Percent

/-! Query parameters: an ordered list of names and values, the form encoding that writes it, and the
decoding that reads it back. `ensure` adds a parameter to a link that does not have it yet. -/
namespace StreamWatch.Link

abbrev Params := List (String × String)

namespace Params

def encodePiece (s : List Char) : List Char :=
  (quote (fun c => c == '*' || c == ' ') s).map fun c => if c = ' ' then '+' else c

def encodePair (p : String × String) : List Char :=
  encodePiece p.1.toList ++ '=' :: encodePiece p.2.toList

def encode (params : Params) : List Char := ['&'].intercalate (params.map encodePair)

def decodePiece (s : List Char) : List Char := unquote (s.map fun c => if c = '+' then ' ' else c)

def decodePair (s : List Char) : String × String :=
  (.ofList (decodePiece (Text.upTo '=' s)),
    .ofList (decodePiece ((Text.past? '=' s).getD [])))

def decode (query : List Char) : Params :=
  ((Text.pieces '&' query).filter (· ≠ [])).map decodePair

def set (key value : String) : Params → Params
  | [] => [(key, value)]
  | (k, v) :: r => if k = key then (key, value) :: r else (k, v) :: set key value r

def has (key : String) (params : Params) : Bool := params.any (·.1 == key)

end Params

def ensure (link : List Char) (key value : String) : Except Fault (List Char) := do
  let parts ← Parts.ofText link
  let params := Params.decode parts.query
  if params.has key then pure link
  else
    pure (Parts.toText { parts with
      path := if parts.path = [] then ['/'] else parts.path
      query := (params ++ [(key, value)]).encode })

def ensureText (link key value : String) : Except Fault String :=
  (ensure link.toList key value).map .ofList

end StreamWatch.Link
