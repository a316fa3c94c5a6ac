import StreamWatch.Text.Pieces

/-! Paths in normal form: empty parts and parts that are one point are left out, and a path without
parts is written as a point. -/
namespace StreamWatch.Report

structure Path where
  /-- What stands before the first part: nothing, one slash, or just two slashes. -/
  root : String := ""
  parts : List String := []
  deriving DecidableEq

namespace Path

def rootOf (s : List Char) : String :=
  match (s.takeWhile (· == '/')).length with
  | 0 => ""
  | 2 => "//"
  | _ => "/"

def ofText (s : String) : Path where
  root := rootOf s.toList
  parts := ((Text.pieces '/' s.toList).filter fun p => p ≠ [] && p ≠ ['.']).map .ofList

def toText (p : Path) : String :=
  let text := p.root ++ String.intercalate "/" p.parts
  if text = "" then "." else text

def parent (p : Path) : Path := { p with parts := p.parts.dropLast }

def child (p : Path) (name : String) : Path := { p with parts := p.parts ++ [name] }

end Path
end StreamWatch.Report
