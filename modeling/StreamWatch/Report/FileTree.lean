import StreamWatch.Fault
import StreamWatch.Report.Path
import StreamWatch.Text.Utf8

/-! The files that a check has written, and the directories it has made for them. A place is told
from the working directory: so many steps up, or from the root, and then down by names. A file can
be written again, but not in the place of a directory, nor below another file. Places are kept by
their texts, which tell them apart. -/
namespace StreamWatch.Report

structure Place where
  fromRoot : Bool := false
  up : Nat := 0
  names : List String := []
  deriving DecidableEq

namespace Place

def parent (p : Place) : Place := { p with names := p.names.dropLast }

def step (p : Place) (part : String) : Place :=
  if part = ".." then
    if p.names ≠ [] then p.parent
    else if p.fromRoot then p
    else { p with up := p.up + 1 }
  else { p with names := p.names ++ [part] }

def start (p : Path) : Place := { fromRoot := p.root ≠ "" }

def ofPath (p : Path) : Place := p.parts.foldl step (start p)

def text (p : Place) : String :=
  let way := List.replicate p.up ".." ++ p.names
  (if p.fromRoot then "/" else "") ++ String.intercalate "/" way

end Place

inductive Entry
  | directory
  | file
  deriving DecidableEq

structure FileTree where
  directories : List String := []
  files : List (String × String) := []

namespace FileTree

def nameLimit : Nat := 255

def pathLimit : Nat := 4095

/-- The most directories that are made within one another at a time. -/
def depthLimit : Nat := 975

def byteCount (s : String) : Nat := (Text.Utf8.encode s.toList).length

def checkName (name : String) : Except Fault Unit :=
  if byteCount name > nameLimit then .error .nameTooLong else .ok ()

def checkText (p : Path) : Except Fault Unit :=
  if p.parts.any fun part => part.toList.contains (Char.ofNat 0) then .error .nullCharacter
  else if byteCount p.toText > pathLimit then .error .nameTooLong
  else .ok ()

/-- The directories on the way up are there without having been made. -/
def entry? (t : FileTree) (place : Place) : Option Entry :=
  if place.names = [] then some .directory
  else
    let text := place.text
    if t.directories.contains text then some .directory
    else if t.files.any (·.1 == text) then some .file
    else none

/-- Makes directories from `place` on along `parts`, the first of which is missing. Those made
before a fault stay. -/
def makeMissing (t : FileTree) (place : Place) : List String → FileTree × Option Fault
  | [] => (t, none)
  | part :: more =>
    match checkName part with
    | .error f => (t, some f)
    | .ok _ =>
      let next := place.step part
      match t.entry? next with
      | some .file => (t, some .alreadyExists)
      | some .directory => makeMissing t next more
      | none => makeMissing { t with directories := t.directories ++ [next.text] } next more

def makeAll (t : FileTree) (place : Place) : List String → FileTree × Option Fault
  | [] => (t, none)
  | part :: more =>
    match checkName part with
    | .error f => (t, some f)
    | .ok _ =>
      let next := place.step part
      match t.entry? next with
      | some .file => (t, some (if more = [] then .alreadyExists else .notADirectory))
      | some .directory => makeAll t next more
      | none =>
        if more.length < depthLimit then makeMissing t place (part :: more)
        else (t, some .tooDeep)

def makeDirectory (t : FileTree) (p : Path) : FileTree × Option Fault :=
  match checkText p with
  | .error f => (t, some f)
  | .ok _ => t.makeAll (.start p) p.parts

def putFile (place text : String) : List (String × String) → List (String × String)
  | [] => [(place, text)]
  | (q, old) :: r => if q = place then (place, text) :: r else (q, old) :: putFile place text r

def write (t : FileTree) (p : Path) (text : String) : Except Fault FileTree := do
  checkText p
  checkName (p.parts.getLastD "")
  let place := Place.ofPath p
  if t.entry? place = some .directory then throw .isDirectory
  else pure { t with files := putFile place.text text t.files }

def read? (t : FileTree) (p : Path) : Option String :=
  (t.files.find? (·.1 == (Place.ofPath p).text)).map (·.2)

def above (place : String) : String :=
  .ofList ((place.toList.reverse.dropWhile (· ≠ '/')).drop 1).reverse

def isInside (place : String) : Bool :=
  let start := Text.upTo '/' place.toList
  start ≠ [] && start ≠ ['.', '.']

def emptyDirectories (t : FileTree) : List String :=
  let used := (t.directories ++ t.files.map (·.1)).map above
  t.directories.filter fun d => isInside d && !used.contains d

def insideFiles (t : FileTree) : List (String × String) := t.files.filter (isInside ·.1)

end FileTree
end StreamWatch.Report
