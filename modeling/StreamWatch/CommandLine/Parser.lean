import StreamWatch.CommandLine.Token

/-! Reading a command line. Options and their arguments are taken from left to right, the last one
of a kind counting. An argument that is the separator leaves its option without a value. The first
stretch of plain words fills the places; what is left over is refused. -/
namespace StreamWatch.CommandLine

inductive Setting
  | on
  | number (n : Int)
  | text (s : String)
  | nothing

structure Parsed where
  settings : List (Flag × Setting) := []
  words : List String := []

namespace Parsed

def find? (p : Parsed) (f : Flag) : Option Setting :=
  (p.settings.reverse.find? (·.1 == f)).map (·.2)

def isOn (p : Parsed) (name : String) : Bool := (p.find? (.switch name)).isSome

def number? (p : Parsed) (name : String) : Option (Option Int) :=
  (p.find? (.number name)).map fun
    | .number n => some n
    | _ => none

def text? (p : Parsed) (name : String) : Option (Option String) :=
  (p.find? (.text name)).map fun
    | .text s => some s
    | _ => none

end Parsed

def isSeparator : Token → Bool
  | .separator => true
  | _ => false

/-- The tokens one place takes: at most one word and the separators around it. -/
def placeOf (ts : List Token) : List Token × List Token :=
  let front := ts.takeWhile isSeparator
  let rest := ts.dropWhile isSeparator
  let word := rest.take 1
  let rest := rest.drop 1
  (front ++ word ++ rest.takeWhile isSeparator, rest.dropWhile isSeparator)

def wordsOf (ts : List Token) : List String := (ts.map Token.text).erase "--"

def fillPlaces : Nat → List Token → List String × List Token
  | 0, ts => ([], ts)
  | n + 1, ts =>
    let (taken, rest) := placeOf ts
    let (words, left) := fillPlaces n rest
    (wordsOf taken ++ words, left)

def fill (p : Places) (ts : List Token) : List String × List Token :=
  match p with
  | .upTo n => fillPlaces n ts
  | .many => (wordsOf ts, [])

def setting (flag : Flag) (given : String) : Except Refusal Setting :=
  if given = "--" then .ok .nothing else
  match flag.kind with
  | .number => match Numeral.Integer.read 10 given.toList with
    | .ok n => .ok (.number n)
    | .error _ => .error (.misuse (.notANumber flag given))
  | _ => .ok (.text given)

/-- A switch takes no argument. Letters that repeat a short option are passed over. -/
def switched (flag : Flag) (spelling : String) : Option String → Except Refusal Setting
  | none => if flag.kind = .help then .error .usage else .ok .on
  | some argument =>
    let letter := spelling.toList.drop 1
    let rest :=
      if letter.head? = some '-' then argument.toList
      else argument.toList.dropWhile fun c => letter.contains c
    if rest = [] ∧ argument ≠ "" then .error .usage
    else .error (.misuse (.argumentUnused flag (.ofList rest)))

def takesArgument (flag : Flag) : Bool := flag.kind = .number || flag.kind = .text

structure State where
  parsed : Parsed := {}
  filled : Bool := false
  leftOver : List String := []

def State.set (s : State) (flag : Flag) (value : Setting) : State :=
  { s with parsed := { s.parsed with settings := s.parsed.settings ++ [(flag, value)] } }

def State.plain (s : State) (g : Grammar) (ts : List Token) : State :=
  let (words, left) := if s.filled then ([], ts) else fill g.places ts
  { s with
    parsed := { s.parsed with words := s.parsed.words ++ words }
    filled := true
    leftOver := s.leftOver ++ left.map Token.text }

/-- `stretch` holds the plain words just read, last one first. -/
def State.flush (s : State) (g : Grammar) (stretch : List Token) : State :=
  if stretch = [] then s else s.plain g stretch.reverse

def readTokens (g : Grammar) (s : State) (stretch : List Token) :
    List Token → Except Refusal State
  | [] => .ok (s.flush g stretch)
  | .word text :: r => readTokens g s (.word text :: stretch) r
  | .separator :: r => readTokens g s (.separator :: stretch) r
  | .unknown text :: r =>
    let s := s.flush g stretch
    readTokens g { s with leftOver := s.leftOver ++ [text] } [] r
  | .option flag spelling argument :: r =>
    let s := s.flush g stretch
    if takesArgument flag then
      match argument, r with
      | some given, r => do readTokens g (s.set flag (← setting flag given)) [] r
      | none, .word given :: r => do readTokens g (s.set flag (← setting flag given)) [] r
      | none, _ => .error (.misuse (.argumentMissing flag))
    else do readTokens g (s.set flag (← switched flag spelling argument)) [] r

def parse (g : Grammar) (words : List String) : Except Refusal Parsed := do
  let tokens ← (Token.ofWords g words).mapError Refusal.misuse
  let state ← readTokens g {} [] tokens
  if state.leftOver = [] then pure state.parsed
  else throw (.misuse (.unrecognized state.leftOver))

end StreamWatch.CommandLine
