import StreamWatch.CommandLine.Usage
import StreamWatch.Text.Classes
import StreamWatch.Text.Pieces

/-! What each word of a command line is: a plain word, the separator after which all words are
plain, or an option. An option can be cut short as long as its start belongs to one option only,
and can have an argument after an equals sign. -/
namespace StreamWatch.CommandLine

inductive Token
  | word (text : String)
  | separator
  | option (flag : Flag) (spelling : String) (argument : Option String)
  | unknown (text : String)

namespace Token

def text : Token → String
  | word text => text
  | separator => "--"
  | option _ spelling _ => spelling
  | unknown text => text

def spellings (g : Grammar) : List (String × Flag) :=
  g.flags.flatMap fun f => f.names.map fun name => (name, f)

def named? (g : Grammar) (name : String) : Option Flag :=
  ((spellings g).find? (·.1 == name)).map (·.2)

def begunBy (g : Grammar) (s : List Char) : List Token :=
  let start := Text.upTo '=' s
  let argument := (Text.past? '=' s).map String.ofList
  ((spellings g).filter fun (name, _) => start.isPrefixOf name.toList).map fun (name, flag) =>
    option flag name argument

def shortForm (g : Grammar) (s : List Char) : List Token :=
  ((spellings g).filter fun (name, _) => name.toList == s.take 2).map fun (name, flag) =>
    option flag name (some (.ofList (s.drop 2)))

def candidates (g : Grammar) (s : List Char) : List Token :=
  if "--".toList.isPrefixOf s then begunBy g s else shortForm g s

def isDigit (c : Char) : Bool := (Text.digitValue? c).isSome

/-- A minus and digits with at most one point in front of some of them; a line end may follow. -/
def isNegativeNumber (s : List Char) : Bool :=
  match s with
  | '-' :: r =>
    let r := if r.getLast? = some '\n' then r.dropLast else r
    (r ≠ [] && r.all isDigit) ||
      match r.dropWhile isDigit with
      | '.' :: fraction => fraction ≠ [] && fraction.all isDigit
      | _ => false
  | _ => false

def ofWord (g : Grammar) (given : String) : Except Misuse Token :=
  let s := given.toList
  match s with
  | '-' :: _ :: _ =>
    match named? g given, named? g (.ofList (Text.upTo '=' s)), Text.past? '=' s with
    | some flag, _, _ => .ok (option flag given none)
    | none, some flag, some argument =>
      .ok (option flag (.ofList (Text.upTo '=' s)) (some (.ofList argument)))
    | _, _, _ =>
      match candidates g s with
      | [t] => .ok t
      | t :: u :: more => .error (.ambiguous given ((t :: u :: more).map text))
      | [] =>
        if isNegativeNumber s || s.contains ' ' then .ok (word given) else .ok (unknown given)
  | _ => .ok (word given)

def ofWords (g : Grammar) : List String → Except Misuse (List Token)
  | [] => .ok []
  | given :: r =>
    if given = "--" then .ok (separator :: r.map word)
    else do
      let t ← ofWord g given
      let ts ← ofWords g r
      pure (t :: ts)

end Token
end StreamWatch.CommandLine
