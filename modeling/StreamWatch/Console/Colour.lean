import StreamWatch.Numeral.Integer
import StreamWatch.Text.Pieces

/-! Lines for a terminal. On a terminal a line is put between a colour code and a reset; elsewhere
every code within it is removed, so that no colour reaches a file or a pipe. -/
namespace StreamWatch.Console

def escape : Char := '\x1b'

def isCodeChar (c : Char) : Bool := c.isDigit || c == ';'

def pastCode? : List Char → Option (List Char)
  | e :: '[' :: r =>
    if e = escape then
      match r.dropWhile isCodeChar with
      | 'm' :: rest => some rest
      | _ => none
    else none
  | _ => none

theorem length_pastCode? {s rest : List Char} (h : pastCode? s = some rest) :
    rest.length < s.length := by
  unfold pastCode? at h
  split at h
  · next e r =>
    split at h
    · have hd := (List.dropWhile_suffix isCodeChar (l := r)).length_le
      split at h
      · next q hq =>
        rw [hq, List.length_cons] at hd
        injection h with h
        subst h
        simp only [List.length_cons]
        omega
      · simp at h
    · simp at h
  · simp at h

def stripCodes (s : List Char) : List Char :=
  match _h : pastCode? s with
  | some rest => stripCodes rest
  | none => match s with
    | [] => []
    | c :: r => c :: stripCodes r
termination_by s.length
decreasing_by
  · exact length_pastCode? _h
  · simp

def level (value : Int) : Int := value.tdiv 51

def code (colour : String) : Except Fault (List Char) := do
  let digits := colour.toList.dropWhile (· == '#')
  let part (s : List Char) : Except Fault Int := (Numeral.Integer.read 16 s).map level
  let join (r g b : Int) : List Char :=
    escape :: "[38;5;".toList ++ Numeral.Integer.write (16 + 36 * r + 6 * g + b) ++ ['m']
  match digits with
  | [a, b, c, d, e, f] => pure (join (← part [a, b]) (← part [c, d]) (← part [e, f]))
  | [a, b, c] => pure (join (← part [a, a]) (← part [b, b]) (← part [c, c]))
  | _ => pure digits

def reset : List Char := escape :: "[0m".toList

def line (terminal : Bool) (message : String) (colour : Option String) : Except Fault String :=
  match colour, terminal with
  | some c, true => (code c).map fun start => .ofList (start ++ message.toList ++ reset)
  | _, _ => .ok (.ofList (stripCodes message.toList))

inductive Tone
  | note
  | warning
  | failure
  | success

def Tone.colour : Tone → String
  | note => "6F6"
  | warning => "FF0"
  | failure => "F00"
  | success => "0F0"

def Tone.dressed : Tone → String → String
  | note, message => "=> " ++ message
  | _, message => message

def toneLine (terminal : Bool) (tone : Tone) (message : String) : Except Fault String :=
  line terminal (tone.dressed message) (some tone.colour)

end StreamWatch.Console
