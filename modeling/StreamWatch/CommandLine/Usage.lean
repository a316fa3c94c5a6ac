import StreamWatch.Fault
import StreamWatch.Numeral.Integer

/-! The options a command takes, and what can be wrong with the words it is given. -/
namespace StreamWatch.CommandLine

inductive Kind
  | switch
  | number
  | text
  | help
  deriving DecidableEq

structure Flag where
  names : List String
  kind : Kind
  deriving DecidableEq

inductive Places
  | upTo (n : Nat)
  | many

structure Grammar where
  flags : List Flag
  places : Places

def helpFlag : Flag := ⟨["-h", "--help"], .help⟩

def Flag.switch (name : String) : Flag := ⟨["--" ++ name], .switch⟩
def Flag.number (name : String) : Flag := ⟨["--" ++ name], .number⟩
def Flag.text (name : String) : Flag := ⟨["--" ++ name], .text⟩

def Flag.title (f : Flag) : String := String.intercalate "/" f.names

inductive Misuse
  | ambiguous (given : String) (candidates : List String)
  | notANumber (flag : Flag) (given : String)
  | argumentMissing (flag : Flag)
  | argumentUnused (flag : Flag) (given : String)
  | unrecognized (words : List String)
  | tooFewViewers

def Misuse.message : Misuse → String
  | ambiguous given candidates =>
    let names := String.intercalate ", " candidates
    s!"ambiguous option: {given} could match {names}"
  | notANumber flag given => s!"argument {flag.title}: invalid int value: {Fault.spelled given}"
  | argumentMissing flag => s!"argument {flag.title}: expected one argument"
  | argumentUnused flag given =>
    s!"argument {flag.title}: ignored explicit argument {Fault.spelled given}"
  | unrecognized words =>
    let all := String.intercalate " " words
    s!"unrecognized arguments: {all}"
  | tooFewViewers => "--viewers must be at least 1"

inductive Refusal
  | misuse (m : Misuse)
  | usage

end StreamWatch.CommandLine
