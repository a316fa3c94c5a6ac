import StreamWatch.Verdict.Basic

/-! How a check ends early: the browser refused a step, a page could not be opened, viewers stayed
silent until the timeout, a verdict found failures, someone interrupted the run, or data was
wrong. -/
namespace StreamWatch

open Sample (Snapshot)

inductive Halt
  | browser (message : String)
  | navigation (address reason : String)
  | notLive (label : String) (timeoutMs : Int) (last : List Snapshot)
  | rejected (label : String) (verdict : Option Verdict) (failures : List String)
  | interrupted
  | fault (cause : Fault)

namespace Halt

def message : Halt → String
  | browser message => message
  | navigation address reason => s!"Navigation to {address} failed: {reason}"
  | notLive label timeoutMs _ =>
    match Numeral.shown timeoutMs with
    | .ok limit => s!"Timed out waiting for {label} media after {limit}ms"
    | .error f => f.message
  | rejected label _ failures =>
    let reasons := String.intercalate ", " failures
    s!"{label} playback validation failed: {reasons}"
  | interrupted => ""
  | fault cause => cause.message

def isShortfall : Halt → Bool
  | notLive .. | rejected .. => true
  | _ => false

/-- What a check reports and answers with failure; an interruption and wrong data end it at once. -/
def isReported : Halt → Bool
  | interrupted | fault _ => false
  | _ => true

end Halt
end StreamWatch
