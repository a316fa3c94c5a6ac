import StreamWatch.Browser.Timeline

/-! What the pages of a browser do. A page script answers every call from the number of such calls
before it: the samples its evaluations return and the time they take, how its waits pass, and which
navigations, clicks and screenshots fail. -/
namespace StreamWatch.Browser

open Json (Value)

inductive Engine
  | chromium
  | firefox
  deriving DecidableEq

inductive Coordinate
  | whole (n : Int)
  | binary (x : Float)
  deriving DecidableEq

def defaultWidth : Int := 1280
def defaultHeight : Int := 720

inductive Finder
  | role
  | text
  deriving DecidableEq

structure Button where
  text : String := "share your camera"
  visible : Except String Bool := .ok false
  clickFailure : Option String := none

inductive Wait
  | passes
  | fails (message : String)
  | interrupted

structure PageScript (τ : Type) where
  address : String
  viewport : Value
  /-- What an evaluation returns, or the failure it ends with. -/
  sample : Nat → Except String Value
  /-- The instant at which an evaluation that starts at `t` is done. -/
  sampled : Nat → τ → Except Fault τ
  wait : Nat → Wait
  /-- The instant at which a wait of `ms` milliseconds that starts at `t` is over. -/
  waited : Nat → Int → τ → Except Fault τ
  waitLimit : Nat
  openFailure : Nat → Option String
  reloadFailure : Nat → Option String
  clickFailure : Nat → Option String
  screenshotFailure : Nat → Option String
  button : Finder → Button

def waitLimitReached : String := "wait limit reached"

namespace PageScript

/-- The `n`-th answer of a list, whose last one repeats; null if there is none. -/
def sampleOf (samples : List (Except String Value)) (n : Nat) : Except String Value :=
  samples.getD n (samples.getLastD (.ok .null))

def failureOf (failures : List (Option String)) (n : Nat) : Option String := failures.getD n none

/-- A script in which time passes as asked for. Waits are numbered from one: that of one number is
interrupted, that of another fails, and after `waitLimit` all fail. -/
structure Plan where
  address : String := "about:blank"
  viewport : Value := .null
  samples : List (Except String Value) := []
  latencyMs : Int := 0
  interruptAt : Option Int := none
  failAt : Option Int := none
  waitLimit : Nat := 100
  openFailures : List (Option String) := []
  reloadFailures : List (Option String) := []
  clickFailures : List (Option String) := []
  screenshotFailures : List (Option String) := []
  byRole : Button := {}
  byText : Button := {}

def ofPlan {τ : Type} [Timeline τ] (p : Plan) : PageScript τ where
  address := p.address
  viewport := p.viewport
  sample := sampleOf p.samples
  sampled _ t := Timeline.later t p.latencyMs
  wait n :=
    if p.interruptAt = some (n + 1 : Int) then .interrupted
    else if p.failAt = some (n + 1 : Int) then .fails "wait failed"
    else .passes
  waited _ ms t := Timeline.later t ms
  waitLimit := p.waitLimit
  openFailure := failureOf p.openFailures
  reloadFailure := failureOf p.reloadFailures
  clickFailure := failureOf p.clickFailures
  screenshotFailure := failureOf p.screenshotFailures
  button
    | .role => p.byRole
    | .text => p.byText

end PageScript
end StreamWatch.Browser
