import StreamWatch.Poll.Loop
import StreamWatch.Scenario.Progress
import StreamWatch.Stream.Config

/-! A scenario: one publisher page and its viewer pages. It is started, polled until the viewers
are live, verified by two samples of every viewer, and its viewers can be reloaded for another
round. Its progress outlasts a halt. -/
namespace StreamWatch

open Browser (Check Timeline World)
open Sample (Snapshot)

structure Scenario where
  config : Stream.Config
  settings : Poll.Settings
  publisher : Nat
  viewers : List Nat
  label : String := Poll.defaultLabel
  limits : Poll.Limits := settings.limits

namespace Scenario

abbrev Staged (τ α : Type) := ExceptT Halt (StateT Progress (StateM (World τ))) α

variable {τ α : Type}

def onWorld (act : Check τ α) : Staged τ α := fun progress w =>
  let (outcome, w) := act w
  ((outcome, progress), w)

def carry (progress : Progress) (act : Staged τ α) : Check τ (Except Halt α × Progress) := fun w =>
  let (answer, w) := act progress w
  (.ok answer, w)

/-- The letter of the `i`-th of several viewers. A surrogate is no character by itself and stands
as its escape. -/
def letterOf (i : Int) : Except Fault (List Char) :=
  let n := 65 + i
  if n < -0x80000000 ∨ 0x80000000 ≤ n then .error .tooLarge
  else if n < 0 ∨ 0x110000 ≤ n then .error .noSuchCharacter
  else if n.toNat.isValidChar then .ok [Char.ofNat n.toNat]
  else .ok (Json.unitEscape n.toNat)

def viewerName (s : Scenario) (i : Int) : Except Fault String :=
  match s.viewers with
  | [_] => .ok s.label
  | _ => (letterOf i).map fun letter => s.label ++ String.ofList letter

def enter (s : Scenario) (state : State) : Staged τ Unit := do
  let old := (← getThe Progress).state.name
  let new := state.name
  let label := s.label
  onWorld (Check.log .info .scenario s!"{label}: {old} -> {new}")
  modifyThe Progress (·.enter state)

def start (s : Scenario) (startupWaitMs settleMs : Option Int) : Staged τ Unit := do
  let click ← onWorld
    (Session.startPublisher s.publisher s.config.pushLink startupWaitMs settleMs)
  modifyThe Progress fun p => { p with click := some click }
  onWorld (Check.forEach (Session.openViewer · s.config.viewLink) s.viewers)
  s.enter .navigated
  if click.attempted then s.enter .interacted

def poll [Timeline τ] (s : Scenario) : Staged τ (List Snapshot) := do
  s.enter .polling
  match ← onWorld (Check.attempt (Poll.untilLiveWithin s.limits s.settings s.label s.viewers)) with
  | .ok snapshots =>
    s.enter .live
    pure snapshots
  | .error (.notLive label timeoutMs last) =>
    s.enter .timedOut
    throw (.notLive label timeoutMs last)
  | .error h => throw h

def rejection? (settings : Poll.Settings) (name : String) (entry : Entry) :
    Except Fault (Option Halt) := do
  match ← entry.verdict.complaints settings with
  | [] => pure none
  | complaints => pure (some (.rejected name (some entry.verdict) complaints))

/-- The entries of a round under the viewers' names, `i` being the place of the first, and the halt
on the first of them that has failures. Where a name or failures cannot be told the round is cut
short by the fault. -/
def judgeFrom (s : Scenario) (i : Nat) :
    List (Snapshot × Snapshot) → List (String × Entry) × Except Fault (Option Halt)
  | [] => ([], .ok none)
  | (before, after) :: r =>
    match s.viewerName i with
    | .error f => ([], .error f)
    | .ok name =>
      let entry := Entry.ofSnapshots before after
      match rejection? s.settings name entry with
      | .error f => ([(name, entry)], .error f)
      | .ok halt? =>
        let (entries, later) := s.judgeFrom (i + 1) r
        ((name, entry) :: entries, later.map halt?.or)

def sampleViewers (s : Scenario) : Check τ (List (Snapshot × Snapshot)) := do
  let befores ← Check.each Session.collect s.viewers
  match s.viewers with
  | [] => throw (.fault .outsideList)
  | first :: _ => Check.wait first s.settings.sampleGapMs
  let afters ← Check.each Session.collect s.viewers
  pure (befores.zip afters)

def verify (s : Scenario) (name : String) : Staged τ Round := do
  let (viewers, verdict) := s.judgeFrom 0 (← onWorld s.sampleViewers)
  let round : Round := { name, viewers }
  modifyThe Progress fun p => { p with rounds := p.rounds ++ [round] }
  match ← onWorld (Check.ofFault verdict) with
  | some h => throw h
  | none => pure round

def reloadViewer (page : Nat) : Check τ Unit := do
  match ← Session.reload page Session.navigationTimeoutMs with
  | some reason => throw (.navigation (← Check.page page).address reason)
  | none => Session.nudge page

def reloadViewers (s : Scenario) : Staged τ Unit := do
  onWorld (Check.forEach reloadViewer s.viewers)
  s.enter .reloaded

def publisherSnapshot (s : Scenario) : Check τ Snapshot := Session.collect s.publisher

def summary (s : Scenario) (p : Progress) : Check τ (List (String × Json.Value)) := do
  let stream ← Check.ofFault s.config.fields
  pure (stream ++ p.fields (← Check.timestamp))

end Scenario
end StreamWatch
