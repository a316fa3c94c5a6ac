import StreamWatch.Session.Page
import StreamWatch.Verdict.Basic

/-! How far a scenario has come: its state, the states it went through, the click on the publisher's
camera button and the rounds in which its viewers were verified. -/
namespace StreamWatch.Scenario

open Json (Value)
open Sample (Snapshot)

inductive State
  | idle
  | navigated
  | interacted
  | polling
  | live
  | timedOut
  | reloaded
  deriving DecidableEq

def State.name : State → String
  | idle => "idle"
  | navigated => "navigated"
  | interacted => "ui-interacted"
  | polling => "polling-for-liveness"
  | live => "live"
  | timedOut => "timed-out"
  | reloaded => "reloaded"

def State.all : List State :=
  [.idle, .navigated, .interacted, .polling, .live, .timedOut, .reloaded]

structure Entry where
  before : Snapshot
  after : Snapshot
  verdict : Verdict

def Entry.ofSnapshots (before after : Snapshot) : Entry :=
  ⟨before, after, .ofSnapshots before after⟩

def Entry.toJson (e : Entry) : Value :=
  .record [
    ("before", e.before.toJson), ("after", e.after.toJson), ("verdict", e.verdict.toJson)]

structure Round where
  name : String
  viewers : List (String × Entry)

def Round.toJson (r : Round) : Value :=
  .record [
    ("name", .text r.name),
    ("viewers", .record (r.viewers.map fun (name, entry) => (name, entry.toJson)))]

structure Progress where
  state : State := .idle
  transitions : List State := [.idle]
  click : Option Session.Click := none
  rounds : List Round := []

namespace Progress

def enter (p : Progress) (state : State) : Progress :=
  { p with state, transitions := p.transitions ++ [state] }

def fields (p : Progress) (generatedAt : String) : List (String × Value) := [
  ("state", .text p.state.name),
  ("transitions", .list (p.transitions.map fun s => .text s.name)),
  ("shareCameraClick", .ofOption Session.Click.toJson p.click),
  ("rounds", .list (p.rounds.map Round.toJson)),
  ("generatedAt", .text generatedAt)]

end Progress
end StreamWatch.Scenario
