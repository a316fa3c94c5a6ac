import StreamWatch.Runner.Common
import StreamWatch.Scenario.Basic

/-! The check of a whole scenario: one publisher and one or more viewers, each in a context of its
own. The viewers have to become live and to pass the verdict, again after a reload if that is asked
for, and the publisher has to have a peer connection. A finding is reported with all that was
recorded; the contexts and the browser are closed in any case. -/
namespace StreamWatch.Runner.Scenario

open Browser (Check Timeline)
open Json (Value)
open Sample (Snapshot)
open StreamWatch.Scenario (Progress Staged)

variable {τ : Type}

structure Options where
  viewers : Int := 1
  reload : Bool := false
  requireAudio : Bool := false
  /-- The timeout, if it was given; it can be without a value. -/
  timeoutMs : Option (Option Int) := none
  startupWaitMs : Option Int := some Session.startupWaitMs
  settleMs : Option Int := some Session.settleMs
  output : Option String := some "test-results/vdo-scenario/report.json"
  screenshots : Bool := false
  headed : Bool := false

structure Findings where
  summary : List (String × Value)
  progress : Progress
  publisherAfter : Snapshot
  host : Value

def inboundAtViewers (p : Progress) : List (String × Value) :=
  match p.rounds.getLast? with
  | none => []
  | some round => [("inboundAtViewers", .record (round.viewers.map fun (name, entry) =>
      (name, .int entry.verdict.inboundBytes)))]

def Findings.toJson (r : Findings) : Value :=
  .record (r.summary ++ [
    ("publisherAfter", r.publisherAfter.toJson),
    ("outboundAtPublisher", .int r.publisherAfter.outboundBytes)] ++
    inboundAtViewers r.progress ++ [("host", r.host)])

def steps [Timeline τ] (o : Options) (s : StreamWatch.Scenario) : Staged τ Snapshot := do
  s.start o.startupWaitMs o.settleMs
  let _ ← s.poll
  let _ ← s.verify "initial"
  if o.reload then
    s.reloadViewers
    let _ ← s.poll
    let _ ← s.verify "after-reload"
  let publisherAfter ← StreamWatch.Scenario.onWorld s.publisherSnapshot
  if publisherAfter.peers.isEmpty then
    throw (.rejected "publisher" none ["publisher has no peer connections"])
  pure publisherAfter

def settle (s : StreamWatch.Scenario) (outcome : Except Halt Snapshot) :
    Check τ (Nat × Snapshot) := do
  match outcome with
  | .ok publisherAfter => pure (0, publisherAfter)
  | .error h =>
    if h.isShortfall then
      Check.log .error .scenario h.message
      Check.say .failure h.message
      pure (1, ← s.publisherSnapshot)
    else throw h

def takePictures (s : StreamWatch.Scenario) (directory : Report.Path) : Check τ Unit := do
  let _ ← Session.takeScreenshot s.publisher (directory.child "publisher.png").toText
  viewerPictures 0 s.viewers
where
  viewerPictures (i : Nat) : List Nat → Check τ Unit
    | [] => pure ()
    | viewer :: r => do
      let name ← Check.ofFault (s.viewerName i)
      let _ ← Session.takeScreenshot viewer (directory.child s!"{name}.png").toText
      viewerPictures (i + 1) r

def perform [Timeline τ] (o : Options) (output : Report.Path) (s : StreamWatch.Scenario) :
    Check τ (Nat × Findings) := do
  let (outcome, progress) ← StreamWatch.Scenario.carry {} (steps o s)
  let (exit, publisherAfter) ← settle s outcome
  let summary ← s.summary progress
  let host ← Report.host
  if o.screenshots then takePictures s output.parent
  pure (exit, { summary, progress, publisherAfter, host })

/-- The contexts and pages that were opened for the viewers, all of them unless opening one
failed. -/
def openViewers (browser : Nat) : Nat → Check τ (List (Nat × Nat) × Except Halt Unit)
  | 0 => pure ([], .ok ())
  | n + 1 => do
    match ← Check.attempt (Session.openPage browser false true) with
    | .error h => pure ([], .error h)
    | .ok opened =>
      let (rest, opening) ← openViewers browser n
      pure (opened :: rest, opening)

def limitsOf (o : Options) (settings : Poll.Settings) : Poll.Limits :=
  { settings.limits with timeoutMs := o.timeoutMs.getD settings.timeoutMs }

def onPages [Timeline τ] (o : Options) (output : Report.Path) (c : Stream.Config)
    (settings : Poll.Settings) (browser : Nat) : Check τ (Nat × Findings) := do
  -- Where the publisher's page is refused there is no context to close yet.
  let (publisherContext, publisher) ← Session.openPage browser true true
  let (viewers, opening) ← openViewers browser o.viewers.toNat
  let scenario : StreamWatch.Scenario := {
    config := c, settings, publisher
    viewers := viewers.map (·.2)
    limits := limitsOf o settings }
  Check.ensuring
    (do
      -- A viewer that could not be opened halts the check here, so the others are still closed.
      Check.ofExcept opening
      perform o output scenario)
    (Check.forEach Check.closeContext (publisherContext :: viewers.map (·.1)))

def settingsOf (env : Environment) (o : Options) : Except Fault Poll.Settings :=
  Poll.Settings.ofEnvironment env
    { timeoutMs := o.timeoutMs.join, requireAudio := if o.requireAudio then some true else none }

def run [Timeline τ] (env : Environment) (o : Options) : Check τ Nat := do
  let c ← Stream.announce env
  let settings ← Check.ofFault (settingsOf env o)
  let push := c.pushLink
  let view := c.viewLink
  Check.say .note s!"Push URL: {push}"
  Check.say .note s!"View URL: {view}"
  let output := Report.Path.ofText (← Check.given o.output)
  let browser ← Session.launchChromium (!o.headed) true
  let (exit, findings) ← Check.ensuring (onPages o output c settings browser)
    (Check.closeBrowser browser)
  Report.write findings.toJson output true
  if exit = 0 then Check.say .success "All viewers are live"
  pure exit

end StreamWatch.Runner.Scenario
