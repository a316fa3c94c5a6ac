import StreamWatch.Link.Query
import StreamWatch.Runner.Common
import StreamWatch.Session.Page
import StreamWatch.Session.Probe

/-! A publishing session: publish a made-up camera, look at it once from a second page, report, and
keep publishing for a while. -/
namespace StreamWatch.Runner.Publish

open Browser (Check)
open Json (Value)
open Sample (Snapshot)

variable {τ : Type}

def defaultPushLink : String := "https://vdo.ninja/?push=Alsosuitbc&password=somepassword"
def defaultViewLink : String := "https://vdo.ninja/?view=Alsosuitbc&password=somepassword"

def defaultDurationMs : Int := 15 * 60 * 1000

structure Options where
  pushLink : String := defaultPushLink
  viewLink : String := defaultViewLink
  durationMs : Option Int := some defaultDurationMs
  startupWaitMs : Option Int := some 20000
  viewWaitMs : Option Int := some 25000
  sampleGapMs : Option Int := some 7000
  output : Option String := some "playwright-vdo-publish-session.json"
  headed : Bool := false

def prepareLinks (push view : String) : Except Fault (String × String) := do
  let push ← Link.ensureText push "autostart" "1"
  let push ← Link.ensureText push "webcam" "1"
  let view ← Link.ensureText view "cleanoutput" "1"
  pure (push, view)

def publisherSettleMs : Int := 5000
def publisherProbeWaitMs : Int := 4000

structure Findings where
  startedAt : String
  pushLink : String
  viewLink : String
  click : Session.Click
  publisher : Snapshot
  first : Snapshot
  second : Snapshot
  keepAliveMs : Option Int
  host : Value

namespace Findings

def verdict (r : Findings) : Verdict := .ofSnapshots r.first r.second

def lengthField : Option Int → Value
  | some ms => .int ms
  | none => .list []

def toJson (r : Findings) : Value :=
  .record [
    ("startedAt", .text r.startedAt), ("pushUrl", .text r.pushLink),
    ("viewUrl", .text r.viewLink), ("shareCameraClick", r.click.toJson),
    ("publisherSnapshot", r.publisher.toJson),
    ("publisherOutboundBytes", .int r.publisher.outboundBytes),
    ("viewerSample1", r.first.toJson), ("viewerSample2", r.second.toJson),
    ("playbackAdvanced", .bool r.verdict.playbackAdvanced),
    ("hasInboundBytes", .bool r.second.hasInboundBytes), ("hasTracks", .bool r.second.hasTracks),
    ("likelyConnected", .bool r.verdict.mediaActive),
    ("keepAliveMs", lengthField r.keepAliveMs), ("host", r.host)]

end Findings

def session (o : Options) (pushLink viewLink : String) (browser : Nat) : Check τ Unit := do
  let context ← Check.newContext browser true
  Check.collectInContext context
  let publisherPage ← Check.newPage context
  let click ← Session.startPublisher publisherPage pushLink o.startupWaitMs publisherSettleMs
  Check.wait publisherPage publisherProbeWaitMs
  let publisher ← Session.collect publisherPage
  let viewerPage ← Check.newPage context
  Session.openLink viewerPage viewLink
  Check.wait viewerPage o.viewWaitMs
  let (first, second) ← Session.collectPair viewerPage o.sampleGapMs
  let findings : Findings := {
    startedAt := ← Check.timestamp
    pushLink, viewLink, click, publisher, first, second
    keepAliveMs := o.durationMs
    host := ← Report.host }
  Report.write findings.toJson (.ofText (← Check.given o.output)) true
  Check.closePage viewerPage
  if findings.verdict.mediaActive then
    Check.say .success "Viewer received media; keeping the publisher alive"
  else
    Check.say .warning "Viewer did not see media yet; keeping the publisher alive anyway"
  Check.wait publisherPage o.durationMs
  Check.closeContext context

def run (o : Options) : Check τ Nat := do
  let (push, view) ← Check.ofFault (prepareLinks o.pushLink o.viewLink)
  Check.say .note s!"Publishing: {push}"
  Check.say .note s!"Viewing:    {view}"
  let browser ← Session.launchChromium (!o.headed) true
  Check.ensuring (session o push view browser) (Check.closeBrowser browser)
  pure 0

end StreamWatch.Runner.Publish
