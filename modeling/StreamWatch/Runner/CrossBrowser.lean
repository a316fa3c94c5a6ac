import StreamWatch.Poll.Loop
import StreamWatch.Runner.Common

/-! The check across browsers: publish from Chromium, view in Firefox. The viewer has to become live
within the timeout, and playback has to move on between two samples. -/
namespace StreamWatch.Runner.CrossBrowser

open Browser (Check Timeline)
open Json (Value)
open Sample (Snapshot)

variable {τ : Type}

structure Options where
  timeoutMs : Option Int := some 90000
  intervalMs : Option Int := some 2000
  output : Option String := some "playwright-vdo-firefox-view-check.json"
  headed : Bool := false

def Options.limits (o : Options) : Poll.Limits where
  timeoutMs := o.timeoutMs
  intervalMs _ := o.intervalMs

def label : String := "Firefox viewer"

structure Findings where
  stream : List (String × Value)
  first : Snapshot
  second : Snapshot
  host : Value

namespace Findings

def verdict (r : Findings) : Verdict := .ofSnapshots r.first r.second

def toJson (r : Findings) : Value :=
  .record [
    ("scenario", .record r.stream), ("viewerSample1", r.first.toJson),
    ("viewerSample2", r.second.toJson), ("hasTracks", .bool r.verdict.hasTracks),
    ("hasMetadata", .bool r.verdict.hasMetadata), ("inboundBytes", .int r.verdict.inboundBytes),
    ("playbackAdvanced", .bool r.verdict.playbackAdvanced), ("host", r.host)]

end Findings

def firstLive [Timeline τ] (limits : Poll.Limits) (settings : Poll.Settings)
    (page : Nat) : Check τ Snapshot := do
  match ← Poll.untilLiveWithin limits settings label [page] with
  | [snapshot] => pure snapshot
  | _ => throw (.fault .outsideList)

def inspect [Timeline τ] (o : Options) (c : Stream.Config) (settings : Poll.Settings)
    (publisherBrowser viewerBrowser : Nat) : Check τ Verdict := do
  let (publisherContext, publisher) ← Session.openPage publisherBrowser true true
  let (viewerContext, viewer) ← Session.openPage viewerBrowser false true
  let _ ← Session.startPublisher publisher c.pushLink Session.startupWaitMs Session.settleMs
  Session.openViewer viewer c.viewLink
  let first ← firstLive o.limits settings viewer
  Check.wait viewer settings.sampleGapMs
  let second ← Session.collect viewer
  let findings : Findings := {
    stream := ← Check.ofFault c.fields
    first, second
    host := ← Report.host }
  Report.write findings.toJson (.ofText (← Check.given o.output)) true
  Check.closeContext viewerContext
  Check.closeContext publisherContext
  pure findings.verdict

def settingsOf (env : Environment) (o : Options) : Except Fault Poll.Settings :=
  Poll.Settings.ofEnvironment env
    { timeoutMs := o.timeoutMs, intervalsMs := o.intervalMs.map ([·]) }

def conclude (settings : Poll.Settings) (verdict : Verdict) : Check τ Nat := do
  match ← Check.ofFault (verdict.complaints settings) with
  | [] =>
    Check.say .success "Firefox viewer is playing the Chromium publisher's stream"
    pure 0
  | complaints => throw (.rejected label (some verdict) complaints)

def run [Timeline τ] (env : Environment) (o : Options) : Check τ Nat := do
  let c ← Stream.announce env
  let settings ← Check.ofFault (settingsOf env o)
  let push := c.pushLink
  let view := c.viewLink
  Check.say .note s!"Push URL (Chromium): {push}"
  Check.say .note s!"View URL (Firefox):  {view}"
  let publisherBrowser ← Session.launchChromium (!o.headed) true
  let viewerBrowser ← Session.launchFirefox (!o.headed)
  let verdict ← Check.ensuring (inspect o c settings publisherBrowser viewerBrowser) do
    Check.closeBrowser viewerBrowser
    Check.closeBrowser publisherBrowser
  conclude settings verdict

end StreamWatch.Runner.CrossBrowser
