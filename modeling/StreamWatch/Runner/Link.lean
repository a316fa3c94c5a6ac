import StreamWatch.Poll.Loop
import StreamWatch.Runner.Common

/-! The check of a single view link: open it, wait, click, wait again, sample once and report what
the viewer sees. A strict check fails unless the viewer is ready. -/
namespace StreamWatch.Runner.Link

open Browser (Check)
open Json (Value)
open Sample (Snapshot)

variable {τ : Type}

def defaultLink : String := "https://vdo.ninja/?view=CoatdevdavER"

structure Options where
  link : String := defaultLink
  settleMs : Option Int := some 25000
  afterClickMs : Option Int := some 12000
  screenshot : Option String := some "playwright-vdo-view-check.png"
  output : Option String := some "playwright-vdo-view-check.json"
  strict : Bool := false
  headed : Bool := false

structure Picture where
  path : String
  failure : Option String

/-- A failure without words leaves the path empty and no more. -/
def Picture.fields (p : Picture) : List (String × Value) :=
  match p.failure with
  | none => [("screenshotPath", .text p.path)]
  | some message =>
    ("screenshotPath", .text "") ::
      if message = "" then [] else [("screenshotError", .text message)]

structure Findings where
  startedAt : String
  link : String
  snapshot : Snapshot
  ready : Bool
  host : Value
  picture : Option Picture

def Findings.toJson (r : Findings) : Value :=
  .record ([
    ("startedAt", .text r.startedAt), ("inputUrl", .text r.link),
    ("snapshot", r.snapshot.toJson), ("hasTracks", .bool r.snapshot.hasTracks),
    ("hasMetadata", .bool r.snapshot.hasMetadata),
    ("inboundBytes", .int r.snapshot.inboundBytes), ("ready", .bool r.ready),
    ("host", r.host)] ++ (r.picture.map Picture.fields).getD [])

def takePicture (page : Nat) (path : Option String) : Check τ (Option Picture) := do
  match path.filter (· ≠ "") with
  | none => pure none
  | some path => pure (some ⟨path, ← Session.takeScreenshot page path⟩)

def inspect (o : Options) (settings : Poll.Settings) (browser : Nat) : Check τ Findings := do
  let (context, page) ← Session.openPage browser false true
  Session.openLink page o.link
  Check.wait page o.settleMs
  Session.nudge page
  Check.wait page o.afterClickMs
  let snapshot ← Session.collect page
  let startedAt ← Check.timestamp
  let host ← Report.host
  let picture ← takePicture page o.screenshot
  Check.closeContext context
  pure { startedAt, link := o.link, snapshot, ready := settings.isReady snapshot, host, picture }

def conclude (o : Options) (r : Findings) : Check τ Nat := do
  Report.write r.toJson (.ofText (← Check.given o.output)) true
  if r.snapshot.waiting then Check.say .warning "Page still shows 'Waiting for the stream'"
  if o.strict && !r.ready then
    Check.say .failure "Viewer is not receiving live media"
    pure 1
  else pure 0

def run (env : Environment) (o : Options) : Check τ Nat := do
  let settings ← Check.ofFault (Poll.Settings.ofEnvironment env {})
  let browser ← Session.launchChromium (!o.headed) false
  let findings ← Check.ensuring (inspect o settings browser) (Check.closeBrowser browser)
  conclude o findings

end StreamWatch.Runner.Link
