import StreamWatch.Link.Parts
import StreamWatch.Runner.Common
import StreamWatch.Session.Page
import StreamWatch.Session.Probe
import StreamWatch.Stream.Identifier

/-! The check of several view links, one after another: for every link two samples and a picture,
and whether its media is active. A step that the browser refuses is noted with its link, and the
next link is tried. -/
namespace StreamWatch.Runner.Matrix

open Browser (Check)
open Json (Value)
open Sample (Snapshot)

variable {τ : Type}

def defaultLinks : List String := [
  "https://vdo.ninja/?view=Alsosuitbc&pasword=somepassword",
  "https://vdo.ninja/?view=Alsosuitbc&password=somepassword",
  "https://vdo.ninja/?view=CoatdevdavER"]

structure Options where
  links : List String := []
  perLinkWaitMs : Option Int := some 18000
  sampleGapMs : Option Int := some 7000
  outputDir : Option String := some "test-results/playwright-vdo-matrix"
  output : Option String := some "playwright-vdo-matrix-check.json"
  headed : Bool := false

structure Result where
  link : String
  opened : Option String
  samples : Except String (Snapshot × Snapshot)
  path : String
  pictured : Option String

namespace Result

def verdict? (r : Result) : Option Verdict :=
  match r.samples with
  | .ok (first, second) => some (.ofSnapshots first second)
  | .error _ => none

def holds (r : Result) (check : Verdict → Bool) : Bool := (r.verdict?.map check).getD false

def isActive (r : Result) : Bool := r.holds (·.mediaActive)

def sampleField (r : Result) (side : Snapshot × Snapshot → Snapshot) : Value :=
  match r.samples with
  | .ok pair => (side pair).toJson
  | .error _ => .null

def sampleError (r : Result) : List (String × Value) :=
  match r.samples with
  | .ok _ => []
  | .error message => [("sampleError", .text message)]

def toJson (r : Result) : Value :=
  .record ([
    ("inputUrl", .text r.link), ("gotoOk", .bool r.opened.isNone),
    ("gotoError", .text (r.opened.getD "")), ("sample1", r.sampleField (·.1)),
    ("sample2", r.sampleField (·.2)), ("playbackAdvanced", .bool (r.holds (·.playbackAdvanced))),
    ("hasInboundBytes", .bool (r.holds (·.hasInboundBytes))),
    ("hasVideoMetadata", .bool (r.holds (·.hasMetadata))),
    ("hasAudioTrack", .bool (r.holds (·.hasAudioTrack))),
    ("hasVideoTrack", .bool (r.holds (·.hasVideoTrack))),
    ("verdictMediaActive", .bool r.isActive),
    ("screenshotPath", .text (if r.pictured.isNone then r.path else ""))] ++
    r.sampleError ++ r.pictured.toList.map fun message => ("screenshotError", .text message))

end Result

def sample (page : Nat) (halfWaitMs : Int) (sampleGapMs : Option Int) :
    Check τ (Snapshot × Snapshot) := do
  Check.wait page halfWaitMs
  Session.nudge page
  Check.wait page halfWaitMs
  Session.collectPair page sampleGapMs

def trySample (page : Nat) (link : String) (halfWaitMs : Int) (sampleGapMs : Option Int) :
    Check τ (Except String (Snapshot × Snapshot)) := do
  match ← Check.attempt (sample page halfWaitMs sampleGapMs) with
  | .ok pair => pure (.ok pair)
  | .error (.browser message) =>
    Check.log .warning .matrix s!"Sampling {link} failed: {message}"
    pure (.error message)
  | .error h => throw h

def picturePath (link : String) (index : Int) (outputDir : String) : Except Fault String := do
  let parts ← Link.Parts.ofText link.toList
  let search := if parts.query = [] then "" else String.ofList ('?' :: parts.query)
  let name := Stream.fileName search index
  pure ((Report.Path.ofText outputDir).child s!"{name}.png").toText

def checkLink (browser : Nat) (link : String) (index : Int)
    (perLinkWaitMs sampleGapMs : Option Int) (outputDir : String) : Check τ Result := do
  let (context, page) ← Session.openPage browser false true
  let opened ← Session.navigate page link Session.navigationTimeoutMs
  let halfWaitMs := max 2000 ((← Check.given perLinkWaitMs) / 2)
  let samples ← trySample page link halfWaitMs sampleGapMs
  let path ← Check.ofFault (picturePath link index outputDir)
  let pictured ← Session.takeScreenshot page path
  Check.closeContext context
  pure { link, opened, samples, path, pictured }

def checkLinks (o : Options) (outputDir : String) (browser total index : Nat) :
    List String → Check τ (List Result)
  | [] => pure []
  | link :: r => do
    Check.say .note s!"[{index}/{total}] {link}"
    let result ← checkLink browser link index o.perLinkWaitMs o.sampleGapMs outputDir
    if result.isActive then Check.say .success "    media active"
    else Check.say .warning "    no active media"
    let rest ← checkLinks o outputDir browser total (index + 1) r
    pure (result :: rest)

structure Findings where
  startedAt : String
  finishedAt : String
  results : List Result
  host : Value

namespace Findings

def activeCount (r : Findings) : Nat := r.results.countP (·.isActive)

def anyActive (r : Findings) : Bool := r.results.any (·.isActive)

def toJson (r : Findings) : Value :=
  .record [
    ("summary", .record [
      ("startedAt", .text r.startedAt), ("finishedAt", .text r.finishedAt),
      ("total", .int r.results.length), ("mediaActiveCount", .int r.activeCount),
      ("anyMediaActive", .bool r.anyActive)]),
    ("results", .list (r.results.map Result.toJson)), ("host", r.host)]

end Findings

def gather (o : Options) (links : List String) : Check τ Findings := do
  let outputDir ← Check.given o.outputDir
  Check.makeDirectory (.ofText outputDir)
  let startedAt ← Check.timestamp
  let browser ← Session.launchChromium (!o.headed) false
  let results ← Check.ensuring (checkLinks o outputDir browser links.length 1 links)
    (Check.closeBrowser browser)
  let finishedAt ← Check.timestamp
  pure { startedAt, finishedAt, results, host := ← Report.host }

def run (o : Options) : Check τ Nat := do
  let findings ← gather o (if o.links = [] then defaultLinks else o.links)
  Report.write findings.toJson (.ofText (← Check.given o.output)) true
  pure (if findings.anyActive then 0 else 1)

end StreamWatch.Runner.Matrix
