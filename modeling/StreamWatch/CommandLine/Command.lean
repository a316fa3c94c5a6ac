import StreamWatch.CommandLine.Parser
import StreamWatch.Runner.CrossBrowser
import StreamWatch.Runner.Link
import StreamWatch.Runner.Matrix
import StreamWatch.Runner.Publish
import StreamWatch.Runner.Scenario

/-! The commands. Each has its options, whose defaults partly come from variables, and runs its
check. What the check reports ends in exit code one; a publishing session may be interrupted. -/
namespace StreamWatch.CommandLine

open Browser (Check Timeline World)

inductive Command
  | link
  | matrix
  | publish
  | crossBrowser
  | scenario
  deriving DecidableEq

namespace Command

def all : List Command := [.link, .matrix, .publish, .crossBrowser, .scenario]

def name : Command → String
  | link => "vdo-view-check"
  | matrix => "vdo-matrix-check"
  | publish => "vdo-publish-session"
  | crossBrowser => "vdo-firefox-view-check"
  | scenario => "vdo-scenario-check"

def ofName? (s : String) : Option Command := all.find? (·.name == s)

def withCommon (flags : List Flag) : List Flag :=
  helpFlag :: flags ++ [.switch "headed", .switch "debug"]

def grammar : Command → Grammar
  | link => {
      flags := withCommon [
        .number "settle-ms", .number "after-click-ms", .text "screenshot", .text "output",
        .switch "strict"]
      places := .upTo 1 }
  | matrix => {
      flags := withCommon [
        .number "per-url-wait-ms", .number "sample-gap-ms", .text "output-dir", .text "output"]
      places := .many }
  | publish => {
      flags := withCommon [
        .number "duration-ms", .number "startup-wait-ms", .number "view-probe-wait-ms",
        .number "sample-gap-ms", .text "output"]
      places := .upTo 2 }
  | crossBrowser => {
      flags := withCommon [.number "timeout-ms", .number "interval-ms", .text "output"]
      places := .upTo 0 }
  | scenario => {
      flags := withCommon [
        .number "viewers", .switch "reload", .switch "require-audio", .number "timeout-ms",
        .number "startup-wait-ms", .number "settle-ms", .text "output", .switch "screenshots"]
      places := .upTo 0 }

def isHeaded (env : Environment) (p : Parsed) : Bool :=
  p.isOn "headed" || env.get? "HEADLESS" = some "0"

def isDebug (env : Environment) (p : Parsed) : Bool := p.isOn "debug" || env.flag "VDO_DEBUG"

structure Defaults where
  perLinkWaitMs : Int := 18000
  sampleGapMs : Int := 7000
  durationMs : Int := Runner.Publish.defaultDurationMs
  startupWaitMs : Int := 20000
  viewWaitMs : Int := 25000

def numberOr (env : Environment) (name : String) (other : Int) : Except Fault Int :=
  (Poll.Settings.number? env name).map (·.getD other)

def defaults (env : Environment) : Command → Except Fault Defaults
  | matrix => do
    let base : Defaults := {}
    let perLinkWaitMs ← numberOr env "PER_URL_WAIT_MS" base.perLinkWaitMs
    let sampleGapMs ← numberOr env "SAMPLE_GAP_MS" base.sampleGapMs
    pure { perLinkWaitMs, sampleGapMs }
  | publish => do
    let base : Defaults := {}
    let durationMs ← numberOr env "PUBLISH_DURATION_MS" base.durationMs
    let startupWaitMs ← numberOr env "PUBLISH_STARTUP_WAIT_MS" base.startupWaitMs
    let viewWaitMs ← numberOr env "VIEW_PROBE_WAIT_MS" base.viewWaitMs
    pure { durationMs, startupWaitMs, viewWaitMs }
  | _ => .ok {}

def linkOptions (env : Environment) (p : Parsed) : Runner.Link.Options :=
  let base : Runner.Link.Options := {}
  { link := p.words.headD base.link
    settleMs := (p.number? "settle-ms").getD base.settleMs
    afterClickMs := (p.number? "after-click-ms").getD base.afterClickMs
    screenshot := (p.text? "screenshot").getD base.screenshot
    output := (p.text? "output").getD base.output
    strict := p.isOn "strict"
    headed := isHeaded env p }

def matrixOptions (env : Environment) (d : Defaults) (p : Parsed) : Runner.Matrix.Options :=
  let base : Runner.Matrix.Options := {}
  { links := p.words
    perLinkWaitMs := (p.number? "per-url-wait-ms").getD d.perLinkWaitMs
    sampleGapMs := (p.number? "sample-gap-ms").getD d.sampleGapMs
    outputDir := (p.text? "output-dir").getD base.outputDir
    output := (p.text? "output").getD base.output
    headed := isHeaded env p }

def publishOptions (env : Environment) (d : Defaults) (p : Parsed) : Runner.Publish.Options :=
  let base : Runner.Publish.Options := {}
  { pushLink := p.words.headD base.pushLink
    viewLink := p.words.getD 1 base.viewLink
    durationMs := (p.number? "duration-ms").getD d.durationMs
    startupWaitMs := (p.number? "startup-wait-ms").getD d.startupWaitMs
    viewWaitMs := (p.number? "view-probe-wait-ms").getD d.viewWaitMs
    sampleGapMs := (p.number? "sample-gap-ms").getD base.sampleGapMs
    output := (p.text? "output").getD base.output
    headed := isHeaded env p }

def crossBrowserOptions (env : Environment) (p : Parsed) : Runner.CrossBrowser.Options :=
  let base : Runner.CrossBrowser.Options := {}
  { timeoutMs := (p.number? "timeout-ms").getD base.timeoutMs
    intervalMs := (p.number? "interval-ms").getD base.intervalMs
    output := (p.text? "output").getD base.output
    headed := isHeaded env p }

def scenarioOptions (env : Environment) (p : Parsed) : Runner.Scenario.Options :=
  let base : Runner.Scenario.Options := {}
  { viewers := (p.number? "viewers").join.getD base.viewers
    reload := p.isOn "reload"
    requireAudio := p.isOn "require-audio"
    timeoutMs := p.number? "timeout-ms"
    startupWaitMs := (p.number? "startup-wait-ms").getD base.startupWaitMs
    settleMs := (p.number? "settle-ms").getD base.settleMs
    output := (p.text? "output").getD base.output
    screenshots := p.isOn "screenshots"
    headed := isHeaded env p }

def screen (c : Command) (p : Parsed) : Except Fault (Option Misuse) :=
  match c, p.number? "viewers" with
  | .scenario, some viewers =>
    (Fault.required viewers).map fun n => if n < 1 then some .tooFewViewers else none
  | _, _ => .ok none

variable {τ : Type}

def check [Timeline τ] (c : Command) (env : Environment) (d : Defaults) (p : Parsed) :
    Check τ Nat :=
  match c with
  | link => Runner.Link.run env (linkOptions env p)
  | matrix => Runner.Matrix.run (matrixOptions env d p)
  | publish => Runner.Publish.run (publishOptions env d p)
  | crossBrowser => Runner.CrossBrowser.run env (crossBrowserOptions env p)
  | scenario => Runner.Scenario.run env (scenarioOptions env p)

def channel : Command → Console.Channel
  | link => .view
  | matrix => .matrix
  | publish => .publish
  | crossBrowser => .crossBrowser
  | scenario => .scenario

def title : Command → String
  | link => "View check"
  | matrix => "Matrix check"
  | publish => "Publish session"
  | crossBrowser => "Firefox view check"
  | scenario => "Scenario"

def report (c : Command) (h : Halt) : Check τ Nat := do
  if h.isReported then
    let title := c.title
    let message := h.message
    Check.log .error c.channel s!"{title} failed: {message}"
    Check.say .failure message
    pure 1
  else throw h

def finish (c : Command) (act : Check τ Nat) : Check τ Nat := do
  match c, ← Check.attempt act with
  | _, .ok code => pure code
  | publish, .error .interrupted => do
    Check.say .warning "Publish session stopped"
    pure 0
  | c, .error h => c.report h

def configureLogging (debug : Bool) : Check τ Unit :=
  modify fun w => { w with logging := w.logging.configure debug }

def run [Timeline τ] (c : Command) (env : Environment) (words : List String) :
    Check τ (Except Refusal Nat) := do
  let d ← Check.ofFault (c.defaults env)
  match parse c.grammar words with
  | .error refusal => pure (.error refusal)
  | .ok p =>
    match ← Check.ofFault (c.screen p) with
    | some misuse => pure (.error (.misuse misuse))
    | none => do
      configureLogging (isDebug env p)
      pure (.ok (← c.finish (c.check env d p)))

end Command
end StreamWatch.CommandLine
