import StreamWatch.Browser.Check
import StreamWatch.Json.Printer
import StreamWatch.Stream.Config

/-! What the checks have in common: they settle on the stream they are about, with its links in the
log, and write a report. A report is indented text and a line end, in a file whose directories are
made first; the same text can be shown on the console. -/
namespace StreamWatch

open Browser (Check)

variable {τ : Type}

namespace Stream

def announce (env : Environment) : Check τ Config := do
  let c := Config.ofEnvironment env
  let push := c.pushLink
  let view := c.viewLink
  Check.log .debug .config s!"Scenario push URL: {push}"
  Check.log .debug .config s!"Scenario view URL: {view}"
  pure c

end Stream

namespace Report

def write (payload : Json.Value) (path : Path) (echo : Bool) : Check τ Unit := do
  Check.makeDirectory path.parent
  let text ← Check.ofFault payload.shown
  Check.writeFile path (text ++ "\n")
  let name := path.toText
  Check.log .info .report s!"Wrote report {name}"
  if echo then Check.print text

def host : Check τ Json.Value := return (← get).host.toJson

end Report
end StreamWatch
