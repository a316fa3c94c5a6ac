import StreamWatch.Browser.World
import StreamWatch.Json.Display

/-! A rehearsal: a world read from a record. It lists the plans of the pages, and can set the
clock, how launching fails, the calendar, the load of the host and whether output goes to a
terminal. What is not listed has its default. -/
namespace StreamWatch.Browser.Rehearsal

open Json (Value)

def get (v : Value) (key : String) : Value :=
  match v with
  | .record fields => Value.field key fields
  | _ => .null

def text? : Value → Option String
  | .text s => some s
  | _ => none

def int? : Value → Option Int
  | .int n => some n
  | _ => none

def items : Value → List Value
  | .list vs => vs
  | _ => []

def texts (v : Value) : List (Option String) := (items v).map text?

def isOn (v : Value) : Bool := v.isPresent

/-- A sample is any value; a record of the single field `$error` is a failure instead. -/
def sample : Value → Except String Value
  | .record [("$error", message)] => .error message.told
  | v => .ok v

def visible : Value → Except String Bool
  | .text message => .error message
  | v => .ok (isOn v)

def button (v : Value) : Button :=
  let base : Button := {}
  { text := (text? (get v "text")).getD base.text
    visible := visible (get v "visible")
    clickFailure := text? (get v "click_error") }

def plan (v : Value) : PageScript.Plan :=
  let base : PageScript.Plan := {}
  { address := (text? (get v "url")).getD base.address
    viewport := get v "viewport"
    samples := (items (get v "samples")).map sample
    latencyMs := (int? (get v "latency_ms")).getD base.latencyMs
    interruptAt := int? (get v "interrupt_at_wait")
    failAt := int? (get v "error_at_wait")
    waitLimit := ((int? (get v "wait_limit")).map Int.toNat).getD base.waitLimit
    openFailures := texts (get v "goto")
    reloadFailures := texts (get v "reload")
    clickFailures := texts (get v "mouse")
    screenshotFailures := texts (get v "screenshot")
    byRole := button (get v "role")
    byText := button (get v "text") }

def instant? (v : Value) : Option Report.Instant :=
  match (items v).map fun n => ((int? n).getD 0).toNat with
  | [year, month, day, hour, minute, second, microsecond] =>
    some ⟨year, month, day, hour, minute, second, microsecond⟩
  | _ => none

def host (v : Value) : Report.Host :=
  let base : Report.Host := {}
  let given (key : String) (other : Value) : Value :=
    match v with
    | .record fields => (Value.find? key fields).getD other
    | _ => other
  { processes := (items (get v "processes")).map fun p =>
      ⟨text? (get p "name"), int? (get p "rss")⟩
    processors := given "cpu_count" base.processors
    processorPercent := given "cpu_percent" base.processorPercent
    memoryPercent := given "memory_percent" base.memoryPercent }

def clock : Value → Except Fault Float
  | .float x => .ok x
  | .int n => Sample.floatOf n
  | _ => .ok 0.0

def engineName : Engine → String
  | .chromium => "chromium"
  | .firefox => "firefox"

def world (v : Value) : Except Fault (World Float) := do
  let start ← clock (get v "clock_start")
  let base := World.start start ((items (get v "pages")).map plan)
  pure { base with
    launchFailure := fun engine => text? (get (get v "launch") (engineName engine))
    now := (instant? (get v "now")).or base.now
    host := host (get v "host")
    terminal := isOn (get v "tty") }

end StreamWatch.Browser.Rehearsal
