import StreamWatch.Json.Value
import StreamWatch.Text.Lowercase
import StreamWatch.Text.Pieces

/-! The load of the machine that runs the browsers, as a report shows it. The memory of the browsers
is that of every process whose name holds the name of one and whose memory is known. -/
namespace StreamWatch.Report

open Json (Value)

structure Process where
  name : Option String
  memory : Option Int

structure Host where
  processes : List Process := []
  processors : Value := .int 4
  processorPercent : Value := .float 12.5
  memoryPercent : Value := .float 50.0

namespace Host

def browserNames : List String := ["chrome", "chromium", "firefox", "headless_shell"]

def isBrowser (p : Process) : Bool :=
  let name := Text.lower (p.name.getD "").toList
  browserNames.any fun b => Text.holds b.toList name

def browserMemory (h : Host) : Int :=
  (h.processes.filter isBrowser).foldr (fun p n => p.memory.getD 0 + n) 0

def toJson (h : Host) : Value :=
  .record [
    ("cpuCount", h.processors), ("cpuPercent", h.processorPercent),
    ("memoryPercent", h.memoryPercent), ("browserRssBytes", .int h.browserMemory)]

end Host
end StreamWatch.Report
