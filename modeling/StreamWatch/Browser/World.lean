import StreamWatch.Browser.Call
import StreamWatch.Console.Log
import StreamWatch.Report.FileTree
import StreamWatch.Report.Host
import StreamWatch.Report.Instant

/-! Everything a check acts on: the clock, the pages that are open and the scripts of those to come,
the calls made so far, the log, the console, the files, the calendar and the host. -/
namespace StreamWatch.Browser

structure Page (τ : Type) where
  script : PageScript τ
  address : String
  opened : Nat := 0
  reloaded : Nat := 0
  evaluated : Nat := 0
  waited : Nat := 0
  clicked : Nat := 0
  pictured : Nat := 0

def Page.fresh {τ : Type} (script : PageScript τ) : Page τ where
  script := script
  address := script.address

def Page.waitsLeft {τ : Type} (p : Page τ) : Nat := p.script.waitLimit - p.waited

/-- How opening fails, by the number that the context or the page would get. -/
structure Openings where
  context : Nat → Option String := fun _ => none
  page : Nat → Option String := fun _ => none
  collectInContext : Nat → Option String := fun _ => none
  collectInPage : Nat → Option String := fun _ => none

structure World (τ : Type) where
  clock : τ
  blank : PageScript τ
  upcoming : List (PageScript τ) := []
  pages : List (Page τ) := []
  contexts : Nat := 0
  browsers : Nat := 0
  launchFailure : Engine → Option String := fun _ => none
  openings : Openings := {}
  calls : List Call := []
  logging : Console.Logging := { checks := .debug }
  log : List Console.LogLine := []
  terminal : Bool := false
  printed : String := ""
  files : Report.FileTree := {}
  /-- The moment now; nothing once the calendar has ended. -/
  now : Option Report.Instant := some ⟨2024, 1, 2, 3, 4, 5, 0⟩
  host : Report.Host := {}

namespace World

variable {τ : Type}

def page (w : World τ) (k : Nat) : Page τ := w.pages.getD k (Page.fresh w.blank)

def updatePage (w : World τ) (k : Nat) (f : Page τ → Page τ) : World τ :=
  { w with pages := w.pages.modify k f }

def addPage (w : World τ) : World τ :=
  { w with
    pages := w.pages ++ [Page.fresh (w.upcoming.headD w.blank)]
    upcoming := w.upcoming.tail }

def start [Timeline τ] (clock : τ) (plans : List PageScript.Plan) : World τ where
  clock := clock
  blank := .ofPlan {}
  upcoming := plans.map .ofPlan

end World
end StreamWatch.Browser
