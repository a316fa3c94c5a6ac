import StreamWatch.Browser.World
import StreamWatch.Console.Colour
import StreamWatch.Halt

/-! Steps of a check: they change the world and can halt. What happened before a halt stays. The
primitive steps are one call each; the call is on record even where it fails. -/
namespace StreamWatch.Browser

abbrev Check (τ α : Type) := ExceptT Halt (StateM (World τ)) α

namespace Check

variable {τ α β : Type}

def attempt (act : Check τ α) : Check τ (Except Halt α) := fun w =>
  let (outcome, w) := act w
  (.ok outcome, w)

def ofExcept : Except Halt α → Check τ α
  | .ok a => pure a
  | .error h => throw h

def ofFault : Except Fault α → Check τ α
  | .ok a => pure a
  | .error f => throw (.fault f)

def given (a : Option α) : Check τ α := ofFault (Fault.required a)

def ensuring (act : Check τ α) (cleanUp : Check τ Unit) : Check τ α := do
  let outcome ← attempt act
  cleanUp
  ofExcept outcome

/-- The failure with which the browser refused `act`, if it did; other halts go on. -/
def refusal? (act : Check τ Unit) : Check τ (Option String) := do
  match ← attempt act with
  | .ok _ => pure none
  | .error (.browser message) => pure (some message)
  | .error h => throw h

def each (act : α → Check τ β) : List α → Check τ (List β)
  | [] => pure []
  | a :: r => do
    let b ← act a
    let bs ← each act r
    pure (b :: bs)

def forEach (act : α → Check τ Unit) : List α → Check τ Unit
  | [] => pure ()
  | a :: r => do
    act a
    forEach act r

def log (level : Console.Level) (channel : Console.Channel) (message : String) : Check τ Unit :=
  modify fun w =>
    if w.logging.shows level then { w with log := w.log ++ [⟨level, channel, message⟩] } else w

def print (line : String) : Check τ Unit :=
  modify fun w => { w with printed := w.printed ++ line ++ "\n" }

def say (tone : Console.Tone) (message : String) : Check τ Unit := do
  print (← ofFault (Console.toneLine (← get).terminal tone message))

def timestamp : Check τ String := do
  match (← get).now with
  | some now =>
    modify fun w => { w with now := now.nextSecond? }
    pure now.text
  | none => throw (.fault .tooLarge)

/-- Directories that were made on the way to one that cannot be made stay. -/
def makeDirectory (p : Report.Path) : Check τ Unit := do
  let (files, fault?) := (← get).files.makeDirectory p
  modify fun w => { w with files }
  match fault? with
  | some f => throw (.fault f)
  | none => pure ()

def writeFile (p : Report.Path) (text : String) : Check τ Unit := do
  let files ← ofFault ((← get).files.write p text)
  modify fun w => { w with files }

def record (c : Call) : Check τ Unit := modify fun w => { w with calls := w.calls ++ [c] }

def failWith : Option String → Check τ Unit
  | none => pure ()
  | some message => throw (.browser message)

def launch (engine : Engine) (headless fakeMedia : Bool) : Check τ Nat := do
  record (.launch engine headless fakeMedia)
  failWith ((← get).launchFailure engine)
  let browser := (← get).browsers
  modify fun w => { w with browsers := browser + 1 }
  pure browser

def newContext (browser : Nat) (publisher : Bool) : Check τ Nat := do
  let context := (← get).contexts
  record (.newContext browser context publisher)
  failWith ((← get).openings.context context)
  modify fun w => { w with contexts := context + 1 }
  pure context

def addPage : Check τ Nat := do
  let page := (← get).pages.length
  modify World.addPage
  pure page

def newPage (context : Nat) : Check τ Nat := do
  let page := (← get).pages.length
  record (.newPage context page)
  failWith ((← get).openings.page page)
  addPage

def collectInContext (context : Nat) : Check τ Unit := do
  record (.collectInContext context)
  failWith ((← get).openings.collectInContext context)

def collectInPage (page : Nat) : Check τ Unit := do
  record (.collectInPage page)
  failWith ((← get).openings.collectInPage page)

def closeBrowser (browser : Nat) : Check τ Unit := record (.closeBrowser browser)

def closeContext (context : Nat) : Check τ Unit := record (.closeContext context)

def closePage (page : Nat) : Check τ Unit := record (.closePage page)

def page (k : Nat) : Check τ (Page τ) := return (← get).page k

def updatePage (k : Nat) (f : Page τ → Page τ) : Check τ Unit := modify (·.updatePage k f)

def goto (k : Nat) (address : String) (timeoutMs : Int) : Check τ Unit := do
  record (.goto k address timeoutMs)
  let p ← page k
  updatePage k fun p => { p with opened := p.opened + 1 }
  failWith (p.script.openFailure p.opened)
  updatePage k fun p => { p with address }

def reload (k : Nat) (timeoutMs : Int) : Check τ Unit := do
  record (.reload k timeoutMs)
  let p ← page k
  updatePage k fun p => { p with reloaded := p.reloaded + 1 }
  failWith (p.script.reloadFailure p.reloaded)

def setClock (t : τ) : Check τ Unit := modify fun w => { w with clock := t }

def evaluate (k : Nat) : Check τ Json.Value := do
  record (.evaluate k)
  let p ← page k
  updatePage k fun p => { p with evaluated := p.evaluated + 1 }
  setClock (← ofFault (p.script.sampled p.evaluated (← get).clock))
  match p.script.sample p.evaluated with
  | .ok v => pure v
  | .error message => throw (.browser message)

/-- A wait without a length is called for like any other, and is refused when its time comes. -/
def wait (k : Nat) (ms : Option Int) : Check τ Unit := do
  record (.wait k ms)
  let p ← page k
  updatePage k fun p => { p with waited := p.waited + 1 }
  match p.script.wait p.waited with
  | .interrupted => throw .interrupted
  | .fails message => throw (.browser message)
  | .passes =>
    if p.waitsLeft = 0 then throw (.browser waitLimitReached)
    else setClock (← ofFault (p.script.waited p.waited (← given ms) (← get).clock))

def clickAt (k : Nat) (x y : Coordinate) : Check τ Unit := do
  record (.clickAt k x y)
  let p ← page k
  updatePage k fun p => { p with clicked := p.clicked + 1 }
  failWith (p.script.clickFailure p.clicked)

def screenshot (k : Nat) (path : String) : Check τ Unit := do
  record (.screenshot k path)
  let p ← page k
  updatePage k fun p => { p with pictured := p.pictured + 1 }
  failWith (p.script.screenshotFailure p.pictured)

end Check
end StreamWatch.Browser
