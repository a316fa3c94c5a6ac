import StreamWatch.Browser.Check

/-! Working a page: launching browsers, opening pages and links, clicking and taking pictures. A
navigation and a picture give the failure they end with; the click on the camera button is allowed
to fail, and a button that cannot be seen is taken to be unnecessary. -/
namespace StreamWatch.Session

open Browser (Check Coordinate Engine Finder Button)
open Json (Value)

variable {τ : Type}

def navigationTimeoutMs : Int := 60000

def truth (b : Bool) : String := (Value.bool b).told

def launchChromium (headless fakeMedia : Bool) : Check τ Nat := do
  Check.log .info .session s!"Launching Chromium (headless={truth headless})"
  Check.launch .chromium headless fakeMedia

def launchFirefox (headless : Bool) : Check τ Nat := do
  Check.log .info .session s!"Launching Firefox (headless={truth headless})"
  Check.launch .firefox headless true

def openPage (browser : Nat) (publisher collectPeers : Bool) : Check τ (Nat × Nat) := do
  let context ← Check.newContext browser publisher
  let page ← Check.newPage context
  if collectPeers then Check.collectInPage page
  pure (context, page)

def navigate (page : Nat) (address : String) (timeoutMs : Int) : Check τ (Option String) := do
  match ← Check.refusal? (Check.goto page address timeoutMs) with
  | some message =>
    Check.log .warning .session s!"Navigation to {address} failed: {message}"
    pure (some message)
  | none =>
    Check.log .info .session s!"Navigated to {address}"
    pure none

def reload (page : Nat) (timeoutMs : Int) : Check τ (Option String) := do
  let failure ← Check.refusal? (Check.reload page timeoutMs)
  let address := (← Check.page page).address
  match failure with
  | some message =>
    Check.log .warning .session s!"Reload of {address} failed: {message}"
    pure (some message)
  | none =>
    Check.log .info .session s!"Reloaded {address}"
    pure none

def halfOf (x : Float) : Float :=
  match Numeral.Binary64.size x with
  | .finite true m e => -Float.ofInt (Numeral.Binary64.ceilOf m (e - 1))
  | .finite false m e => Float.ofInt (Numeral.Binary64.floorOf m (e - 1))
  | _ => Numeral.Decimal.undefined

def half : Value → Except Fault Coordinate
  | .bool _ => .ok (.whole 0)
  | .int n => .ok (.whole (n / 2))
  | .float x => .ok (.binary (halfOf x))
  | _ => .error .wrongKind

def halfSide (key : String) (fields : List (String × Value)) : Except Fault Coordinate :=
  match Value.find? key fields with
  | some v => half v
  | none => .error .missingEntry

def middle (viewport : Value) : Except Fault (Coordinate × Coordinate) :=
  if viewport.isPresent then
    match viewport with
    | .record fields => do
      let x ← halfSide "width" fields
      let y ← halfSide "height" fields
      pure (x, y)
    | _ => .error .wrongKind
  else .ok (.whole (Browser.defaultWidth / 2), .whole (Browser.defaultHeight / 2))

def nudge (page : Nat) : Check τ Unit := do
  let (x, y) ← Check.ofFault (middle (← Check.page page).script.viewport)
  Check.clickAt page x y

def cameraButtonText : String := "share your camera"

/-- Letters are alike in either case; the long s is an s. -/
def alike (letter c : Char) : Bool :=
  c.toLower == letter || (letter == 's' && c == Char.ofNat 0x17F)

def startsAlike : List Char → List Char → Bool
  | [], _ => true
  | _ :: _, [] => false
  | p :: ps, c :: cs => alike p c && startsAlike ps cs

def holdsAlike (pattern : List Char) : List Char → Bool
  | [] => pattern.isEmpty
  | c :: r => startsAlike pattern (c :: r) || holdsAlike pattern r

def isCameraButton (b : Button) : Bool := holdsAlike cameraButtonText.toList b.text.toList

/-- Looks for the camera button; a page that cannot be looked at does not show it. -/
def seesCameraButton (page : Nat) (finder : Finder) : Check τ Bool := do
  Check.record (.look page finder)
  let button := (← Check.page page).script.button finder
  pure (match button.visible with
    | .ok visible => visible && isCameraButton button
    | .error _ => false)

def clickButton (page : Nat) (finder : Finder) (timeoutMs : Int) : Check τ Unit := do
  Check.record (.clickButton page finder timeoutMs)
  Check.failWith ((← Check.page page).script.button finder).clickFailure

inductive Click
  | unneeded
  | done
  | refused (message : String)
  deriving DecidableEq

namespace Click

def attempted : Click → Bool
  | unneeded => false
  | _ => true

def succeeded : Click → Bool
  | done => true
  | _ => false

def error? : Click → Option String
  | refused message => some message
  | _ => none

def toJson (c : Click) : Value :=
  .record [
    ("attempted", .bool c.attempted), ("succeeded", .bool c.succeeded),
    ("error", .ofOption .text c.error?)]

end Click

def clickTimeoutMs : Int := 3000

def clickFound (page : Nat) (finder : Finder) (timeoutMs : Int) : Check τ Click := do
  match ← Check.refusal? (clickButton page finder timeoutMs) with
  | some message =>
    Check.log .warning .session s!"Could not click 'share your camera': {message}"
    pure (.refused message)
  | none =>
    Check.log .info .session "Clicked 'share your camera'"
    pure .done

def clickShareCamera (page : Nat) (timeoutMs : Int) : Check τ Click := do
  if ← seesCameraButton page .role then clickFound page .role timeoutMs
  else if ← seesCameraButton page .text then clickFound page .text timeoutMs
  else
    Check.log .debug .session "No 'share your camera' button visible; assuming autostart"
    pure .unneeded

def takeScreenshot (page : Nat) (path : String) : Check τ (Option String) := do
  match ← Check.refusal? (Check.screenshot page path) with
  | some message =>
    Check.log .warning .session s!"Screenshot to {path} failed: {message}"
    pure (some message)
  | none =>
    Check.log .info .session s!"Saved screenshot {path}"
    pure none

def openLink (page : Nat) (address : String) : Check τ Unit := do
  match ← navigate page address navigationTimeoutMs with
  | some reason => throw (.navigation address reason)
  | none => pure ()

def startupWaitMs : Int := 12000
def settleMs : Int := 7000

def startPublisher (page : Nat) (address : String) (startupWaitMs settleMs : Option Int) :
    Check τ Click := do
  openLink page address
  Check.wait page startupWaitMs
  let click ← clickShareCamera page clickTimeoutMs
  nudge page
  Check.wait page settleMs
  pure click

def openViewer (page : Nat) (address : String) : Check τ Unit := do
  openLink page address
  nudge page

end StreamWatch.Session
