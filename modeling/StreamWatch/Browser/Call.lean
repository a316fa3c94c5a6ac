import StreamWatch.Browser.Script

/-! The calls a check makes on browsers, contexts and pages, each of which is known by its number in
the order of creation. A call that creates something carries the number that it gets. -/
namespace StreamWatch.Browser

inductive Call
  | launch (engine : Engine) (headless fakeMedia : Bool)
  | newContext (browser context : Nat) (publisher : Bool)
  | closeBrowser (browser : Nat)
  | newPage (context page : Nat)
  | collectInContext (context : Nat)
  | closeContext (context : Nat)
  | collectInPage (page : Nat)
  | goto (page : Nat) (address : String) (timeoutMs : Int)
  | reload (page : Nat) (timeoutMs : Int)
  | evaluate (page : Nat)
  | wait (page : Nat) (ms : Option Int)
  | clickAt (page : Nat) (x y : Coordinate)
  | look (page : Nat) (finder : Finder)
  | clickButton (page : Nat) (finder : Finder) (timeoutMs : Int)
  | screenshot (page : Nat) (path : String)
  | closePage (page : Nat)
  deriving DecidableEq

namespace Call

def autoplaySwitches : List String := ["--autoplay-policy=no-user-gesture-required"]

def fakeMediaSwitches : List String := autoplaySwitches ++ [
  "--use-fake-ui-for-media-stream", "--use-fake-device-for-media-stream",
  "--allow-http-screen-capture"]

def switches (fakeMedia : Bool) : List String :=
  if fakeMedia then fakeMediaSwitches else autoplaySwitches

def fakeMediaPreferences : List (String × Json.Value) := [
  ("media.autoplay.default", .int 0), ("media.navigator.permission.disabled", .bool true),
  ("media.navigator.streams.fake", .bool true)]

def publisherPermissions : List String := ["camera", "microphone"]

def loadEvent : String := "domcontentloaded"

end Call
end StreamWatch.Browser
