import StreamWatch.Session.Page
import StreamWatch.Session.Probe

/-! Polling pages until all of them are ready. A round samples every page once, in order. After a
round that was not ready the first page waits, for the next interval or for what is left of the
timeout; once the timeout is reached the check halts. Waits that can pass bound the number of
rounds. -/
namespace StreamWatch.Poll

open Browser (Check Timeline)
open Sample (Snapshot)

variable {τ : Type} [Timeline τ]

def defaultLabel : String := "viewer"

def shortfall (s : Snapshot) : Except Fault String := do
  let tracks := Session.truth s.hasTracks
  let metadata := Session.truth s.hasMetadata
  let inbound ← Numeral.shown s.inboundBytes
  pure s!"tracks={tracks} metadata={metadata} inbound={inbound}"

def waitOnFirst (pages : List Nat) (ms : Int) : Check τ Unit :=
  match pages with
  | [] => pure ()
  | first :: _ => Check.wait first ms

def elapsed (started : τ) : Check τ τ := return Timeline.elapsed started (← get).clock

/-- One round and the wait after it; the answer is the snapshots, if all pages are ready. -/
def round (settings : Settings) (limits : Limits) (label : String) (pages : List Nat)
    (started : τ) (attempt : Nat) : Check τ (Option (List Snapshot)) := do
  let snapshots ← Check.each Session.collect pages
  if snapshots.all settings.isReady then
    -- A span of binary seconds is far within the digit limit.
    let ms := Numeral.decimal (← Check.ofFault (Timeline.whole (← elapsed started)))
    let samples := attempt + 1
    Check.log .info .liveness s!"{label} live after {ms}ms ({samples} sample(s))"
    pure (some snapshots)
  else
    let lacks := String.intercalate "; " (← Check.ofFault (snapshots.mapM shortfall))
    Check.log .debug .liveness s!"{label} not ready yet: {lacks}"
    let span ← elapsed started
    let timeoutMs ← Check.given limits.timeoutMs
    if Timeline.reaches span timeoutMs then
      let limit ← Check.ofFault (Numeral.shown timeoutMs)
      Check.log .warning .liveness s!"{label} did not become live within {limit}ms"
      throw (.notLive label timeoutMs snapshots)
    else
      let left ← Check.ofFault (Timeline.left timeoutMs span)
      waitOnFirst pages (min (← Check.given (limits.intervalMs attempt)) left)
      pure none

def rounds (settings : Settings) (limits : Limits) (label : String) (pages : List Nat)
    (started : τ) : Nat → Nat → Check τ (List Snapshot)
  | 0, attempt => do
    match ← round settings limits label pages started attempt with
    | some snapshots => pure snapshots
    | none => throw (.browser Browser.waitLimitReached)
  | waits + 1, attempt => do
    match ← round settings limits label pages started attempt with
    | some snapshots => pure snapshots
    | none => rounds settings limits label pages started waits (attempt + 1)

def waitsLeft (pages : List Nat) : Check τ Nat :=
  match pages with
  | [] => pure 0
  | first :: _ => return (← Check.page first).waitsLeft

def untilLiveWithin (limits : Limits) (settings : Settings) (label : String)
    (pages : List Nat) : Check τ (List Snapshot) := do
  rounds settings limits label pages (← get).clock (← waitsLeft pages) 0

def untilLive (settings : Settings) : String → List Nat → Check τ (List Snapshot) :=
  untilLiveWithin settings.limits settings

end StreamWatch.Poll
