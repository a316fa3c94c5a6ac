import StreamWatch.Browser.Check

/-! Sampling a page. A sample is one evaluation; what cannot be read, or has an address
that cannot be shown, halts the check. -/
namespace StreamWatch.Session

open Browser (Check)
open Sample (Snapshot)

variable {τ : Type}

def logSnapshot (s : Snapshot) : Check τ Unit := do
  let address ← Check.ofFault s.address.display
  Check.forEach (fun error => Check.log .debug .probe s!"getStats() failed on {address}: {error}")
    s.errors
  let videos := s.videos.length
  let peers := s.peers.length
  Check.log .debug .probe s!"Snapshot {address}: {videos} video(s), {peers} peer connection(s)"

def collect (page : Nat) : Check τ Snapshot := do
  let snapshot ← Check.ofFault (Snapshot.ofAnswer (← Check.evaluate page))
  logSnapshot snapshot
  pure snapshot

def collectPair (page : Nat) (gapMs : Option Int) : Check τ (Snapshot × Snapshot) := do
  let first ← collect page
  Check.wait page gapMs
  let second ← collect page
  pure (first, second)

end StreamWatch.Session
