import StreamWatch.Environment
import StreamWatch.Numeral.Integer
import StreamWatch.Text.Pieces
import StreamWatch.Sample.Snapshot

/-! How long and how often a page is sampled, and what it has to show to be ready. Each setting
comes from an override, else from its variable, else from its default. -/
namespace StreamWatch.Poll

open Sample (Snapshot)

structure Settings where
  timeoutMs : Int := 70000
  intervalsMs : List Int := [1000, 2000, 3000]
  minInboundBytes : Int := 5000
  minInboundAudioBytes : Int := 500
  requireAudio : Bool := false
  requireMetadata : Bool := true
  sampleGapMs : Int := 7000
  deriving DecidableEq

structure Overrides where
  timeoutMs : Option Int := none
  intervalsMs : Option (List Int) := none
  minInboundBytes : Option Int := none
  minInboundAudioBytes : Option Int := none
  requireAudio : Option Bool := none
  requireMetadata : Option Bool := none
  sampleGapMs : Option Int := none

/-- What bounds a poll: its timeout and the wait after each round. What was left without a value is
refused when it is needed. -/
structure Limits where
  timeoutMs : Option Int
  intervalMs : Nat → Option Int

namespace Settings

def number? (env : Environment) (name : String) : Except Fault (Option Int) :=
  match env.nonEmpty? name with
  | none => .ok none
  | some s => (Numeral.Integer.read 10 s.toList).map some

def readAll : List (List Char) → Except Fault (List Int)
  | [] => .ok []
  | s :: r => do
    let n ← Numeral.Integer.read 10 s
    let ns ← readAll r
    pure (n :: ns)

def readList (s : List Char) : Except Fault (List Int) :=
  readAll ((Text.pieces ',' s).filter fun piece => Text.trim piece ≠ [])

def numbers? (env : Environment) (name : String) : Except Fault (Option (List Int)) :=
  match env.nonEmpty? name with
  | none => .ok none
  | some s => (readList s.toList).map some

def ofEnvironment (env : Environment) (overrides : Overrides) : Except Fault Settings := do
  let timeoutMs ← number? env "VDO_POLL_TIMEOUT_MS"
  let intervalsMs ← numbers? env "VDO_POLL_INTERVALS_MS"
  let minInboundBytes ← number? env "VDO_MIN_INBOUND_BYTES"
  let minInboundAudioBytes ← number? env "VDO_MIN_INBOUND_AUDIO_BYTES"
  let sampleGapMs ← number? env "VDO_SAMPLE_GAP_MS"
  let requireAudio := (env.nonEmpty? "VDO_REQUIRE_AUDIO").map fun _ => env.flag "VDO_REQUIRE_AUDIO"
  let base : Settings := {}
  pure {
    timeoutMs := (overrides.timeoutMs.or timeoutMs).getD base.timeoutMs
    intervalsMs := (overrides.intervalsMs.or intervalsMs).getD base.intervalsMs
    minInboundBytes := (overrides.minInboundBytes.or minInboundBytes).getD base.minInboundBytes
    minInboundAudioBytes :=
      (overrides.minInboundAudioBytes.or minInboundAudioBytes).getD base.minInboundAudioBytes
    requireAudio := (overrides.requireAudio.or requireAudio).getD base.requireAudio
    requireMetadata := overrides.requireMetadata.getD base.requireMetadata
    sampleGapMs := (overrides.sampleGapMs.or sampleGapMs).getD base.sampleGapMs }

/-- The wait before round `attempt + 1`; the last interval repeats. -/
def interval (s : Settings) (attempt : Nat) : Int :=
  match s.intervalsMs with
  | [] => 1000
  | first :: more => (first :: more).getD attempt (more.getLastD first)

def intervalFor (s : Settings) (attempt : Int) : Except Fault Int :=
  if s.intervalsMs = [] ∨ 0 ≤ attempt then .ok (s.interval attempt.toNat)
  else match s.intervalsMs.reverse[attempt.natAbs - 1]? with
    | some ms => .ok ms
    | none => .error .outsideList

def limits (s : Settings) : Limits where
  timeoutMs := some s.timeoutMs
  intervalMs attempt := some (s.interval attempt)

def isReady (settings : Settings) (s : Snapshot) : Bool :=
  s.hasTracks && (!settings.requireMetadata || s.hasMetadata) &&
    s.inboundBytes > settings.minInboundBytes &&
    (!settings.requireAudio || s.inboundAudioBytes > settings.minInboundAudioBytes)

end Settings
end StreamWatch.Poll
