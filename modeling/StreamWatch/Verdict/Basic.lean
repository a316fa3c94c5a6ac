import StreamWatch.Poll.Settings
import StreamWatch.Verdict.Playback

/-! The verdict on a viewer from two of its snapshots, and the checks of a live viewer that it fails
under given settings. -/
namespace StreamWatch

open Sample (Snapshot)

structure Verdict where
  hasTracks : Bool
  hasMetadata : Bool
  hasAudioTrack : Bool
  hasVideoTrack : Bool
  hasInboundBytes : Bool
  inboundBytes : Int
  inboundAudioBytes : Int
  playbackAdvanced : Bool
  mediaActive : Bool
  deriving DecidableEq

namespace Verdict

def isActive (before after : Snapshot) : Bool :=
  before.playbackAdvanced after Playback.threshold ||
    (after.inboundBytes > 0 && (after.hasVideoTrack || after.hasAudioTrack))

def ofSnapshots (before after : Snapshot) : Verdict where
  hasTracks := after.hasTracks
  hasMetadata := after.hasMetadata
  hasAudioTrack := after.hasAudioTrack
  hasVideoTrack := after.hasVideoTrack
  hasInboundBytes := after.hasInboundBytes
  inboundBytes := after.inboundBytes
  inboundAudioBytes := after.inboundAudioBytes
  playbackAdvanced := before.playbackAdvanced after Playback.threshold
  mediaActive := isActive before after

inductive Failure
  | noTracks
  | noMetadata
  | fewBytes (found floor : Int)
  | fewAudioBytes (found floor : Int)
  | stalled
  deriving DecidableEq

def comparison (found floor : Int) : Except Fault String := do
  let found ← Numeral.shown found
  let floor ← Numeral.shown floor
  pure s!"{found} <= {floor}"

def Failure.message : Failure → Except Fault String
  | noTracks => .ok "no media tracks"
  | noMetadata => .ok "no video metadata"
  | fewBytes found floor => (comparison found floor).map ("inbound bytes " ++ ·)
  | fewAudioBytes found floor => (comparison found floor).map ("inbound audio bytes " ++ ·)
  | stalled => .ok "playback did not advance"

def failures (v : Verdict) (settings : Poll.Settings) : List Failure :=
  (if v.hasTracks then [] else [.noTracks]) ++
  (if settings.requireMetadata && !v.hasMetadata then [.noMetadata] else []) ++
  (if v.inboundBytes ≤ settings.minInboundBytes then
    [.fewBytes v.inboundBytes settings.minInboundBytes] else []) ++
  (if settings.requireAudio && v.inboundAudioBytes ≤ settings.minInboundAudioBytes then
    [.fewAudioBytes v.inboundAudioBytes settings.minInboundAudioBytes] else []) ++
  (if v.playbackAdvanced then [] else [.stalled])

def complaints (v : Verdict) (settings : Poll.Settings) : Except Fault (List String) :=
  (v.failures settings).mapM Failure.message

def toJson (v : Verdict) : Json.Value :=
  .record [
    ("hasTracks", .bool v.hasTracks), ("hasMetadata", .bool v.hasMetadata),
    ("hasAudioTrack", .bool v.hasAudioTrack), ("hasVideoTrack", .bool v.hasVideoTrack),
    ("hasInboundBytes", .bool v.hasInboundBytes), ("inboundBytes", .int v.inboundBytes),
    ("inboundAudioBytes", .int v.inboundAudioBytes),
    ("playbackAdvanced", .bool v.playbackAdvanced), ("mediaActive", .bool v.mediaActive)]

end Verdict
end StreamWatch
