import StreamWatch.Sample.Peer
import StreamWatch.Sample.Video

/-! What a page looks like at one moment: its video elements and peer connections, with its address,
title and the start of its text, and what that says about its media: tracks, frame sizes and bytes.
`ofJson` reads the value a page's script returns, `toJson` writes it for a report. -/
namespace StreamWatch.Sample

open Json (Value)

structure Snapshot where
  timestamp : Int
  address : Value
  videos : List Video := []
  peers : List Peer := []
  title : Value := .text ""
  text : Value := .text ""
  waiting : Bool := false

namespace Snapshot

def readVideos (place : Int) : List Value → Except Fault (List Video)
  | [] => .ok []
  | v :: r => do
    let video ← Video.ofJson v place
    let rest ← readVideos (place + 1) r
    pure (video :: rest)

def readPeers : List Value → Except Fault (List Peer)
  | [] => .ok []
  | v :: r => do
    let peer ← Peer.ofJson v
    let rest ← readPeers r
    pure (peer :: rest)

def orEmptyText (v : Value) : Value := v.orElse (.text "")

def orEmptyList (v : Value) : Value := v.orElse (.list [])

/-- The video elements stand under either of two names; the first one has to be null for the other
to count. -/
def videosField (fields : List (String × Value)) : Value :=
  let videos := Value.field "videos" fields
  if videos.isNull then orEmptyList (Value.field "videoElements" fields) else videos

def ofFields (fields : List (String × Value)) : Except Fault Snapshot := do
  let timestamp ← counter (Value.field "timestamp" fields)
  let videos ← readVideos 0 (← itemsOf (videosField fields))
  let peers ← readPeers (← itemsOf (orEmptyList (Value.field "pcStats" fields)))
  pure {
    timestamp, videos, peers
    address := orEmptyText (Value.field "url" fields)
    title := orEmptyText (Value.field "title" fields)
    text := orEmptyText (Value.field "textSample" fields)
    waiting := (Value.field "containsWaitingText" fields).isPresent }

def ofJson (v : Value) : Except Fault Snapshot := do
  ofFields (← fieldsOf v)

def ofAnswer (v : Value) : Except Fault Snapshot := ofJson (v.orElse (.record []))

def errors (s : Snapshot) : List String := s.peers.filterMap Peer.error?

def hasAudioTrack (s : Snapshot) : Bool := s.videos.any (·.audioTracks > 0)

def hasVideoTrack (s : Snapshot) : Bool := s.videos.any (·.videoTracks > 0)

def hasTracks (s : Snapshot) : Bool := s.videos.any fun v => v.videoTracks > 0 || v.audioTracks > 0

def hasMetadata (s : Snapshot) : Bool := s.videos.any fun v => v.width > 0 && v.height > 0

def inboundBytes (s : Snapshot) : Int := Peer.total Peer.inbound s.peers

def inboundAudioBytes (s : Snapshot) : Int := Peer.total Peer.inboundAudio s.peers

def outboundBytes (s : Snapshot) : Int := Peer.total Peer.outbound s.peers

def hasInboundBytes (s : Snapshot) : Bool := s.peers.any Peer.receives

def toJson (s : Snapshot) : Value :=
  .record [
    ("url", s.address), ("title", s.title), ("textSample", s.text),
    ("containsWaitingText", .bool s.waiting), ("videos", .list (s.videos.map Video.toJson)),
    ("pcStats", .list (s.peers.map Peer.toJson)), ("timestamp", .int s.timestamp)]

end Snapshot
end StreamWatch.Sample
