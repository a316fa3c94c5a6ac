import Mathlib.Algebra.Order.BigOperators.Group.List
import Mathlib.Algebra.Order.Ring.Int
import StreamWatch.Verdict.Basic

/-! The media of a snapshot, spelled out. Bytes are sums over the connections of a page, so they
follow from what every single one adds; a failed connection adds nothing. Readiness is four demands
on these sums and on the tracks and frames of the videos. -/
namespace StreamWatch

namespace Sample

namespace Peer

def inboundVideo (p : Peer) : Int := p.counters.inboundVideo.getD 0

theorem inbound_eq (p : Peer) : p.inbound = p.inboundVideo + p.inboundAudio := rfl

variable {count : Peer → Int} {peers : List Peer}

theorem total_eq_sum (count : Peer → Int) (peers : List Peer) :
    total count peers = (peers.map count).sum := by
  rw [total, List.sum, List.foldr_map]

theorem total_append (count : Peer → Int) (peers more : List Peer) :
    total count (peers ++ more) = total count peers + total count more := by
  simp only [total_eq_sum, List.map_append, List.sum_append]

theorem total_perm (count : Peer → Int) {peers peers' : List Peer} (h : peers'.Perm peers) :
    total count peers' = total count peers := by
  simp only [total_eq_sum, (h.map count).sum_eq]

theorem total_le_total {more : Peer → Int} (h : ∀ p ∈ peers, count p ≤ more p) :
    total count peers ≤ total more peers := by
  rw [total_eq_sum, total_eq_sum]
  exact List.sum_le_sum h

theorem total_nonneg (h : ∀ p ∈ peers, 0 ≤ count p) : 0 ≤ total count peers := by
  rw [total_eq_sum]
  exact List.sum_nonneg (List.forall_mem_map.mpr h)

theorem exists_pos_of_total_pos (h : 0 < total count peers) : ∃ p ∈ peers, 0 < count p := by
  by_contra none
  have below : ∀ p ∈ peers, count p ≤ 0 := fun p hp => not_lt.mp fun pos => none ⟨p, hp, pos⟩
  have nothing : total (fun _ => 0) peers = 0 := by simp [total_eq_sum]
  have := total_le_total below
  omega

end Peer

namespace Snapshot

theorem hasTracks_iff (s : Snapshot) :
    s.hasTracks = true ↔ s.hasAudioTrack = true ∨ s.hasVideoTrack = true := by
  simp only [hasTracks, hasAudioTrack, hasVideoTrack, List.any_eq_true, Bool.or_eq_true,
    ← exists_or, ← and_or_left]
  exact exists_congr fun v => and_congr_right fun _ => or_comm

structure SameAnswers (s t : Snapshot) : Prop where
  tracks : t.hasTracks = s.hasTracks
  audioTrack : t.hasAudioTrack = s.hasAudioTrack
  videoTrack : t.hasVideoTrack = s.hasVideoTrack
  metadata : t.hasMetadata = s.hasMetadata
  inbound : t.inboundBytes = s.inboundBytes
  inboundAudio : t.inboundAudioBytes = s.inboundAudioBytes
  receives : t.hasInboundBytes = s.hasInboundBytes

theorem SameAnswers.isReady {s t : Snapshot} (h : s.SameAnswers t) (settings : Poll.Settings) :
    settings.isReady t = settings.isReady s := by
  simp only [Poll.Settings.isReady, h.tracks, h.metadata, h.inbound, h.inboundAudio]

end Snapshot

end Sample

theorem Verdict.ofSnapshots_congr {s s' t t' : Sample.Snapshot} (h : t.SameAnswers t')
    (played : s'.playbackAdvanced t' Playback.threshold = s.playbackAdvanced t Playback.threshold) :
    ofSnapshots s' t' = ofSnapshots s t := by
  simp only [ofSnapshots, isActive, h.tracks, h.metadata, h.audioTrack, h.videoTrack, h.receives,
    h.inbound, h.inboundAudio, played]

theorem Poll.Settings.isReady_iff (settings : Poll.Settings) (s : Sample.Snapshot) :
    settings.isReady s = true ↔
      s.hasTracks = true ∧ (settings.requireMetadata = true → s.hasMetadata = true) ∧
      settings.minInboundBytes < s.inboundBytes ∧
      (settings.requireAudio = true → settings.minInboundAudioBytes < s.inboundAudioBytes) := by
  cases hm : settings.requireMetadata <;> cases ha : settings.requireAudio <;>
    simp [isReady, hm, ha, and_assoc]

end StreamWatch
