import StreamWatch.Proofs.Sample.RoundTrip
import StreamWatch.Proofs.Verdict.Media

/-! Checks on a snapshot that was written and read again. It agrees with the one that was written in
all but the sign of a zero time, and so does every answer about it: the media it shows, whether it
is ready, whether playback moved on, and the verdict. -/
namespace StreamWatch

open Json (Value)
open Numeral.Binary64 (IsZero)
open Sample (Snapshot Video settledTime)

theorem isZero_settledTime {x : Float} (h : settledTime x ≠ x) :
    IsZero x ∧ IsZero (settledTime x) := by
  rcases Sample.settledTime_eq x with hx | ⟨hx, hs⟩
  · exact absurd hx h
  · rw [hs, hx]
    exact ⟨⟨.negative, rfl⟩, Numeral.Binary64.isZero_zero⟩

theorem settledTime_add_lt_iff (x t z : Float) : settledTime x + t < z ↔ x + t < z := by
  by_cases h : settledTime x = x
  · rw [h]
  · obtain ⟨hx, hs⟩ := isZero_settledTime h
    exact Numeral.Binary64.zero_add_lt_iff hs hx t z

theorem lt_settledTime_iff (x t : Float) : t < settledTime x ↔ t < x := by
  by_cases h : settledTime x = x
  · rw [h]
  · obtain ⟨hx, hs⟩ := isZero_settledTime h
    exact Numeral.Binary64.lt_zero_iff hs hx t

namespace Playback

section

variable {ρ σ : Type}

theorem lastTime?_map (f : ρ → σ) (index : Int) (times : List (Int × ρ)) :
    lastTime? index (times.map fun p => (p.1, f p.2)) = (lastTime? index times).map f := by
  simp [lastTime?, ← List.map_reverse, List.find?_map, Function.comp_def]

theorem matched_map (f : ρ → σ) (before after : List (Int × ρ)) :
    matched (before.map fun p => (p.1, f p.2)) (after.map fun p => (p.1, f p.2)) =
      matched before after := by
  simp [matched, lastTime?_map, Function.comp_def]

theorem advanced_iff [Add ρ] [LT ρ] [DecidableLT ρ] {threshold : ρ}
    {before after : List (Int × ρ)} :
    advanced threshold before after = true ↔
      ∃ p ∈ after, ∃ earlier, lastTime? p.1 before = some earlier ∧ earlier + threshold < p.2 := by
  rw [advanced, List.any_eq_true]
  refine exists_congr fun p => and_congr_right fun _ => ?_
  cases h : lastTime? p.1 before with
  | none => simp [h]
  | some earlier => simp [h]

end

theorem advanced_settledTime (threshold : Float) (before after : List (Int × Float)) :
    advanced threshold (before.map fun p => (p.1, settledTime p.2))
      (after.map fun p => (p.1, settledTime p.2)) = advanced threshold before after := by
  -- Times are only ever compared, and no comparison sees the sign of a zero.
  rw [Bool.eq_iff_iff, advanced_iff, advanced_iff]
  simp only [lastTime?_map, List.mem_map, Option.map_eq_some_iff]
  constructor
  · rintro ⟨_, ⟨p, hp, rfl⟩, _, ⟨earlier, hl, rfl⟩, h⟩
    rw [settledTime_add_lt_iff, lt_settledTime_iff] at h
    exact ⟨p, hp, earlier, hl, h⟩
  · rintro ⟨p, hp, earlier, hl, h⟩
    rw [← settledTime_add_lt_iff, ← lt_settledTime_iff] at h
    exact ⟨_, ⟨p, hp, rfl⟩, _, ⟨earlier, hl, rfl⟩, h⟩

end Playback

namespace Sample.Snapshot

theorem times_settled (s : Snapshot) :
    s.settled.times = s.times.map fun p => (p.1, settledTime p.2) := by
  simp [times, settled, Video.settled]

theorem playbackAdvanced_settled (s t : Snapshot) (threshold : Float) :
    s.settled.playbackAdvanced t.settled threshold = s.playbackAdvanced t threshold := by
  simp only [playbackAdvanced, times_settled, Playback.advanced_settledTime]

theorem playbackAdvancedBy_settled (s t : Snapshot) (threshold : Value) :
    s.settled.playbackAdvancedBy t.settled threshold = s.playbackAdvancedBy t threshold := by
  have h : s.settled.playbackAdvanced t.settled = s.playbackAdvanced t :=
    funext (playbackAdvanced_settled s t)
  rw [playbackAdvancedBy, playbackAdvancedBy, h, times_settled, times_settled,
    Playback.matched_map]

structure SameMedia (s t : Snapshot) : Prop where
  tracks : t.hasTracks = s.hasTracks
  audioTrack : t.hasAudioTrack = s.hasAudioTrack
  videoTrack : t.hasVideoTrack = s.hasVideoTrack
  metadata : t.hasMetadata = s.hasMetadata
  inbound : t.inboundBytes = s.inboundBytes
  inboundAudio : t.inboundAudioBytes = s.inboundAudioBytes
  outbound : t.outboundBytes = s.outboundBytes
  receives : t.hasInboundBytes = s.hasInboundBytes
  errors : t.errors = s.errors

theorem sameMedia_settled (s : Snapshot) : s.SameMedia s.settled where
  tracks := List.any_map
  audioTrack := List.any_map
  videoTrack := List.any_map
  metadata := List.any_map
  inbound := rfl
  inboundAudio := rfl
  outbound := rfl
  receives := rfl
  errors := rfl

theorem SameMedia.sameAnswers {s t : Snapshot} (h : s.SameMedia t) : s.SameAnswers t :=
  ⟨h.tracks, h.audioTrack, h.videoTrack, h.metadata, h.inbound, h.inboundAudio, h.receives⟩

theorem SameMedia.isReady {s t : Snapshot} (h : s.SameMedia t) (settings : Poll.Settings) :
    settings.isReady t = settings.isReady s := h.sameAnswers.isReady settings

end Sample.Snapshot

theorem Verdict.ofSnapshots_settled (s t : Snapshot) :
    Verdict.ofSnapshots s.settled t.settled = Verdict.ofSnapshots s t :=
  ofSnapshots_congr t.sameMedia_settled.sameAnswers
    (Sample.Snapshot.playbackAdvanced_settled s t Playback.threshold)

/-- Two videos alike in all but their times, which are the same too, or zeros with the negative one
first. -/
structure Sample.Video.Agrees (v w : Video) : Prop where
  others : { w with time := v.time } = v
  time : w.time = v.time ∨ v.time = -0.0 ∧ w.time = 0.0

structure Sample.Snapshot.Agrees (s t : Snapshot) : Prop where
  others : { t with videos := s.videos } = s
  videos : List.Forall₂ Video.Agrees s.videos t.videos

namespace Sample.Snapshot

theorem agrees_settled (s : Snapshot) : s.Agrees s.settled := by
  refine ⟨rfl, ?_⟩
  simp only [settled, List.forall₂_map_right_iff]
  exact List.forall₂_same.mpr fun v _ => ⟨rfl, settledTime_eq v.time⟩

/-- What a snapshot writes can be read. The answer agrees with it and comes back unchanged from
there on, and no question about one snapshot or two tells them apart. -/
theorem ofJson_toJson {v : Value} {s : Snapshot} (h : ofJson v = .ok s) :
    ∃ s', ofJson s.toJson = .ok s' ∧ s.Agrees s' ∧ ofJson s'.toJson = .ok s' ∧ s.SameMedia s' ∧
      (∀ settings : Poll.Settings, settings.isReady s' = settings.isReady s) ∧
      ∀ w t t', ofJson w = .ok t → ofJson t.toJson = .ok t' →
        Verdict.ofSnapshots s' t' = Verdict.ofSnapshots s t ∧
        (∀ threshold, s'.playbackAdvanced t' threshold = s.playbackAdvanced t threshold) ∧
        ∀ threshold, s'.playbackAdvancedBy t' threshold = s.playbackAdvancedBy t threshold := by
  have hs := readable_of_ofJson h
  have again := ofJson_toJson_of_readable hs.settled
  rw [settled_settled] at again
  refine ⟨s.settled, ofJson_toJson_of_readable hs, s.agrees_settled, again, s.sameMedia_settled,
    s.sameMedia_settled.isReady, ?_⟩
  intro w t t' ht ht'
  rw [ofJson_toJson_of_readable (readable_of_ofJson ht)] at ht'
  cases ht'
  exact ⟨Verdict.ofSnapshots_settled s t, playbackAdvanced_settled s t,
    playbackAdvancedBy_settled s t⟩

theorem ofJson_toJson_negativeZero :
    let v : Value := .record [("url", .int 0), ("title", .list [.null]), ("videoElements", .list [
      .record [("currentTime", .text " -0.0"), ("paused", .text ""), ("readyState", .bool true)]]),
      ("pcStats", .list [.record [("error", .bool false)], .record [("state", .float 0.5)]])]
    let s : Snapshot := {
      timestamp := 0, address := .text "", title := .list [.null]
      videos := [{ index := 0, time := -0.0, readyState := some 1, paused := some (.text "") }]
      peers := [.failed "False", .connected { state := .float 0.5 }] }
    ofJson v = .ok s ∧
      ∃ s', ofJson s.toJson = .ok s' ∧ s.Agrees s' ∧ ofJson s'.toJson = .ok s' := by
  intro v s
  have h : ofJson v = .ok s := rfl
  obtain ⟨s', hs, agrees, again, -⟩ := ofJson_toJson h
  exact ⟨h, s', hs, agrees, again⟩

end Sample.Snapshot
end StreamWatch
