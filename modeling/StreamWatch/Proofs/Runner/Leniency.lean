import StreamWatch.Proofs.Scenario.Discipline
import StreamWatch.Proofs.Verdict.Media
import StreamWatch.Proofs.Verdict.Readiness
import StreamWatch.Runner.Matrix

/-! The notions of liveness, from the strict to the lenient. A poll asks for tracks and for more
bytes than a floor, the verdict for playback as well, and the check of many links for playback alone
or for any bytes and a track. So whatever the verdict accepts counts as active there, and so does
what a poll accepts, as long as its floor is not below zero. -/
namespace StreamWatch

open Browser (Timeline World)
open Sample (Peer Snapshot)

namespace Sample

theorem Peer.receives_of_pos {p : Peer} (h : 0 < p.inbound) : p.receives = true := by
  have video : p.counters.inboundVideo.getD 0 = p.inboundVideo := rfl
  rw [Peer.inbound_eq] at h
  simp only [Peer.receives, video, Bool.or_eq_true, decide_eq_true_eq, gt_iff_lt]
  omega

namespace Snapshot

variable {s : Snapshot}

theorem hasInboundBytes_of_pos (h : 0 < s.inboundBytes) : s.hasInboundBytes = true := by
  obtain ⟨p, hp, pos⟩ := Peer.exists_pos_of_total_pos h
  exact List.any_eq_true.mpr ⟨p, hp, Peer.receives_of_pos pos⟩

theorem inboundAudioBytes_le (counted : ∀ p ∈ s.peers, 0 ≤ p.inboundVideo) :
    s.inboundAudioBytes ≤ s.inboundBytes := by
  refine Peer.total_le_total fun p hp => ?_
  have := counted p hp
  rw [Peer.inbound_eq]
  omega

end Snapshot

end Sample

namespace Verdict

variable {settings : Poll.Settings} {before after : Snapshot}

theorem isActive_iff :
    isActive before after = true ↔
      before.playbackAdvanced after Playback.threshold = true ∨
        0 < after.inboundBytes ∧ after.hasTracks = true := by
  simp only [isActive, Bool.or_eq_true, Bool.and_eq_true, decide_eq_true_eq, gt_iff_lt,
    Sample.Snapshot.hasTracks_iff, or_comm]

theorem inboundBytes_pos (floor : 0 ≤ settings.minInboundBytes)
    (ready : settings.isReady after = true) : 0 < after.inboundBytes := by
  obtain ⟨-, -, bytes, -⟩ := (settings.isReady_iff after).mp ready
  exact floor.trans_lt bytes

theorem isActive_of_isReady (floor : 0 ≤ settings.minInboundBytes)
    (ready : settings.isReady after = true) : isActive before after = true :=
  isActive_iff.mpr (.inr ⟨inboundBytes_pos floor ready, ((settings.isReady_iff after).mp ready).1⟩)

theorem isActive_of_accepted (h : (ofSnapshots before after).complaints settings = .ok []) :
    isActive before after = true := by
  rw [complaints_eq_nil_iff, failures_eq_nil_iff] at h
  exact isActive_iff.mpr (.inl h.2)

end Verdict

namespace Runner

variable {τ : Type} [Timeline τ]

theorem Matrix.Result.isActive_eq {r : Matrix.Result} {before after : Snapshot}
    (h : r.samples = .ok (before, after)) : r.isActive = Verdict.isActive before after := by
  simp only [isActive, holds, verdict?, h]
  rfl

/-- How the notions of liveness are ordered on two samples of a viewer, and that the check of many
links passes over nobody whom a poll or the strict verdict accepts. -/
theorem accepted_counts_as_active (settings : Poll.Settings) (before after : Snapshot) :
    let v := Verdict.ofSnapshots before after
    ((∀ p ∈ after.peers, 0 ≤ p.inboundVideo) → v.inboundAudioBytes ≤ v.inboundBytes) ∧
    (0 < v.inboundBytes → v.hasInboundBytes = true) ∧
    (v.hasTracks = true ↔ v.hasAudioTrack = true ∨ v.hasVideoTrack = true) ∧
    (v.mediaActive = true → v.playbackAdvanced = false →
      v.hasTracks = true ∧ v.hasInboundBytes = true) ∧
    (0 ≤ settings.minInboundBytes → settings.isReady after = true →
      v.mediaActive = true ∧ v.hasInboundBytes = true) ∧
    ∀ r : Matrix.Result, r.samples = .ok (before, after) →
      (v.complaints settings = .ok [] → r.isActive = true) ∧
      ∀ (limits : Poll.Limits) (label : String) (pages : List Nat) (snapshots : List Snapshot)
        (w w' : World τ), 0 ≤ settings.minInboundBytes →
        Poll.untilLiveWithin limits settings label pages w = (.ok snapshots, w') →
        after ∈ snapshots → r.isActive = true := by
  intro v
  refine ⟨Sample.Snapshot.inboundAudioBytes_le, Sample.Snapshot.hasInboundBytes_of_pos,
    after.hasTracks_iff, ?_, ?_, ?_⟩
  · intro active still
    obtain played | ⟨bytes, tracks⟩ := Verdict.isActive_iff.mp active
    · exact absurd played (Bool.eq_false_iff.mp still)
    · exact ⟨tracks, Sample.Snapshot.hasInboundBytes_of_pos bytes⟩
  · intro floor ready
    exact ⟨Verdict.isActive_of_isReady floor ready,
      Sample.Snapshot.hasInboundBytes_of_pos (Verdict.inboundBytes_pos floor ready)⟩
  · intro r sampled
    rw [Matrix.Result.isActive_eq sampled]
    refine ⟨Verdict.isActive_of_accepted, ?_⟩
    intro limits label pages snapshots w w' floor polled found
    exact Verdict.isActive_of_isReady floor ((Poll.live_of_untilLiveWithin polled).ready _ found)

def humming : World Rat :=
  (World.start 0 [{ samples := [.ok (.record [
    ("videos", .list [.record [("audioTracks", .int 1)]]),
    ("pcStats", .list [.record [("error", .text "closed")],
      .record [("inboundAudioBytes", .int 1)]])])] }]).addPage

theorem accepted_counts_as_active_humming :
    let settings : Poll.Settings := { minInboundBytes := 0, requireMetadata := false }
    let still : Snapshot := {
      timestamp := 0, address := .text "", videos := [{ index := 0, audioTracks := 1 }]
      peers := [.failed "closed", .connected { inboundAudio := some 1 }] }
    let r : Matrix.Result := {
      link := "https://vdo.ninja/?view=hum", opened := none, samples := .ok (still, still)
      path := "01_view_hum.png", pictured := none }
    ∃ w', Poll.untilLiveWithin settings.limits settings "hum" [0] humming = (.ok [still], w') ∧
      (∀ p ∈ still.peers, 0 ≤ p.inboundVideo) ∧
      (Verdict.ofSnapshots still still).inboundAudioBytes ≤
        (Verdict.ofSnapshots still still).inboundBytes ∧
      (Verdict.ofSnapshots still still).playbackAdvanced = false ∧ r.isActive = true := by
  intro settings still r
  have polled : Poll.untilLiveWithin settings.limits settings "hum" [0] humming = (.ok [still], _) :=
    rfl
  have counted : ∀ p ∈ still.peers, 0 ≤ p.inboundVideo := by decide
  obtain ⟨audio, -, -, -, -, checked⟩ := accepted_counts_as_active (τ := Rat) settings still still
  exact ⟨_, polled, counted, audio counted, by decide,
    (checked r rfl).2 _ _ _ _ _ _ (by decide) polled List.mem_cons_self⟩

end Runner
end StreamWatch
