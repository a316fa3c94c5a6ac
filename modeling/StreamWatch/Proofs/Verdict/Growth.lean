import StreamWatch.Proofs.Verdict.Media

/-! Readiness along a growing connection. Between two samples of one page the connections receive
more, elements gain tracks and frames, and new connections and elements come behind the old ones. No
sum then goes down and nothing that was there is lost, so a page that is ready stays ready. -/
namespace StreamWatch.Sample

inductive Grown {α : Type} (grows : α → α → Prop) (fresh : α → Prop) : List α → List α → Prop
  | more {ys : List α} (h : ∀ y ∈ ys, fresh y) : Grown grows fresh [] ys
  | cons {x y : α} {xs ys : List α} (h : grows x y) (rest : Grown grows fresh xs ys) :
      Grown grows fresh (x :: xs) (y :: ys)

structure Peer.Grows (p q : Peer) : Prop where
  video : p.inboundVideo ≤ q.inboundVideo
  audio : p.inboundAudio ≤ q.inboundAudio

structure Peer.Counted (p : Peer) : Prop where
  video : 0 ≤ p.inboundVideo
  audio : 0 ≤ p.inboundAudio

structure Video.Grows (v w : Video) : Prop where
  audioTracks : v.audioTracks ≤ w.audioTracks
  videoTracks : v.videoTracks ≤ w.videoTracks
  width : v.width ≤ w.width
  height : v.height ≤ w.height

structure Snapshot.Grows (s t : Snapshot) : Prop where
  peers : Grown Peer.Grows Peer.Counted s.peers t.peers
  videos : Grown Video.Grows (fun _ => True) s.videos t.videos

theorem Grown.total_le {count : Peer → Int} {ps qs : List Peer}
    (grows : ∀ p q, Peer.Grows p q → count p ≤ count q) (counted : ∀ p, p.Counted → 0 ≤ count p)
    (h : Grown Peer.Grows Peer.Counted ps qs) : Peer.total count ps ≤ Peer.total count qs := by
  induction h with
  | more h => exact Peer.total_nonneg fun p hp => counted p (h p hp)
  | cons h _ ih => exact Int.add_le_add (grows _ _ h) ih

theorem Grown.any {α : Type} {grows : α → α → Prop} {fresh : α → Prop} {f : α → Bool}
    (kept : ∀ x y, grows x y → f x = true → f y = true) {xs ys : List α}
    (h : Grown grows fresh xs ys) (hx : xs.any f = true) : ys.any f = true := by
  induction h with
  | more => cases hx
  | cons h _ ih =>
    rw [List.any_cons, Bool.or_eq_true] at hx ⊢
    exact hx.imp (kept _ _ h) ih

namespace Snapshot.Grows

variable {s t : Snapshot}

theorem inboundBytes (h : s.Grows t) : s.inboundBytes ≤ t.inboundBytes := by
  refine h.peers.total_le (fun p q grows => ?_) fun p counted => ?_
  · rw [Peer.inbound_eq, Peer.inbound_eq]
    exact Int.add_le_add grows.video grows.audio
  · rw [Peer.inbound_eq]
    exact Int.add_nonneg counted.video counted.audio

theorem inboundAudioBytes (h : s.Grows t) : s.inboundAudioBytes ≤ t.inboundAudioBytes :=
  h.peers.total_le (fun _ _ grows => grows.audio) fun _ counted => counted.audio

theorem hasAudioTrack (h : s.Grows t) : s.hasAudioTrack = true → t.hasAudioTrack = true :=
  h.videos.any fun v w grows hv => by
    have := grows.audioTracks
    simp only [gt_iff_lt, decide_eq_true_eq] at hv ⊢
    omega

theorem hasVideoTrack (h : s.Grows t) : s.hasVideoTrack = true → t.hasVideoTrack = true :=
  h.videos.any fun v w grows hv => by
    have := grows.videoTracks
    simp only [gt_iff_lt, decide_eq_true_eq] at hv ⊢
    omega

theorem hasTracks (h : s.Grows t) : s.hasTracks = true → t.hasTracks = true := by
  rw [hasTracks_iff, hasTracks_iff]
  exact Or.imp h.hasAudioTrack h.hasVideoTrack

theorem hasMetadata (h : s.Grows t) : s.hasMetadata = true → t.hasMetadata = true :=
  h.videos.any fun v w grows hv => by
    have := grows.width
    have := grows.height
    simp only [gt_iff_lt, Bool.and_eq_true, decide_eq_true_eq] at hv ⊢
    omega

theorem isReady (h : s.Grows t) (settings : Poll.Settings) (hs : settings.isReady s = true) :
    settings.isReady t = true := by
  rw [Poll.Settings.isReady_iff] at hs ⊢
  obtain ⟨tracks, metadata, bytes, audio⟩ := hs
  exact ⟨h.hasTracks tracks, fun asked => h.hasMetadata (metadata asked),
    bytes.trans_le h.inboundBytes, fun asked => (audio asked).trans_le h.inboundAudioBytes⟩

end Snapshot.Grows

namespace Snapshot

/-- Nothing that speaks for a viewer is lost while its connections and elements grow: neither
bytes, nor tracks, nor frames, nor readiness under any settings. -/
theorem readiness_grows {s t : Snapshot} (h : s.Grows t) :
    s.inboundBytes ≤ t.inboundBytes ∧ s.inboundAudioBytes ≤ t.inboundAudioBytes ∧
    (s.hasTracks = true → t.hasTracks = true) ∧
    (s.hasAudioTrack = true → t.hasAudioTrack = true) ∧
    (s.hasVideoTrack = true → t.hasVideoTrack = true) ∧
    (s.hasMetadata = true → t.hasMetadata = true) ∧
    ∀ settings : Poll.Settings, settings.isReady s = true → settings.isReady t = true :=
  ⟨h.inboundBytes, h.inboundAudioBytes, h.hasTracks, h.hasAudioTrack, h.hasVideoTrack,
    h.hasMetadata, h.isReady⟩

theorem readiness_grows_recovered :
    let connected (video audio : Option Int) : Peer :=
      .connected { inboundVideo := video, inboundAudio := audio }
    let page (peers : List Peer) (videos : List Video) : Snapshot :=
      { timestamp := 0, address := .null, peers, videos }
    let s := page [.failed "closed", connected (some (-40)) none, connected (some 6000) none]
      [{ index := 0, width := 320, height := 180, videoTracks := 1 }]
    let t := page [connected none (some 0), .failed "closed", connected (some 6000) (some 700),
      connected none none] [{ index := 3, width := 640, height := 360, videoTracks := 1 },
      { index := 0, width := -1 }]
    s.Grows t ∧ s.inboundBytes ≤ t.inboundBytes ∧ Poll.Settings.isReady {} s = true ∧
      Poll.Settings.isReady {} t = true := by
  intro connected page s t
  have fresh : ∀ p ∈ [connected none none], p.Counted := by
    rintro p (_ | ⟨-, ⟨⟩⟩)
    exact ⟨by decide, by decide⟩
  have grows : s.Grows t :=
    ⟨.cons ⟨by decide, by decide⟩ (.cons ⟨by decide, by decide⟩
      (.cons ⟨by decide, by decide⟩ (.more fresh))),
      .cons ⟨by decide, by decide, by decide, by decide⟩ (.more fun _ _ => trivial)⟩
  have ready : Poll.Settings.isReady {} s = true := by decide
  obtain ⟨bytes, -, -, -, -, -, stays⟩ := readiness_grows grows
  exact ⟨grows, bytes, ready, stays {} ready⟩

end Snapshot
end StreamWatch.Sample
