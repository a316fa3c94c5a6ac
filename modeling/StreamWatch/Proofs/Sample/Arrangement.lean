import Mathlib.Data.List.Nodup
import Mathlib.Data.List.Perm.Basic
import StreamWatch.Proofs.Sample.Tolerance

/-! The order of what a page lists. Every connection is read by itself, and so is a video element
that tells its index; the others take theirs from their place. A list in another order is therefore
read to the same entries in that order, and a connection that reports an error adds a failed one,
if that error has a text. -/
namespace StreamWatch.Sample

open Json (Value)

def reported? : Value → Option Value
  | .record fields =>
    if (Value.field "error" fields).isNull then none else some (Value.field "error" fields)
  | _ => none

def index? : Value → Option Int
  | .record fields => match Value.find? "index" fields with
    | some (.int n) => some n
    | _ => none
  | _ => none

theorem index?_eq_some_iff {v : Value} {n : Int} :
    index? v = some n ↔
      ∃ fields, v = .record fields ∧ Value.find? "index" fields = some (.int n) := by
  cases v with
  | record fields =>
    simp only [index?, Value.record.injEq, exists_eq_left']
    split <;> simp_all
  | _ => simp [index?]

structure Numbered (items : List Value) : Prop where
  told : ∀ v ∈ items, (index? v).isSome = true
  distinct : (items.map index?).Nodup

theorem Numbered.perm {items items' : List Value} (h : Numbered items)
    (perm : items'.Perm items) : Numbered items' :=
  ⟨fun v hv => h.told v (perm.mem_iff.mp hv), (perm.map index?).nodup_iff.mpr h.distinct⟩

theorem Peer.ofJson_of_reported {v e : Value} (h : reported? v = some e) :
    ofJson v = e.display.map failed := by
  cases v with
  | record fields =>
    rw [reported?] at h
    split at h
    · cases h
    · next present =>
      cases h
      have read : ofJson (.record fields) = ofFields fields := rfl
      simp only [read, ofFields, present]
      cases (Value.field "error" fields).display <;> rfl
  | _ => cases h

theorem Video.ofJson_place {v : Value} (h : (index? v).isSome = true) (place : Int) :
    ofJson v place = ofJson v 0 := by
  obtain ⟨n, hn⟩ := Option.isSome_iff_exists.mp h
  obtain ⟨fields, rfl, found⟩ := index?_eq_some_iff.mp hn
  show ofFields fields place = ofFields fields 0
  simp only [ofFields, found, Option.getD_some]

theorem Video.some_index_eq {v : Value} {w : Video} {place : Int}
    (told : (index? v).isSome = true) (h : ofJson v place = .ok w) :
    some w.index = index? v := by
  obtain ⟨n, hn⟩ := Option.isSome_iff_exists.mp told
  obtain ⟨fields, rfl, found⟩ := index?_eq_some_iff.mp hn
  have index := ((reading fields place).ok_iff.mp h).index
  rw [found, Option.getD_some] at index
  rw [hn]
  cases index
  rfl

namespace Snapshot

theorem readPeers_ok_iff {items : List Value} {peers : List Peer} :
    readPeers items = .ok peers ↔ List.Forall₂ (fun v p => Peer.ofJson v = .ok p) items peers := by
  have each : readPeers items = items.mapM Peer.ofJson := by
    induction items with
    | nil => rfl
    | cons v rest ih => rw [readPeers, ih, List.mapM_cons]
  rw [each, mapM_ok_iff]

theorem exists_ofJson_of_readPeers {items : List Value} {peers : List Peer} {v : Value}
    (h : readPeers items = .ok peers) (hv : v ∈ items) : ∃ p, Peer.ofJson v = .ok p := by
  rw [readPeers_ok_iff] at h
  induction h with
  | nil => cases hv
  | cons hp _ ih =>
    rcases List.mem_cons.mp hv with rfl | hv
    · exact ⟨_, hp⟩
    · exact ih hv

theorem readVideos_ok_iff {items : List Value} {videos : List Video} (place : Int)
    (told : ∀ v ∈ items, (index? v).isSome = true) :
    readVideos place items = .ok videos ↔
      List.Forall₂ (fun v w => Video.ofJson v 0 = .ok w) items videos := by
  have each : readVideos place items = items.mapM (Video.ofJson · 0) := by
    clear videos
    induction items generalizing place with
    | nil => rfl
    | cons v rest ih =>
      obtain ⟨hv, told⟩ := List.forall_mem_cons.mp told
      rw [readVideos, Video.ofJson_place hv, ih (place + 1) told, List.mapM_cons]
  rw [each, mapM_ok_iff]

theorem readPeers_error {items : List Value} {f : Fault}
    (only : ∀ v ∈ items, ∀ g, Peer.ofJson v = .error g → g = f)
    (some : ∃ v ∈ items, ∃ g, Peer.ofJson v = .error g) : readPeers items = .error f := by
  induction items with
  | nil => simp at some
  | cons v rest ih =>
    obtain ⟨first, only⟩ := List.forall_mem_cons.mp only
    rw [readPeers]
    cases hv : Peer.ofJson v with
    | error g =>
      rw [first g hv]
      rfl
    | ok p =>
      have later : ∃ v ∈ rest, ∃ g, Peer.ofJson v = .error g := by simpa [hv] using some
      rw [ok_bind, ih only later]
      rfl

/-- An error without a text is the only thing that reading can fail on. -/
theorem readPeers_of_oversized {items items' lost : List Value} {peers : List Peer} {e : Value}
    (h : readPeers items = .ok peers) (hlost : ∀ v ∈ lost, (reported? v).isSome = true)
    (perm : items'.Perm (items ++ lost)) (he : e ∈ items'.filterMap reported?)
    (big : Oversized e) : readPeers items' = .error .unwritableNumber := by
  have untold {v e : Value} {g : Fault} (hv : reported? v = some e)
      (refused : Peer.ofJson v = .error g) : g = .unwritableNumber := by
    rw [Peer.ofJson_of_reported hv, Value.display] at refused
    split at refused <;> cases refused
    rfl
  refine readPeers_error (fun v hv g refused => ?_) ?_
  · rcases List.mem_append.mp (perm.mem_iff.mp hv) with hv | hv
    · obtain ⟨p, read⟩ := exists_ofJson_of_readPeers h hv
      cases refused.symm.trans read
    · obtain ⟨e, hv⟩ := Option.isSome_iff_exists.mp (hlost v hv)
      exact untold hv refused
  · obtain ⟨v, hv, reports⟩ := List.mem_filterMap.mp he
    refine ⟨v, hv, .unwritableNumber, ?_⟩
    rw [Peer.ofJson_of_reported reports, Value.display, big.unwritable]
    rfl

theorem readVideos_of_perm {items items' : List Value} {videos : List Video}
    (numbered : Numbered items) (h : readVideos 0 items = .ok videos)
    (perm : items'.Perm items) :
    ∃ videos', readVideos 0 items' = .ok videos' ∧ videos'.Perm videos := by
  rw [readVideos_ok_iff 0 numbered.told] at h
  obtain ⟨videos', hvideos', perm'⟩ := List.perm_comp_forall₂ perm h
  exact ⟨videos', (readVideos_ok_iff 0 (numbered.perm perm).told).mpr hvideos', perm'⟩

theorem indices_nodup {items : List Value} {videos : List Video} (numbered : Numbered items)
    (h : readVideos 0 items = .ok videos) : (videos.map Video.index).Nodup := by
  rw [readVideos_ok_iff 0 numbered.told] at h
  have indices : (videos.map Video.index).map some = items.map index? := by
    have told := numbered.told
    clear numbered
    induction h with
    | nil => rfl
    | cons hw _ ih =>
      obtain ⟨hv, told⟩ := List.forall_mem_cons.mp told
      simp only [List.map_cons, Video.some_index_eq hv hw, ih told]
  exact List.Nodup.of_map some (indices ▸ numbered.distinct)

def elements (fields : List (String × Value)) : Except Fault (List Value) :=
  itemsOf (videosField fields)

def connections (fields : List (String × Value)) : Except Fault (List Value) :=
  itemsOf (orEmptyList (Value.field "pcStats" fields))

theorem exists_ofJson_iff {fields : List (String × Value)} {videos : List Video}
    {peers : List Peer} :
    (∃ s, ofJson (.record fields) = .ok s ∧ s.videos = videos ∧ s.peers = peers) ↔
      (∃ n, counter (Value.field "timestamp" fields) = .ok n) ∧
      (∃ items, elements fields = .ok items ∧ readVideos 0 items = .ok videos) ∧
      ∃ items, connections fields = .ok items ∧ readPeers items = .ok peers := by
  have hofJson : ofJson (.record fields) = ofFields fields := rfl
  rw [hofJson, ofFields]
  constructor
  · rintro ⟨s, h, rfl, rfl⟩
    obtain ⟨n, hn, h⟩ := bind_ok h
    obtain ⟨entries, hentries, h⟩ := bind_ok h
    obtain ⟨videos, hvideos, h⟩ := bind_ok h
    obtain ⟨items, hitems, h⟩ := bind_ok h
    obtain ⟨peers, hpeers, h⟩ := bind_ok h
    cases h
    exact ⟨⟨n, hn⟩, ⟨entries, hentries, hvideos⟩, items, hitems, hpeers⟩
  · rintro ⟨⟨n, hn⟩, ⟨entries, hentries, hvideos⟩, items, hitems, hpeers⟩
    rw [elements] at hentries
    rw [connections] at hitems
    rw [hn, ok_bind, hentries, ok_bind, hvideos, ok_bind, hitems, ok_bind, hpeers, ok_bind]
    exact ⟨_, rfl, rfl, rfl⟩

def reportedErrors (fields : List (String × Value)) : List Value :=
  match connections fields with
  | .ok items => items.filterMap reported?
  | .error _ => []

theorem reportedErrors_eq {fields : List (String × Value)} {items : List Value}
    (listed : connections fields = .ok items) :
    reportedErrors fields = items.filterMap reported? := by
  rw [reportedErrors, listed]

/-- Two records that list the same entries: with errors among the connections and these in any
order, and with the elements in any order where each of them tells an index of its own. -/
structure Rearranged (fields fields' : List (String × Value)) : Prop where
  others : ∀ key ∉ ["videos", "videoElements", "pcStats"],
    Value.field key fields' = Value.field key fields
  videos : elements fields' = elements fields ∨ ∃ items items',
    elements fields = .ok items ∧ elements fields' = .ok items' ∧ Numbered items ∧
      items'.Perm items
  peers : ∃ items items' lost, connections fields = .ok items ∧
    connections fields' = .ok items' ∧ (∀ v ∈ lost, (reported? v).isSome = true) ∧
      items'.Perm (items ++ lost)

structure Reordered (s s' : Snapshot) : Prop where
  videos : s'.videos = s.videos ∨ (s.videos.map Video.index).Nodup ∧ s'.videos.Perm s.videos
  peers : ∃ failed, (∀ p ∈ failed, ∃ e, p = Peer.failed e) ∧ s'.peers.Perm (s.peers ++ failed)

section

variable {fields fields' : List (String × Value)}

theorem Rearranged.exists_videos {items : List Value} {videos : List Video}
    (h : Rearranged fields fields') (listed : elements fields = .ok items)
    (read : readVideos 0 items = .ok videos) :
    ∃ items' videos', elements fields' = .ok items' ∧ readVideos 0 items' = .ok videos' ∧
      (videos' = videos ∨ (videos.map Video.index).Nodup ∧ videos'.Perm videos) := by
  rcases h.videos with same | ⟨_, items', listed₀, listed', numbered, perm⟩
  · exact ⟨items, videos, same.trans listed, read, .inl rfl⟩
  · cases listed.symm.trans listed₀
    obtain ⟨videos', read', perm⟩ := readVideos_of_perm numbered read perm
    exact ⟨items', videos', listed', read', .inr ⟨indices_nodup numbered read, perm⟩⟩

theorem Rearranged.refused {s : Snapshot} {e : Value} (h : Rearranged fields fields')
    (read : ofJson (.record fields) = .ok s) (he : e ∈ reportedErrors fields')
    (big : Oversized e) : ofJson (.record fields') = .error .unwritableNumber := by
  obtain ⟨⟨n, timestamp⟩, ⟨items, hitems, videos⟩, entries, hentries, peers⟩ :=
    exists_ofJson_iff.mp ⟨s, read, rfl, rfl⟩
  obtain ⟨items', videos', hitems', readVideos, -⟩ := h.exists_videos hitems videos
  obtain ⟨_, entries', lost, hentries₀, hentries', errors, perm⟩ := h.peers
  cases hentries.symm.trans hentries₀
  rw [reportedErrors_eq hentries'] at he
  have readPeers := readPeers_of_oversized peers errors perm he big
  rw [← h.others "timestamp" (by decide)] at timestamp
  rw [elements] at hitems'
  rw [connections] at hentries'
  have hofJson : ofJson (.record fields') = ofFields fields' := rfl
  rw [hofJson, ofFields, timestamp, ok_bind, hitems', ok_bind, readVideos, ok_bind, hentries',
    ok_bind, readPeers]
  rfl

end

end Snapshot
end StreamWatch.Sample
