import Mathlib.Data.List.Forall2
import StreamWatch.Proofs.Numeral.SignedZero
import StreamWatch.Verdict.Basic

/-! Reading back what a snapshot writes. Every field comes back as it was, but for a time of
negative zero, which comes back as the positive one; no check on a snapshot sees the difference. A
snapshot that was read has a shape that makes this work: its texts are present or empty, and what is
known of a paused video is not null. -/
namespace StreamWatch.Sample

open Json (Value)
open Numeral.Binary64 (IsZero)

theorem bind_ok {ε α β : Type} {x : Except ε α} {f : α → Except ε β} {b : β}
    (h : x >>= f = .ok b) : ∃ a, x = .ok a ∧ f a = .ok b := by
  cases x with
  | error e => cases h
  | ok a => exact ⟨a, rfl, h⟩

theorem ok_bind {ε α β : Type} (a : α) (f : α → Except ε β) : (.ok a >>= f) = f a := rfl

theorem exists_mapM_ok {ε α β : Type} {f : α → Except ε β} {as : List α}
    (h : ∀ a ∈ as, ∃ b, f a = .ok b) : ∃ bs, as.mapM f = .ok bs := by
  induction as with
  | nil => exact ⟨[], rfl⟩
  | cons a as ih =>
    obtain ⟨⟨b, hb⟩, rest⟩ := List.forall_mem_cons.mp h
    obtain ⟨bs, hbs⟩ := ih rest
    exact ⟨b :: bs, by rw [List.mapM_cons, hb, ok_bind, hbs]; rfl⟩

theorem mapM_ok_iff {ε α β : Type} {f : α → Except ε β} {as : List α} {bs : List β} :
    as.mapM f = .ok bs ↔ List.Forall₂ (fun a b => f a = .ok b) as bs := by
  induction as generalizing bs with
  | nil =>
    rw [List.forall₂_nil_left_iff]
    exact ⟨fun h => (Except.ok.inj h).symm, fun h => h ▸ rfl⟩
  | cons a as ih =>
    rw [List.mapM_cons, List.forall₂_cons_left_iff]
    constructor
    · intro h
      obtain ⟨b, hb, h⟩ := bind_ok h
      obtain ⟨rest, hrest, h⟩ := bind_ok h
      exact ⟨b, rest, hb, ih.mp hrest, (Except.ok.inj h).symm⟩
    · rintro ⟨b, rest, hb, hrest, rfl⟩
      rw [hb, ok_bind, ih.mpr hrest]
      rfl

theorem orElse_orElse (v other : Value) : (v.orElse other).orElse other = v.orElse other := by
  unfold Value.orElse
  split
  · rfl
  · split <;> rfl

theorem field_cons (key k : String) (v : Value) (fields : List (String × Value)) :
    Value.field key ((k, v) :: fields) = if k = key then v else Value.field key fields := by
  by_cases h : k = key <;> simp [Value.field, Value.find?, h]

theorem field_optional {α : Type} (key k : String) (f : α → Value) (a : Option α)
    (fields : List (String × Value)) :
    Value.field key (a.toList.map (fun x => (k, f x)) ++ fields) =
      if k = key then (a.map f).getD (Value.field key fields) else Value.field key fields := by
  cases a with
  | none => simp
  | some x => simp [field_cons]

theorem field_optional_last {α : Type} (key k : String) (f : α → Value) (a : Option α) :
    Value.field key (a.toList.map fun x => (k, f x)) =
      if k = key then (a.map f).getD .null else .null := by
  have h := field_optional key k f a []
  rwa [List.append_nil] at h

theorem counter_int (n : Int) : counter (.int n) = .ok n := rfl

theorem optionalCounter_getD (n : Option Int) :
    optionalCounter ((n.map .int).getD .null) = .ok n := by
  cases n <;> rfl

def settledTime (x : Float) : Float := if x == 0 then 0.0 else x

theorem seconds_float (x : Float) : seconds (.float x) = .ok (settledTime x) := by
  cases h : x == 0 <;> simp [seconds, settledTime, Value.isPresent, h]

theorem settledTime_eq (x : Float) : settledTime x = x ∨ x = -0.0 ∧ settledTime x = 0.0 := by
  unfold settledTime
  split
  · next h =>
    rcases (Numeral.Binary64.isZero_of_beq h).eq with hx | hx
    · exact .inl hx.symm
    · exact .inr ⟨hx, rfl⟩
  · exact .inl rfl

theorem settledTime_settledTime (x : Float) : settledTime (settledTime x) = settledTime x := by
  rcases settledTime_eq x with h | ⟨-, h⟩
  · rw [h, h]
  · rw [h]
    rfl

def Video.settled (v : Video) : Video := { v with time := settledTime v.time }

theorem optional_getD {p : Option Value} (h : p ≠ some .null) :
    (if ((p.map id).getD .null).isNull then none else some ((p.map id).getD .null)) = p := by
  cases p with
  | none => rfl
  | some v =>
    have hn : ¬ v.isNull = true := by
      rw [Value.isNull_iff]
      simpa using h
    exact if_neg hn

theorem Video.read_toJson {v : Video} (h : v.paused ≠ some .null) (place : Int) :
    ofJson v.toJson place = .ok v.settled := by
  -- The index is found as the first field; of a video without one its place would be read.
  have index (fields) : (Value.find? "index" (("index", .int v.index) :: fields)).getD
      (.int place) = .int v.index := rfl
  have last (key) := field_optional_last key "paused" id v.paused
  simp only [id_eq] at last
  simp only [ofJson, toJson, fieldsOf, ofFields, ok_bind, List.cons_append, List.nil_append,
    index, field_cons, field_optional, last, String.reduceEq, if_true, if_false, counter_int,
    optionalCounter_getD, seconds_float, optional_getD h]
  rfl

theorem Peer.read_toJson (p : Peer) : ofJson p.toJson = .ok p := by
  cases p with
  | failed error => rfl
  | connected c =>
    show ofFields _ = _
    simp only [ofFields, numberField, List.cons_append, List.append_assoc, field_cons,
      field_optional, field_optional_last, String.reduceEq, if_true, if_false,
      optionalCounter_getD]
    rfl

namespace Snapshot

def settled (s : Snapshot) : Snapshot := { s with videos := s.videos.map Video.settled }

structure Readable (s : Snapshot) : Prop where
  address : orEmptyText s.address = s.address
  title : orEmptyText s.title = s.title
  text : orEmptyText s.text = s.text
  paused : ∀ v ∈ s.videos, v.paused ≠ some .null

theorem paused_of_ofJson {v : Value} {place : Int} {video : Video}
    (h : Video.ofJson v place = .ok video) : video.paused ≠ some .null := by
  obtain ⟨fields, -, h⟩ := bind_ok h
  simp only [Video.ofFields] at h
  obtain ⟨_, -, h⟩ := bind_ok h
  obtain ⟨_, -, h⟩ := bind_ok h
  obtain ⟨_, -, h⟩ := bind_ok h
  obtain ⟨_, -, h⟩ := bind_ok h
  obtain ⟨_, -, h⟩ := bind_ok h
  obtain ⟨_, -, h⟩ := bind_ok h
  obtain ⟨_, -, h⟩ := bind_ok h
  cases h
  intro hp
  dsimp only at hp
  split at hp
  · cases hp
  · next hn =>
    rw [Value.isNull_iff] at hn
    exact hn (Option.some.inj hp)

theorem paused_of_readVideos {items : List Value} {place : Int} {videos : List Video}
    (h : readVideos place items = .ok videos) : ∀ v ∈ videos, v.paused ≠ some .null := by
  induction items generalizing place videos with
  | nil =>
    cases h
    simp
  | cons item items ih =>
    obtain ⟨video, hv, h⟩ := bind_ok h
    obtain ⟨rest, hr, h⟩ := bind_ok h
    cases h
    intro v hm
    rcases List.mem_cons.mp hm with rfl | hm
    · exact paused_of_ofJson hv
    · exact ih hr v hm

theorem readable_of_ofJson {v : Value} {s : Snapshot} (h : ofJson v = .ok s) : s.Readable := by
  obtain ⟨fields, -, h⟩ := bind_ok h
  simp only [ofFields] at h
  obtain ⟨_, -, h⟩ := bind_ok h
  obtain ⟨_, -, h⟩ := bind_ok h
  obtain ⟨videos, hv, h⟩ := bind_ok h
  obtain ⟨_, -, h⟩ := bind_ok h
  obtain ⟨_, -, h⟩ := bind_ok h
  cases h
  exact ⟨orElse_orElse _ _, orElse_orElse _ _, orElse_orElse _ _, paused_of_readVideos hv⟩

theorem readVideos_toJson {videos : List Video} (h : ∀ v ∈ videos, v.paused ≠ some .null)
    (place : Int) :
    readVideos place (videos.map Video.toJson) = .ok (videos.map Video.settled) := by
  induction videos generalizing place with
  | nil => rfl
  | cons v rest ih =>
    have hv := Video.read_toJson (h v (by simp)) place
    have hr := ih (fun w hw => h w (by simp [hw])) (place + 1)
    simp only [List.map_cons, readVideos, hv, hr, ok_bind]
    rfl

theorem readPeers_toJson (peers : List Peer) :
    readPeers (peers.map Peer.toJson) = .ok peers := by
  induction peers with
  | nil => rfl
  | cons p rest ih =>
    simp only [List.map_cons, readPeers, Peer.read_toJson, ih, ok_bind]
    rfl

theorem orEmptyList_list (items : List Value) : orEmptyList (.list items) = .list items := by
  cases items <;> rfl

theorem ofJson_toJson_of_readable {s : Snapshot} (h : s.Readable) :
    ofJson s.toJson = .ok s.settled := by
  have hv := readVideos_toJson h.paused 0
  have hp := readPeers_toJson s.peers
  simp only [ofJson, toJson, fieldsOf, ofFields, videosField, ok_bind, field_cons, itemsOf,
    String.reduceEq, if_true, if_false, counter_int, Value.isNull, orEmptyList_list, hv, hp,
    h.address, h.title, h.text, Bool.false_eq_true]
  rfl

theorem isWritable_address {s : Snapshot} (h : s.toJson.isWritable = true) :
    s.address.isWritable = true :=
  (Bool.and_eq_true_iff.mp h).1

theorem settled_settled (s : Snapshot) : s.settled.settled = s.settled := by
  simp [settled, Video.settled, settledTime_settledTime, Function.comp_def]

theorem Readable.settled {s : Snapshot} (h : s.Readable) : s.settled.Readable := by
  refine ⟨h.address, h.title, h.text, ?_⟩
  intro v hv
  obtain ⟨w, hw, rfl⟩ := List.mem_map.mp hv
  exact h.paused w hw

end Snapshot
end StreamWatch.Sample
