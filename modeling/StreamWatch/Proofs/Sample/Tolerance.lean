import Mathlib.Data.List.Enum
import Mathlib.Data.List.Forall2
import Mathlib.Tactic.Tauto
import StreamWatch.Proofs.Numeral.Literal
import StreamWatch.Proofs.Numeral.Unpacking
import StreamWatch.Proofs.Sample.RoundTrip

/-! What a page may report. Every value counts for a whole number, if only for zero, unless it is
an infinite one; a time has to be a number or the text of one, and an error is kept as its text. A
record with lists of records for its videos and peers is read item by item, and only such a number,
such a time or an error without a text makes that fail. -/
namespace StreamWatch.Sample

open Json (Value)
open Numeral.Binary64 (Size size whole? ofInt?)
open Numeral.Integer (Literal)

structure Reading {α : Type} (x : Except Fault α) (gives : α → Prop) (fails : Prop) : Prop where
  ok_iff {a : α} : x = .ok a ↔ gives a
  error_iff : (∃ f, x = .error f) ↔ fails

namespace Reading

variable {α β : Type} {x : Except Fault α} {gives : α → Prop} {fails : Prop}

theorem of_ok {a : α} (h : x = .ok a) (ha : gives a) (only : ∀ b, gives b → b = a)
    (sound : ¬fails) : Reading x gives fails := by
  subst h
  refine ⟨⟨?_, fun hb => by rw [only _ hb]⟩, by simp [sound]⟩
  rintro ⟨⟩
  exact ha

theorem of_error {f : Fault} (h : x = .error f) (none : ∀ a, ¬gives a) (failed : fails) :
    Reading x gives fails := by
  subst h
  exact ⟨by simp [none], by simp [failed]⟩

theorem ok (a : α) : Reading (.ok a) (· = a) False := .of_ok rfl rfl (fun _ h => h) id

theorem of_option {o : Option α} (some : ∀ a, o = some a → x = .ok a)
    (none : o = none → ∃ f, x = .error f) : Reading x (o = .some ·) (o = .none) := by
  cases o with
  | some a => exact .of_ok (some a rfl) rfl (fun _ h => (Option.some.inj h).symm) (by simp)
  | none =>
    obtain ⟨f, hf⟩ := none rfl
    exact .of_error hf (by simp) rfl

theorem congr {gives' : α → Prop} {fails' : Prop} (h : Reading x gives fails)
    (hgives : ∀ a, gives a ↔ gives' a) (hfails : fails ↔ fails') : Reading x gives' fails' :=
  ⟨h.ok_iff.trans (hgives _), h.error_iff.trans hfails⟩

theorem bind {f : α → Except Fault β} {then_gives : α → β → Prop} {then_fails : Prop}
    (h : Reading x gives fails) (hf : ∀ a, Reading (f a) (then_gives a) then_fails) :
    Reading (x >>= f) (fun b => ∃ a, gives a ∧ then_gives a b) (fails ∨ then_fails) := by
  simp only [← h.ok_iff, ← h.error_iff]
  cases x with
  | error e => constructor <;> simp [Bind.bind, Except.bind]
  | ok a => exact (hf a).congr (by simp) (by simp)

theorem map (g : α → β) (h : Reading x gives fails) :
    Reading (x.map g) (fun b => ∃ a, gives a ∧ b = g a) fails := by
  simp only [← h.ok_iff, ← h.error_iff]
  cases x <;> constructor <;> simp [Except.map, eq_comm]

theorem exists_ok_iff (h : Reading x gives fails) : (∃ a, gives a) ↔ ¬fails := by
  simp only [← h.ok_iff, ← h.error_iff]
  cases x <;> simp

end Reading

theorem isNaN_iff {x : Float} : x.isNaN = true ↔ size x = .undefined := by
  rw [size, Float.isNaN, Float.Model.isNaN]
  cases x.toModel.unpack with
  | notANumber => exact ⟨fun _ => rfl, fun _ => rfl⟩
  | _ => constructor <;> intro h <;> cases h

/-- The whole number that a value counts for. -/
inductive Counts : Value → Int → Prop
  | null : Counts .null 0
  | bool (b : Bool) : Counts (.bool b) (if b then 1 else 0)
  | int (n : Int) : Counts (.int n) n
  | float {x : Float} {n : Int} (h : whole? x = some n) : Counts (.float x) n
  | undefined {x : Float} (h : size x = .undefined) : Counts (.float x) 0
  | text {s : String} {n : Int} (h : Literal s.toList n) : Counts (.text s) n
  | noNumber {s : String} (h : ∀ n, ¬Literal s.toList n) : Counts (.text s) 0
  | list (items : List Value) : Counts (.list items) 0
  | record (fields : List (String × Value)) : Counts (.record fields) 0

inductive Infinite : Value → Prop
  | positive : Infinite (.float Numeral.Decimal.infinity)
  | negative : Infinite (.float (-Numeral.Decimal.infinity))

theorem infinite_iff {x : Float} :
    Infinite (.float x) ↔ ∃ negative, size x = .unbounded negative := by
  constructor
  · rintro (_ | _)
    · exact ⟨false, rfl⟩
    · exact ⟨true, rfl⟩
  · rintro ⟨negative, h⟩
    rw [Numeral.Binary64.eq_infinity h]
    cases negative
    · exact .positive
    · exact .negative

theorem reading_float (x : Float) :
    Reading (counter (.float x)) (Counts (.float x)) (Infinite (.float x)) := by
  rw [infinite_iff]
  cases hx : size x with
  | undefined =>
    have read : counter (.float x) = .ok 0 := if_pos (isNaN_iff.mpr hx)
    refine .of_ok read (.undefined hx) ?_ (by simp)
    rintro _ (_ | _ | _ | h | _)
    · simp [whole?, hx] at h
    · rfl
  | unbounded negative =>
    have defined : ¬x.isNaN = true := by
      rw [isNaN_iff, hx]
      nofun
    have none : whole? x = none := by rw [whole?, hx]
    have read : counter (.float x) = .error .tooLarge := by
      rw [counter, if_neg defined, wholeOf, none]
      exact if_neg defined
    refine .of_error read ?_ ⟨_, rfl⟩
    rintro _ (_ | _ | _ | h | h)
    · cases h.symm.trans none
    · cases h.symm.trans hx
  | finite negative m e =>
    have defined : ¬x.isNaN = true := by
      rw [isNaN_iff, hx]
      nofun
    obtain ⟨n, hn⟩ : ∃ n, whole? x = some n := by simp [whole?, hx]
    have read : counter (.float x) = .ok n := by rw [counter, if_neg defined, wholeOf, hn]
    refine .of_ok read (.float hn) ?_ (by simp)
    rintro _ (_ | _ | _ | h | h)
    · exact Option.some.inj (h.symm.trans hn)
    · cases h.symm.trans hx

theorem reading_counter (v : Value) : Reading (counter v) (Counts v) (Infinite v) := by
  cases v with
  | null => exact .of_ok rfl .null (by rintro _ ⟨⟩; rfl) nofun
  | bool b => exact .of_ok rfl (.bool b) (by rintro _ ⟨⟩; rfl) nofun
  | int n => exact .of_ok rfl (.int n) (by rintro _ ⟨⟩; rfl) nofun
  | float x => exact reading_float x
  | text s =>
    cases hs : Numeral.Integer.read 10 s.toList with
    | ok n =>
      have literal := Numeral.Integer.literal_of_read hs
      refine .of_ok (a := n) (by simp [counter, hs]) (.text literal) ?_ nofun
      rintro _ (_ | _ | _ | _ | _ | h | h)
      · exact Except.ok.inj ((Numeral.Integer.read_of_literal h).symm.trans hs)
      · exact absurd literal (h n)
    | error f =>
      have none := Numeral.Integer.read_error_iff.mp ⟨f, hs⟩
      refine .of_ok (a := 0) (by simp [counter, hs]) (.noNumber none) ?_ nofun
      rintro _ (_ | _ | _ | _ | _ | h | _)
      · exact absurd h (none _)
      · rfl
  | list items => exact .of_ok rfl (.list items) (by rintro _ ⟨⟩; rfl) nofun
  | record fields => exact .of_ok rfl (.record fields) (by rintro _ ⟨⟩; rfl) nofun

inductive MayCount : Value → Option Int → Prop
  | missing : MayCount .null none
  | counts {v : Value} {n : Int} (present : v ≠ .null) (h : Counts v n) : MayCount v (some n)

theorem optionalCounter_of_present {v : Value} (h : v ≠ .null) :
    optionalCounter v = (counter v).map some := by
  cases v with
  | null => exact absurd rfl h
  | _ => rfl

theorem reading_optionalCounter (v : Value) :
    Reading (optionalCounter v) (MayCount v) (Infinite v) := by
  by_cases present : v = .null
  · subst present
    refine .of_ok rfl .missing ?_ nofun
    rintro _ (_ | ⟨h, -⟩)
    · rfl
    · exact absurd rfl h
  · rw [optionalCounter_of_present present]
    refine ((reading_counter v).map some).congr (fun n => ⟨?_, ?_⟩) .rfl
    · rintro ⟨n, h, rfl⟩
      exact .counts present h
    · rintro (_ | ⟨-, h⟩)
      · exact absurd rfl present
      · exact ⟨_, h, rfl⟩

/-- A whole number beyond the digit limit, or a list or record that holds one. -/
inductive Oversized : Value → Prop
  | int {n : Int} (h : Nat.pow 10 Fault.digitLimit ≤ n.natAbs) : Oversized (.int n)
  | list {items : List Value} {v : Value} (hv : v ∈ items) (h : Oversized v) :
      Oversized (.list items)
  | record {fields : List (String × Value)} {key : String} {v : Value} (hv : (key, v) ∈ fields)
      (h : Oversized v) : Oversized (.record fields)

mutual
theorem oversized_of_unwritable (v : Value) (h : v.isWritable = false) : Oversized v := by
  cases v with
  | int n =>
    rw [Value.isWritable, Numeral.Integer.isWritable_eq_false_iff] at h
    exact .int h
  | list items =>
    obtain ⟨v, hv, big⟩ := exists_oversized_item items (by rwa [Value.isWritable] at h)
    exact .list hv big
  | record fields =>
    obtain ⟨key, v, hv, big⟩ := exists_oversized_field fields (by rwa [Value.isWritable] at h)
    exact .record hv big
  | _ => simp [Value.isWritable] at h

theorem exists_oversized_item (items : List Value) (h : Value.areWritable items = false) :
    ∃ v ∈ items, Oversized v := by
  cases items with
  | nil => simp [Value.areWritable] at h
  | cons v rest =>
    rw [Value.areWritable, Bool.and_eq_false_iff] at h
    rcases h with h | h
    · exact ⟨v, List.mem_cons_self, oversized_of_unwritable v h⟩
    · obtain ⟨v', hv', big⟩ := exists_oversized_item rest h
      exact ⟨v', List.mem_cons_of_mem v hv', big⟩

theorem exists_oversized_field (fields : List (String × Value))
    (h : Value.fieldsAreWritable fields = false) : ∃ key v, (key, v) ∈ fields ∧ Oversized v := by
  cases fields with
  | nil => simp [Value.fieldsAreWritable] at h
  | cons field rest =>
    obtain ⟨key, v⟩ := field
    rw [Value.fieldsAreWritable, Bool.and_eq_false_iff] at h
    rcases h with h | h
    · exact ⟨key, v, List.mem_cons_self, oversized_of_unwritable v h⟩
    · obtain ⟨key', v', hv', big⟩ := exists_oversized_field rest h
      exact ⟨key', v', List.mem_cons_of_mem _ hv', big⟩
end

theorem Oversized.unwritable {v : Value} (h : Oversized v) : v.isWritable = false := by
  induction h with
  | int h => rwa [Value.isWritable, Numeral.Integer.isWritable_eq_false_iff]
  | list hv _ ih =>
    rw [Value.isWritable, ← Bool.not_eq_true, Value.areWritable_iff]
    exact fun all => by simp [all _ hv] at ih
  | record hv _ ih =>
    rw [Value.isWritable, ← Bool.not_eq_true, Value.fieldsAreWritable_iff]
    exact fun all => by simp [all _ hv] at ih

theorem isWritable_eq_false_iff {v : Value} : v.isWritable = false ↔ Oversized v :=
  ⟨oversized_of_unwritable v, Oversized.unwritable⟩

theorem reading_display (v : Value) :
    Reading v.display (fun text => ¬Oversized v ∧ text = v.told) (Oversized v) := by
  rw [Value.display]
  cases h : v.isWritable with
  | true =>
    have fits : ¬Oversized v := fun big => by simp [big.unwritable] at h
    exact .of_ok rfl ⟨fits, rfl⟩ (fun _ given => given.2) fits
  | false =>
    have big := isWritable_eq_false_iff.mp h
    exact .of_error rfl (fun _ given => given.1 big) big

inductive Lasts : Value → Float → Prop
  | absent {v : Value} (h : v.isPresent = false) : Lasts v 0.0
  | true : Lasts (.bool true) 1.0
  | int {n : Int} {x : Float} (h : (Value.int n).isPresent = true) (hx : ofInt? n = some x) :
      Lasts (.int n) x
  | float {x : Float} (h : (Value.float x).isPresent = true) : Lasts (.float x) x
  | text {s : String} {x : Float} (h : (Value.text s).isPresent = true)
      (hx : Numeral.Decimal.read? s.toList = some x) : Lasts (.text s) x

/-- A text that is no number, a whole number out of range, or a value of another kind. -/
inductive Timeless : Value → Prop
  | int {n : Int} (h : (Value.int n).isPresent = true) (hx : ofInt? n = none) : Timeless (.int n)
  | text {s : String} (h : (Value.text s).isPresent = true)
      (hx : Numeral.Decimal.read? s.toList = none) : Timeless (.text s)
  | list {items : List Value} (h : (Value.list items).isPresent = true) : Timeless (.list items)
  | record {fields : List (String × Value)} (h : (Value.record fields).isPresent = true) :
      Timeless (.record fields)

theorem reading_seconds (v : Value) : Reading (seconds v) (Lasts v) (Timeless v) := by
  by_cases present : v.isPresent = true
  · have unabsent : ¬v.isPresent = false := by simp [present]
    cases v with
    | null => cases present
    | bool b =>
      obtain rfl : b = true := present
      exact .of_ok rfl .true (by rintro _ (h | _); exacts [absurd h unabsent, rfl])
        fun h => by cases h
    | int n =>
      have read : Reading (seconds (.int n)) (ofInt? n = some ·) (ofInt? n = none) :=
        .of_option (fun _ hx => by simp only [seconds, present, if_true, floatOf, hx])
          fun hx => ⟨.tooLarge, by simp only [seconds, present, if_true, floatOf, hx]⟩
      refine read.congr (fun x => ⟨.int present, ?_⟩) ⟨.int present, ?_⟩
      · rintro (h | _ | ⟨-, h⟩)
        · exact absurd h unabsent
        · exact h
      · rintro ⟨-, h⟩
        exact h
    | float x =>
      refine .of_ok (by simp only [seconds, present, if_true]) (.float present) ?_
        fun h => by cases h
      rintro _ (h | _ | _ | _)
      · exact absurd h unabsent
      · rfl
    | text s =>
      have read : Reading (seconds (.text s)) (Numeral.Decimal.read? s.toList = some ·)
          (Numeral.Decimal.read? s.toList = none) :=
        .of_option
          (fun _ hx => by simp only [seconds, present, if_true, Numeral.Decimal.read, hx])
          fun hx => ⟨_, by simp only [seconds, present, if_true, Numeral.Decimal.read, hx]; rfl⟩
      refine read.congr (fun x => ⟨.text present, ?_⟩) ⟨.text present, ?_⟩
      · rintro (h | _ | _ | _ | ⟨-, h⟩)
        · exact absurd h unabsent
        · exact h
      · rintro (_ | ⟨-, h⟩)
        exact h
    | list items =>
      have h : seconds (.list items) = .error .wrongKind := by
        simp only [seconds, present, if_true]
      refine .of_error h ?_ (.list present)
      rintro _ (h | _)
      exact unabsent h
    | record fields =>
      have h : seconds (.record fields) = .error .wrongKind := by
        simp only [seconds, present, if_true]
      refine .of_error h ?_ (.record present)
      rintro _ (h | _)
      exact unabsent h
  · have absent : v.isPresent = false := by simpa using present
    refine .of_ok (by simp only [seconds, absent]; rfl) (.absent absent) ?_ ?_
    · rintro _ (_ | _ | ⟨h, -⟩ | h | ⟨h, -⟩)
      · rfl
      all_goals exact absurd (by first | rfl | exact h) present
    · rintro (⟨h, -⟩ | ⟨h, -⟩ | h | h)
      all_goals exact absurd h present

namespace Video

structure ReadFrom (fields : List (String × Value)) (place : Int) (v : Video) : Prop where
  index : Counts ((Value.find? "index" fields).getD (.int place)) v.index
  time : Lasts (Value.field "currentTime" fields) v.time
  width : Counts (Value.field "videoWidth" fields) v.width
  height : Counts (Value.field "videoHeight" fields) v.height
  audioTracks : Counts (Value.field "audioTracks" fields) v.audioTracks
  videoTracks : Counts (Value.field "videoTracks" fields) v.videoTracks
  readyState : MayCount (Value.field "readyState" fields) v.readyState
  paused : v.paused = if (Value.field "paused" fields).isNull then none
    else some (Value.field "paused" fields)

def counters : List String :=
  ["index", "videoWidth", "videoHeight", "audioTracks", "videoTracks", "readyState"]

def Spoiled (fields : List (String × Value)) : Prop :=
  Timeless (Value.field "currentTime" fields) ∨
    ∃ key ∈ counters, Infinite (Value.field key fields)

theorem infinite_index_iff {fields : List (String × Value)} {place : Int} :
    Infinite ((Value.find? "index" fields).getD (.int place)) ↔
      Infinite (Value.field "index" fields) := by
  rw [Value.field]
  cases Value.find? "index" fields with
  | none => constructor <;> intro h <;> cases h
  | some v => exact .rfl

theorem reading (fields : List (String × Value)) (place : Int) :
    Reading (ofFields fields place) (ReadFrom fields place) (Spoiled fields) := by
  refine Reading.congr ((reading_counter _).bind fun index => (reading_seconds _).bind fun time =>
    (reading_counter _).bind fun width => (reading_counter _).bind fun height =>
    (reading_counter _).bind fun audioTracks => (reading_counter _).bind fun videoTracks =>
    (reading_optionalCounter _).bind fun readyState => .ok _) (fun v => ⟨?_, fun h => ?_⟩) ?_
  · rintro ⟨_, index, _, time, _, width, _, height, _, audio, _, video, _, ready, rfl⟩
    exact ⟨index, time, width, height, audio, video, ready, rfl⟩
  · refine ⟨_, h.index, _, h.time, _, h.width, _, h.height, _, h.audioTracks, _, h.videoTracks, _,
      h.readyState, ?_⟩
    rw [← h.paused]
  · simp only [Spoiled, counters, List.exists_mem_cons_iff, infinite_index_iff]
    simp only [List.not_mem_nil, false_and, exists_false, or_false]
    tauto

end Video

namespace Peer

inductive ReadFrom (fields : List (String × Value)) : Peer → Prop
  | failed (h : Value.field "error" fields ≠ .null)
      (fits : ¬Oversized (Value.field "error" fields)) :
      ReadFrom fields (.failed (Value.field "error" fields).told)
  | connected {c : Counters} (h : Value.field "error" fields = .null)
      (state : c.state = Value.field "state" fields)
      (inboundVideo : MayCount (Value.field "inboundVideoBytes" fields) c.inboundVideo)
      (inboundAudio : MayCount (Value.field "inboundAudioBytes" fields) c.inboundAudio)
      (outboundVideo : MayCount (Value.field "outboundVideoBytes" fields) c.outboundVideo)
      (outboundAudio : MayCount (Value.field "outboundAudioBytes" fields) c.outboundAudio)
      (framesDecoded : MayCount (Value.field "framesDecoded" fields) c.framesDecoded) :
      ReadFrom fields (.connected c)

def counterNames : List String :=
  ["inboundVideoBytes", "inboundAudioBytes", "outboundVideoBytes", "outboundAudioBytes",
    "framesDecoded"]

def Spoiled (fields : List (String × Value)) : Prop :=
  Oversized (Value.field "error" fields) ∨
    Value.field "error" fields = .null ∧ ∃ key ∈ counterNames, Infinite (Value.field key fields)

theorem reading (fields : List (String × Value)) :
    Reading (ofFields fields) (ReadFrom fields) (Spoiled fields) := by
  rw [ofFields]
  by_cases h : Value.field "error" fields = .null
  · simp only [h, Value.isNull, Bool.not_true]
    refine Reading.congr ((reading_optionalCounter _).bind fun _ =>
      (reading_optionalCounter _).bind fun _ => (reading_optionalCounter _).bind fun _ =>
      (reading_optionalCounter _).bind fun _ => (reading_optionalCounter _).bind fun _ => .ok _)
      (fun p => ⟨?_, ?_⟩) ?_
    · rintro ⟨_, iv, _, ia, _, ov, _, oa, _, fd, rfl⟩
      exact .connected h rfl iv ia ov oa fd
    · rintro (⟨present, -⟩ | ⟨-, state, iv, ia, ov, oa, fd⟩)
      · exact absurd h present
      · exact ⟨_, iv, _, ia, _, ov, _, oa, _, fd, by rw [← state]⟩
    · have fits : ¬Oversized .null := by rintro ⟨⟩
      simp only [Spoiled, counterNames, List.exists_mem_cons_iff]
      simp only [h, fits, List.not_mem_nil, false_and, exists_false, or_false, false_or, true_and]
  · have present : (Value.field "error" fields).isNull = false := by
      simpa [← Bool.not_eq_true, Value.isNull_iff] using h
    simp only [present, Bool.not_false, if_true]
    refine Reading.congr ((reading_display _).bind fun _ => .ok _) (fun p => ⟨?_, ?_⟩) ?_
    · rintro ⟨_, ⟨fits, rfl⟩, rfl⟩
      exact .failed h fits
    · rintro (⟨-, fits⟩ | ⟨hn, -⟩)
      · exact ⟨_, ⟨fits, rfl⟩, rfl⟩
      · exact absurd hn h
    · simp only [Spoiled, h, false_and, or_false]

end Peer

namespace Snapshot

inductive Entries : Value → List (List (String × Value)) → Prop
  | missing : Entries .null []
  | list (items : List (List (String × Value))) : Entries (.list (items.map .record)) items

structure Shaped (fields : List (String × Value)) (videos peers : List (List (String × Value))) :
    Prop where
  videos : Value.field "videos" fields = .list (videos.map .record) ∨
    Value.field "videos" fields = .null ∧ Entries (Value.field "videoElements" fields) videos
  peers : Entries (Value.field "pcStats" fields) peers

/-- One video and one peer for each record, in order; a video without an index has its place. -/
structure ReadFrom (fields : List (String × Value)) (videos peers : List (List (String × Value)))
    (s : Snapshot) : Prop where
  timestamp : Counts (Value.field "timestamp" fields) s.timestamp
  videos : List.Forall₂ (fun p v => Video.ReadFrom p.1 p.2 v) videos.zipIdx s.videos
  peers : List.Forall₂ Peer.ReadFrom peers s.peers
  address : s.address = (Value.field "url" fields).orElse (.text "")
  title : s.title = (Value.field "title" fields).orElse (.text "")
  text : s.text = (Value.field "textSample" fields).orElse (.text "")
  waiting : s.waiting = (Value.field "containsWaitingText" fields).isPresent

def Spoiled (fields : List (String × Value)) (videos peers : List (List (String × Value))) :
    Prop :=
  Infinite (Value.field "timestamp" fields) ∨ (∃ v ∈ videos, Video.Spoiled v) ∨
    ∃ p ∈ peers, Peer.Spoiled p

theorem reading_videos (videos : List (List (String × Value))) (place : Nat) :
    Reading (readVideos place (videos.map .record))
      (List.Forall₂ (fun p v => Video.ReadFrom p.1 p.2 v) (videos.zipIdx place))
      (∃ v ∈ videos, Video.Spoiled v) := by
  induction videos generalizing place with
  | nil => exact .of_ok rfl .nil (by rintro _ ⟨⟩; rfl) (by simp)
  | cons fields videos ih =>
    refine Reading.congr ((Video.reading fields place).bind fun _ =>
      (ih (place + 1)).bind fun _ => .ok _) (fun vs => ?_) ?_
    · rw [List.zipIdx_cons, List.forall₂_cons_left_iff]
      constructor
      · rintro ⟨v, hv, rest, hrest, rfl⟩
        exact ⟨v, rest, hv, hrest, rfl⟩
      · rintro ⟨v, rest, hv, hrest, rfl⟩
        exact ⟨v, hv, rest, hrest, rfl⟩
    · simp

theorem reading_peers (peers : List (List (String × Value))) :
    Reading (readPeers (peers.map .record)) (List.Forall₂ Peer.ReadFrom peers)
      (∃ p ∈ peers, Peer.Spoiled p) := by
  induction peers with
  | nil => exact .of_ok rfl .nil (by rintro _ ⟨⟩; rfl) (by simp)
  | cons fields peers ih =>
    refine Reading.congr ((Peer.reading fields).bind fun _ => ih.bind fun _ => .ok _)
      (fun ps => ?_) (by simp)
    rw [List.forall₂_cons_left_iff]
    constructor
    · rintro ⟨p, hp, rest, hrest, rfl⟩
      exact ⟨p, rest, hp, hrest, rfl⟩
    · rintro ⟨p, rest, hp, hrest, rfl⟩
      exact ⟨p, hp, rest, hrest, rfl⟩

theorem Entries.itemsOf {v : Value} {items : List (List (String × Value))} (h : Entries v items) :
    itemsOf (orEmptyList v) = .ok (items.map .record) := by
  cases h with
  | missing => rfl
  | list => rw [orEmptyList_list, Sample.itemsOf]

variable {fields : List (String × Value)} {videos peers : List (List (String × Value))}

theorem Shaped.itemsOf_videosField (h : Shaped fields videos peers) :
    itemsOf (videosField fields) = .ok (videos.map .record) := by
  rcases h.videos with list | ⟨missing, entries⟩
  · simp [videosField, list, Value.isNull, itemsOf]
  · simpa [videosField, missing, Value.isNull] using entries.itemsOf

theorem Shaped.reading (h : Shaped fields videos peers) :
    Reading (ofJson (.record fields)) (ReadFrom fields videos peers)
      (Spoiled fields videos peers) := by
  have hofJson : ofJson (.record fields) = ofFields fields := rfl
  rw [hofJson, ofFields, h.itemsOf_videosField, h.peers.itemsOf]
  refine Reading.congr ((reading_counter _).bind fun _ => (reading_videos videos 0).bind fun _ =>
    (reading_peers peers).bind fun _ => .ok _) (fun s => ⟨?_, fun r => ?_⟩) (by simp [Spoiled])
  · rintro ⟨_, timestamp, _, hvideos, _, hpeers, rfl⟩
    exact ⟨timestamp, hvideos, hpeers, rfl, rfl, rfl, rfl⟩
  · refine ⟨_, r.timestamp, _, r.videos, _, r.peers, ?_⟩
    rw [orEmptyText, ← r.address, orEmptyText, ← r.title, orEmptyText, ← r.text, ← r.waiting]

end Snapshot
end StreamWatch.Sample
