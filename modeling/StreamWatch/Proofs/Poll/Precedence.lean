import Mathlib.Data.List.Forall2
import Mathlib.Data.List.ReduceOption
import Mathlib.Logic.Relator
import StreamWatch.Poll.Settings
import StreamWatch.Proofs.Numeral.Literal
import StreamWatch.Proofs.Sample.RoundTrip

/-! Where the settings of a poll come from. An override counts before a variable, and a variable
that is set before the default; a variable that cannot be read is a fault even under an override.
The intervals are the numbers that stand between commas. -/
namespace StreamWatch.Poll

open Numeral (IsMargin)
open Numeral.Integer (Literal)
open Sample (bind_ok)
open Text (pieces isBlank)

inductive Entry : List Char → Option Int → Prop
  | blank {s : List Char} (h : ∀ c ∈ s, isBlank c = true) : Entry s none
  | number {s : List Char} {n : Int} (h : Literal s n) : Entry s (some n)

def Listed (s : List Char) (ns : List Int) : Prop :=
  ∃ entries, List.Forall₂ Entry (pieces ',' s) entries ∧ ns = entries.reduceOption

namespace Settings

theorem entry_none_iff {s : List Char} : Entry s none ↔ Text.trim s = [] := by
  rw [Text.trim, Text.trimOf_eq_nil_iff]
  exact ⟨fun | .blank h => h, .blank⟩

theorem trim_ne_nil_of_literal {s : List Char} {n : Int} (h : Literal s n) : Text.trim s ≠ [] := by
  obtain ⟨c, hc, hd⟩ := h.exists_digit
  rw [Text.trim, ne_eq, Text.trimOf_eq_nil_iff]
  intro blank
  simp [Numeral.digitValue?_of_isBlank (blank c hc)] at hd

theorem readAll_cons_ok_iff {p : List Char} {ps : List (List Char)} {ns : List Int} :
    readAll (p :: ps) = .ok ns ↔
      ∃ n more, Literal p n ∧ readAll ps = .ok more ∧ ns = n :: more := by
  rw [readAll]
  constructor
  · intro h
    obtain ⟨n, hn, h⟩ := bind_ok h
    obtain ⟨more, hmore, h⟩ := bind_ok h
    cases h
    exact ⟨n, more, Numeral.Integer.literal_of_read hn, hmore, rfl⟩
  · rintro ⟨n, more, hn, hmore, rfl⟩
    rw [Numeral.Integer.read_of_literal hn, hmore]
    rfl

theorem readAll_ok_iff {ps : List (List Char)} {ns : List Int} :
    readAll (ps.filter fun p => Text.trim p ≠ []) = .ok ns ↔
      ∃ entries, List.Forall₂ Entry ps entries ∧ ns = entries.reduceOption := by
  induction ps generalizing ns with
  | nil =>
    constructor
    · intro h
      cases h
      exact ⟨[], .nil, rfl⟩
    · rintro ⟨_, _ | _, rfl⟩
      rfl
  | cons p ps ih =>
    simp only [List.forall₂_cons_left_iff]
    by_cases blank : Text.trim p = []
    · rw [List.filter_cons_of_neg (by simpa using blank), ih]
      constructor
      · rintro ⟨entries, h, rfl⟩
        exact ⟨_, ⟨none, entries, entry_none_iff.mpr blank, h, rfl⟩, rfl⟩
      · rintro ⟨_, ⟨entry, entries, h, rest, rfl⟩, rfl⟩
        cases h with
        | blank => exact ⟨entries, rest, rfl⟩
        | number h => exact absurd blank (trim_ne_nil_of_literal h)
    · rw [List.filter_cons_of_pos (by simpa using blank), readAll_cons_ok_iff]
      constructor
      · rintro ⟨n, more, hn, hmore, rfl⟩
        obtain ⟨entries, h, rfl⟩ := ih.mp hmore
        exact ⟨_, ⟨some n, entries, .number hn, h, rfl⟩, rfl⟩
      · rintro ⟨_, ⟨entry, entries, h, rest, rfl⟩, rfl⟩
        cases h with
        | blank h => exact absurd (entry_none_iff.mp (.blank h)) blank
        | number hn => exact ⟨_, _, hn, ih.mpr ⟨entries, rest, rfl⟩, rfl⟩

theorem readList_ok_iff {s : List Char} {ns : List Int} : readList s = .ok ns ↔ Listed s ns :=
  readAll_ok_iff

theorem exists_entry_iff {p : List Char} :
    (∃ entry, Entry p entry) ↔ ((∃ c ∈ p, isBlank c = false) → ∃ n, Literal p n) := by
  constructor
  · rintro ⟨_, h | h⟩ ⟨c, hc, marked⟩
    · simp [h c hc] at marked
    · exact ⟨_, h⟩
  · intro h
    by_cases marked : ∃ c ∈ p, isBlank c = false
    · obtain ⟨n, hn⟩ := h marked
      exact ⟨some n, .number hn⟩
    · exact ⟨none, .blank fun c hc => by_contra fun hb => marked ⟨c, hc, by simpa using hb⟩⟩

theorem exists_listed_iff {s : List Char} : (∃ ns, Listed s ns) ↔
    ∀ p ∈ pieces ',' s, (∃ c ∈ p, isBlank c = false) → ∃ n, Literal p n := by
  simp only [← exists_entry_iff, Listed]
  generalize pieces ',' s = ps
  induction ps with
  | nil => simp
  | cons p ps ih =>
    rw [List.forall_mem_cons, ← ih]
    simp only [List.forall₂_cons_left_iff]
    constructor
    · rintro ⟨_, _, ⟨entry, entries, h, rest, rfl⟩, rfl⟩
      exact ⟨⟨entry, h⟩, _, entries, rest, rfl⟩
    · rintro ⟨⟨entry, h⟩, _, entries, rest, rfl⟩
      exact ⟨_, _, ⟨entry, entries, h, rest, rfl⟩, rfl⟩

theorem comma_notMem {s : List Char} {entry : Option Int} (h : Entry s entry) : ',' ∉ s := by
  cases h with
  | blank blank => exact fun hc => absurd (blank _ hc) (by decide)
  | number literal => exact literal.notMem (by decide) (by decide) (by decide)

variable {items : List (List Char)} {entries : List (Option Int)}

theorem comma_notMem_of_mem (h : List.Forall₂ Entry items entries) : ∀ s ∈ items, ',' ∉ s := by
  induction h with
  | nil => simp
  | cons hs _ ih => exact List.forall_mem_cons.mpr ⟨comma_notMem hs, ih⟩

theorem listed_intercalate (h : List.Forall₂ Entry items entries)
    (hne : entries.reduceOption ≠ []) :
    Listed ([','].intercalate items) entries.reduceOption := by
  cases h with
  | nil => exact absurd rfl hne
  | cons hs rest =>
    have spelled := List.Forall₂.cons hs rest
    exact ⟨_, by rwa [Text.pieces_intercalate (comma_notMem_of_mem spelled)], rfl⟩

theorem rightUnique_literal : Relator.RightUnique Literal := fun _ _ _ hm hn =>
  Except.ok.inj <|
    (Numeral.Integer.read_of_literal hm).symm.trans (Numeral.Integer.read_of_literal hn)

theorem rightUnique_listed : Relator.RightUnique Listed := fun _ _ _ hm hn =>
  Except.ok.inj ((readList_ok_iff.mpr hm).symm.trans (readList_ok_iff.mpr hn))

section

variable {α : Type} {read : List Char → Except Fault α} {Reads : List Char → α → Prop}
variable {env : Environment} {name : String}

def value? (read : List Char → Except Fault α) (env : Environment) (name : String) :
    Except Fault (Option α) :=
  match env.nonEmpty? name with
  | none => .ok none
  | some s => (read s.toList).map some

theorem number?_eq : number? env name = value? (Numeral.Integer.read 10) env name := rfl

theorem numbers?_eq : numbers? env name = value? readList env name := rfl

theorem nonEmpty?_eq_some_iff {s : String} :
    env.nonEmpty? name = some s ↔ env.get? name = some s ∧ s ≠ "" := by
  simp [Environment.nonEmpty?, Option.filter_eq_some_iff]

theorem nonEmpty?_eq_none_iff :
    env.nonEmpty? name = none ↔ ∀ s, env.get? name = some s → s = "" := by
  simp [Environment.nonEmpty?, Option.filter_eq_none_iff]

/-- An override, else the value of a variable that has a text, else the default. -/
inductive Comes (override : Option α) (text : Option String) (Reads : List Char → α → Prop)
    (default : α) : α → Prop
  | override {a : α} (h : override = some a) : Comes override text Reads default a
  | given {s : String} {a : α} (free : override = none) (h : text = some s) (set : s ≠ "")
      (reads : Reads s.toList a) : Comes override text Reads default a
  | default (free : override = none) (unset : ∀ s, text = some s → s = "") :
      Comes override text Reads default default

theorem Comes.unique (unique : Relator.RightUnique Reads) {override : Option α}
    {text : Option String} {default a b : α} (ha : Comes override text Reads default a)
    (hb : Comes override text Reads default b) : a = b := by
  cases ha with
  | override h => cases hb <;> simp_all
  | given free h set reads =>
    cases hb with
    | given _ h' _ reads' =>
      cases h.symm.trans h'
      exact unique reads reads'
    | override => simp_all
    | default => simp_all
  | default free unset => cases hb <;> simp_all

theorem comes_of_value? (hread : ∀ s a, read s = .ok a ↔ Reads s a) {given : Option α}
    (h : value? read env name = .ok given) (override : Option α) (default : α) :
    Comes override (env.get? name) Reads default ((override.or given).getD default) := by
  cases override with
  | some a => exact .override rfl
  | none =>
    cases text : env.nonEmpty? name with
    | none =>
      simp only [value?, text] at h
      cases h
      exact .default rfl (nonEmpty?_eq_none_iff.mp text)
    | some s =>
      obtain ⟨present, set⟩ := nonEmpty?_eq_some_iff.mp text
      cases value : read s.toList with
      | error f => simp [value?, text, value, Except.map] at h
      | ok a =>
        simp only [value?, text, value] at h
        cases h
        exact .given rfl present set ((hread _ a).mp value)

theorem exists_value?_iff (hread : ∀ s a, read s = .ok a ↔ Reads s a) :
    (∃ given, value? read env name = .ok given) ↔
      ∀ s, env.get? name = some s → s ≠ "" → ∃ a, Reads s.toList a := by
  cases text : env.nonEmpty? name with
  | none =>
    have unset := nonEmpty?_eq_none_iff.mp text
    simp only [value?, text, Except.ok.injEq, exists_eq', true_iff]
    intro s present set
    exact absurd (unset s present) set
  | some s =>
    obtain ⟨present, set⟩ := nonEmpty?_eq_some_iff.mp text
    simp only [value?, text, present, ← hread]
    cases value : read s.toList <;> simp [set, value, Except.map]

end

def numbered : List String :=
  ["VDO_POLL_TIMEOUT_MS", "VDO_MIN_INBOUND_BYTES", "VDO_MIN_INBOUND_AUDIO_BYTES",
    "VDO_SAMPLE_GAP_MS"]

structure Parsable (env : Environment) : Prop where
  numbers : ∀ name ∈ numbered, ∀ s, env.get? name = some s → s ≠ "" → ∃ n, Literal s.toList n
  intervals : ∀ s, env.get? "VDO_POLL_INTERVALS_MS" = some s → s ≠ "" →
    ∀ p ∈ pieces ',' s.toList, (∃ c ∈ p, isBlank c = false) → ∃ n, Literal p n

def Flagged (s : List Char) (on : Bool) : Prop :=
  on = true ↔ String.ofList (Text.lower (Text.trim s)) ∉ Environment.refusals

theorem rightUnique_flagged : Relator.RightUnique Flagged := fun _ _ _ h h' =>
  Bool.eq_iff_iff.mpr (h.trans h'.symm)

structure Settled (env : Environment) (o : Overrides) (s : Settings) : Prop where
  timeoutMs : Comes o.timeoutMs (env.get? "VDO_POLL_TIMEOUT_MS") Literal 70000 s.timeoutMs
  intervalsMs : Comes o.intervalsMs (env.get? "VDO_POLL_INTERVALS_MS") Listed [1000, 2000, 3000]
    s.intervalsMs
  minInboundBytes : Comes o.minInboundBytes (env.get? "VDO_MIN_INBOUND_BYTES") Literal 5000
    s.minInboundBytes
  minInboundAudioBytes : Comes o.minInboundAudioBytes (env.get? "VDO_MIN_INBOUND_AUDIO_BYTES")
    Literal 500 s.minInboundAudioBytes
  requireAudio : Comes o.requireAudio (env.get? "VDO_REQUIRE_AUDIO") Flagged false s.requireAudio
  requireMetadata : Comes o.requireMetadata none Flagged true s.requireMetadata
  sampleGapMs : Comes o.sampleGapMs (env.get? "VDO_SAMPLE_GAP_MS") Literal 7000 s.sampleGapMs

/-- Alike in every field that does not come from this variable. -/
structure AlikeBut (name : String) (s t : Settings) : Prop where
  timeoutMs : name ≠ "VDO_POLL_TIMEOUT_MS" → t.timeoutMs = s.timeoutMs
  intervalsMs : name ≠ "VDO_POLL_INTERVALS_MS" → t.intervalsMs = s.intervalsMs
  minInboundBytes : name ≠ "VDO_MIN_INBOUND_BYTES" → t.minInboundBytes = s.minInboundBytes
  minInboundAudioBytes : name ≠ "VDO_MIN_INBOUND_AUDIO_BYTES" →
    t.minInboundAudioBytes = s.minInboundAudioBytes
  requireAudio : name ≠ "VDO_REQUIRE_AUDIO" → t.requireAudio = s.requireAudio
  requireMetadata : t.requireMetadata = s.requireMetadata
  sampleGapMs : name ≠ "VDO_SAMPLE_GAP_MS" → t.sampleGapMs = s.sampleGapMs

variable {env : Environment} {o : Overrides} {s : Settings}

theorem comes_of_number? {name : String} {given : Option Int}
    (h : number? env name = .ok given) (override : Option Int) (default : Int) :
    Comes override (env.get? name) Literal default ((override.or given).getD default) := by
  rw [number?_eq] at h
  exact comes_of_value? (fun _ _ => Numeral.Integer.read_ok_iff) h override default

theorem comes_of_numbers? {name : String} {given : Option (List Int)}
    (h : numbers? env name = .ok given) (override : Option (List Int)) (default : List Int) :
    Comes override (env.get? name) Listed default ((override.or given).getD default) := by
  rw [numbers?_eq] at h
  exact comes_of_value? (fun _ _ => readList_ok_iff) h override default

theorem comes_requireAudio : Comes o.requireAudio (env.get? "VDO_REQUIRE_AUDIO") Flagged false
    ((o.requireAudio.or ((env.nonEmpty? "VDO_REQUIRE_AUDIO").map fun _ =>
      env.flag "VDO_REQUIRE_AUDIO")).getD false) := by
  cases o.requireAudio with
  | some on => exact .override rfl
  | none =>
    cases text : env.nonEmpty? "VDO_REQUIRE_AUDIO" with
    | none => exact .default rfl (nonEmpty?_eq_none_iff.mp text)
    | some t =>
      obtain ⟨present, set⟩ := nonEmpty?_eq_some_iff.mp text
      refine .given rfl present set ?_
      simp [Flagged, Environment.flag, present]

theorem settled_of_ok (h : ofEnvironment env o = .ok s) : Settled env o s := by
  obtain ⟨timeout, htimeout, h⟩ := bind_ok h
  obtain ⟨intervals, hintervals, h⟩ := bind_ok h
  obtain ⟨bytes, hbytes, h⟩ := bind_ok h
  obtain ⟨audioBytes, haudioBytes, h⟩ := bind_ok h
  obtain ⟨gap, hgap, h⟩ := bind_ok h
  cases h
  have metadata : Comes o.requireMetadata none Flagged true (o.requireMetadata.getD true) := by
    cases o.requireMetadata with
    | some on => exact .override rfl
    | none => exact .default rfl (by simp)
  exact ⟨comes_of_number? htimeout _ _, comes_of_numbers? hintervals _ _,
    comes_of_number? hbytes _ _, comes_of_number? haudioBytes _ _, comes_requireAudio, metadata,
    comes_of_number? hgap _ _⟩

theorem exists_ofEnvironment_iff : (∃ s, ofEnvironment env o = .ok s) ↔ Parsable env := by
  have number (name : String) : (∃ given, number? env name = .ok given) ↔
      ∀ s, env.get? name = some s → s ≠ "" → ∃ n, Literal s.toList n := by
    simp only [number?_eq]
    exact exists_value?_iff fun _ _ => Numeral.Integer.read_ok_iff
  have list (name : String) : (∃ given, numbers? env name = .ok given) ↔
      ∀ s, env.get? name = some s → s ≠ "" → ∃ ns, Listed s.toList ns := by
    simp only [numbers?_eq]
    exact exists_value?_iff fun _ _ => readList_ok_iff
  simp only [exists_listed_iff] at list
  constructor
  · rintro ⟨s, h⟩
    obtain ⟨timeout, htimeout, h⟩ := bind_ok h
    obtain ⟨intervals, hintervals, h⟩ := bind_ok h
    obtain ⟨bytes, hbytes, h⟩ := bind_ok h
    obtain ⟨audioBytes, haudioBytes, h⟩ := bind_ok h
    obtain ⟨gap, hgap, h⟩ := bind_ok h
    refine ⟨?_, (list _).mp ⟨_, hintervals⟩⟩
    simp only [numbered, List.forall_mem_cons, ← number]
    exact ⟨⟨_, htimeout⟩, ⟨_, hbytes⟩, ⟨_, haudioBytes⟩, ⟨_, hgap⟩, by simp⟩
  · rintro ⟨numbers, intervals⟩
    obtain ⟨given, hintervals⟩ := (list _).mpr intervals
    simp only [numbered, List.forall_mem_cons, ← number] at numbers
    obtain ⟨⟨_, htimeout⟩, ⟨_, hbytes⟩, ⟨_, haudioBytes⟩, ⟨_, hgap⟩, -⟩ := numbers
    rw [ofEnvironment, htimeout, hintervals, hbytes, haudioBytes, hgap]
    exact ⟨_, rfl⟩

inductive NumberFault : Fault → Prop
  | notAnInteger (text : String) : NumberFault (.notAnInteger 10 text)
  | tooManyDigits (count : Nat) : NumberFault (.tooManyDigits count)

def Raises {α : Type} (x : Except Fault α) : Prop := ∀ fault, x = .error fault → NumberFault fault

section

variable {α β : Type}

theorem raises_ok (a : α) : Raises (.ok a) := fun _ h => by cases h

theorem Raises.bind {x : Except Fault α} {f : α → Except Fault β} (hx : Raises x)
    (hf : ∀ a, Raises (f a)) : Raises (x >>= f) := by
  cases x with
  | error e =>
    intro fault h
    cases h
    exact hx _ rfl
  | ok a => exact hf a

theorem raises_read (s : List Char) : Raises (Numeral.Integer.read 10 s) := by
  intro fault h
  rcases Numeral.Integer.eq_of_read_error h with rfl | ⟨count, rfl⟩
  · exact .notAnInteger _
  · exact .tooManyDigits _

theorem raises_readAll (ps : List (List Char)) : Raises (readAll ps) := by
  induction ps with
  | nil => exact raises_ok _
  | cons p ps ih => exact (raises_read p).bind fun n => ih.bind fun ns => raises_ok (n :: ns)

theorem raises_readList (s : List Char) : Raises (readList s) := raises_readAll _

theorem raises_value? {read : List Char → Except Fault α} (h : ∀ s, Raises (read s))
    (env : Environment) (name : String) : Raises (value? read env name) := by
  rw [value?]
  split
  · exact raises_ok _
  · next s _ => exact (h s.toList).bind fun a => raises_ok (some a)

end

theorem raises_ofEnvironment (env : Environment) (o : Overrides) :
    Raises (ofEnvironment env o) := by
  have number (name : String) : Raises (number? env name) := raises_value? raises_read env name
  have numbers (name : String) : Raises (numbers? env name) :=
    raises_value? raises_readList env name
  refine (number _).bind fun _ => (numbers _).bind fun _ => (number _).bind fun _ => ?_
  exact (number _).bind fun _ => (number _).bind fun _ => raises_ok _

theorem Settled.alikeBut {env' : Environment} {t : Settings} {name : String}
    (hs : Settled env o s) (ht : Settled env' o t)
    (same : ∀ other, other ≠ name → env'.get? other = env.get? other) : AlikeBut name s t := by
  have field {α : Type} {Reads : List Char → α → Prop} (unique : Relator.RightUnique Reads)
      {override : Option α} {key : String} {default a b : α}
      (ha : Comes override (env.get? key) Reads default a)
      (hb : Comes override (env'.get? key) Reads default b) (other : name ≠ key) : b = a := by
    rw [same key other.symm] at hb
    exact hb.unique unique ha
  exact {
    timeoutMs := field rightUnique_literal hs.timeoutMs ht.timeoutMs
    intervalsMs := field rightUnique_listed hs.intervalsMs ht.intervalsMs
    minInboundBytes := field rightUnique_literal hs.minInboundBytes ht.minInboundBytes
    minInboundAudioBytes :=
      field rightUnique_literal hs.minInboundAudioBytes ht.minInboundAudioBytes
    requireAudio := field rightUnique_flagged hs.requireAudio ht.requireAudio
    requireMetadata := ht.requireMetadata.unique rightUnique_flagged hs.requireMetadata
    sampleGapMs := field rightUnique_literal hs.sampleGapMs ht.sampleGapMs }

theorem intervalFor_eq {ns : List Int} (hne : ns ≠ []) (h : s.intervalsMs = ns) (k : Nat) :
    s.intervalFor k = .ok (ns.getD k (ns.getLast hne)) := by
  subst h
  obtain ⟨first, more, hs⟩ := List.exists_cons_of_ne_nil hne
  simp only [intervalFor, interval, hs]
  simp [List.getLast_eq_getLastD]

theorem eq_nil_of_listed_nil {ns : List Int} (h : Listed [] ns) : ns = [] := by
  have none : Listed [] [] := readList_ok_iff.mp rfl
  exact rightUnique_listed h none

theorem Settled.intervalsMs_eq (hs : Settled env o s) (hitems : List.Forall₂ Entry items entries)
    (hne : entries.reduceOption ≠ [])
    (text : env.get? "VDO_POLL_INTERVALS_MS" = some (.ofList ([','].intercalate items)))
    (free : o.intervalsMs = none) : s.intervalsMs = entries.reduceOption := by
  have listed := listed_intercalate hitems hne
  have comes := hs.intervalsMs
  generalize s.intervalsMs = ns at comes ⊢
  cases comes with
  | override h => simp [free] at h
  | given _ h _ reads =>
    cases text.symm.trans h
    rw [String.toList_ofList] at reads
    exact rightUnique_listed reads listed
  | default _ unset =>
    have empty := congrArg String.toList (unset _ text)
    rw [String.toList_ofList] at empty
    rw [empty] at listed
    exact absurd (eq_nil_of_listed_nil listed) hne

theorem parsable_of_entries
    (numbers : ∀ name ∈ numbered, ∀ s, env.get? name = some s → s ≠ "" → ∃ n, Literal s.toList n)
    (hitems : List.Forall₂ Entry items entries) (hne : entries.reduceOption ≠ [])
    (text : env.get? "VDO_POLL_INTERVALS_MS" = some (.ofList ([','].intercalate items))) :
    Parsable env := by
  refine ⟨numbers, fun s present _ => ?_⟩
  cases text.symm.trans present
  rw [String.toList_ofList]
  exact exists_listed_iff.mp ⟨_, listed_intercalate hitems hne⟩

/-- How an environment and overrides settle everything about a poll: when it is a fault and which
one, where each field comes from, what one variable can change, and what a list of intervals
spells. -/
theorem ofEnvironment_spec (env : Environment) (o : Overrides) :
    ((∃ fault, ofEnvironment env o = .error fault) ↔ ¬Parsable env) ∧
    (∀ fault, ofEnvironment env o = .error fault → NumberFault fault) ∧
    (∀ s, ofEnvironment env o = .ok s → Settled env o s ∧
      ∀ env' name t, (∀ other, other ≠ name → env'.get? other = env.get? other) →
        ofEnvironment env' o = .ok t → AlikeBut name s t) ∧
    (∀ items entries, List.Forall₂ Entry items entries → ∀ hne : entries.reduceOption ≠ [],
      env.get? "VDO_POLL_INTERVALS_MS" = some (.ofList ([','].intercalate items)) →
      o.intervalsMs = none →
      (∀ name ∈ numbered, ∀ s, env.get? name = some s → s ≠ "" → ∃ n, Literal s.toList n) →
      ∃ s, ofEnvironment env o = .ok s ∧ s.intervalsMs = entries.reduceOption ∧
        ∀ k : Nat, s.intervalFor k =
          .ok (entries.reduceOption.getD k (entries.reduceOption.getLast hne))) ∧
    ∀ left n right, (∀ c ∈ left, IsMargin c) → (∀ c ∈ right, IsMargin c) →
      Numeral.Integer.isWritable n = true →
      Entry (left ++ Numeral.Integer.write n ++ right) (some n) := by
  refine ⟨?_, raises_ofEnvironment env o, ?_, ?_, ?_⟩
  · rw [← exists_ofEnvironment_iff]
    cases ofEnvironment env o <;> simp
  · intro s h
    exact ⟨settled_of_ok h, fun env' name t same h' =>
      (settled_of_ok h).alikeBut (settled_of_ok h') same⟩
  · intro items entries hitems hne text free numbers
    obtain ⟨s, h⟩ := exists_ofEnvironment_iff.mpr (parsable_of_entries numbers hitems hne text)
    have intervals := (settled_of_ok h).intervalsMs_eq hitems hne text free
    exact ⟨s, h, intervals, intervalFor_eq hne intervals⟩
  · intro left n right hleft hright writable
    exact .number (Numeral.Integer.literal_write hleft hright writable)

theorem ofEnvironment_spec_spaced :
    let intervals := ("VDO_POLL_INTERVALS_MS", some " 500,\t,-20\n")
    let env : Environment := [("VDO_POLL_TIMEOUT_MS", some "9000"), intervals]
    let env' : Environment := [("VDO_POLL_TIMEOUT_MS", some ""), intervals]
    let s : Settings := { timeoutMs := 9000, intervalsMs := [500, -20] }
    ofEnvironment env {} = .ok s ∧ ofEnvironment env' {} = .ok { s with timeoutMs := 70000 } ∧
      Settled env {} s ∧ AlikeBut "VDO_POLL_TIMEOUT_MS" s { s with timeoutMs := 70000 } ∧
      (∃ s, ofEnvironment env {} = .ok s ∧ s.intervalsMs = [500, -20] ∧
        ∀ k : Nat, s.intervalFor k = .ok ([500, -20].getD k (-20))) ∧
      NumberFault (.notAnInteger 10 "7s") := by
  intro intervals env env' s
  have h : ofEnvironment env {} = .ok s := rfl
  have h' : ofEnvironment env' {} = .ok { s with timeoutMs := 70000 } := rfl
  have gap : ofEnvironment [("VDO_SAMPLE_GAP_MS", some "7s")] {} =
      .error (.notAnInteger 10 "7s") := rfl
  obtain ⟨-, -, settled, listed, written⟩ := ofEnvironment_spec env {}
  obtain ⟨hs, alike⟩ := settled s h
  have same : ∀ other, other ≠ "VDO_POLL_TIMEOUT_MS" → env'.get? other = env.get? other := by
    intro other hne
    simp [env, env', Environment.get?, hne.symm]
  have minus : "-20\n".toList = [] ++ Numeral.Integer.write (-20) ++ ['\n'] := by decide
  have items : List.Forall₂ Entry [" 500".toList, "\t".toList, "-20\n".toList]
      [some 500, none, some (-20)] :=
    .cons (written [' '] 500 [] (List.forall_mem_singleton.mpr (by decide)) nofun
        (by decide +kernel)) <|
      .cons (.blank (List.forall_mem_singleton.mpr rfl)) <|
      .cons (minus ▸ written [] (-20) ['\n'] nofun (List.forall_mem_singleton.mpr (by decide))
        (by decide +kernel)) .nil
  have numbers : ∀ name ∈ numbered, ∀ s, env.get? name = some s → s ≠ "" →
      ∃ n, Literal s.toList n := by
    simp only [numbered, List.forall_mem_cons]
    refine ⟨fun s hs _ => ?_, ?_⟩
    · cases hs
      exact ⟨9000, Numeral.Integer.literal_of_read rfl⟩
    · simp [env, intervals, Environment.get?]
  exact ⟨h, h', hs, alike env' _ _ same h', listed _ _ items (by decide) rfl rfl numbers,
    (ofEnvironment_spec _ {}).2.1 _ gap⟩

/-- An information separator is a blank, and a piece of nothing else is passed over, but beside a
number it is a fault. -/
theorem ofEnvironment_beside_separator :
    let env : Environment := [("VDO_POLL_INTERVALS_MS", some "1,2,\x1c3")]
    "1,2,\x1c3".toList = [','].intercalate
        [Numeral.Integer.write 1, Numeral.Integer.write 2, '\x1c' :: Numeral.Integer.write 3] ∧
      isBlank '\x1c' = true ∧ ofEnvironment env {} = .error (.notAnInteger 10 "\x1c3") :=
  ⟨rfl, rfl, rfl⟩

end Settings
end StreamWatch.Poll
