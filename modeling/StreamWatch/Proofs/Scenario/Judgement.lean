import Mathlib.Data.List.Nodup
import StreamWatch.Proofs.Scenario.Verification
import StreamWatch.Proofs.Verdict.Telling

/-! What verifying a scenario records and whom it blames. Its viewers are sampled twice, all of them
before and all of them after one wait; the round that is recorded has an entry for every viewer, and
the first viewer with failures is the one that is blamed. Only a comparison with a number beyond the
digit limit, which has no text, ends a round at the viewer that it is found at. -/
namespace StreamWatch.Scenario

open Browser (Call Check Timeline World)
open Sample (Snapshot)
open Session (Hinders Sampled Unsampled Waits)

variable {τ : Type}

def names (s : Scenario) : List String :=
  if s.viewers.length = 1 then [s.label]
  else (List.range s.viewers.length).map fun i => s.label ++ String.ofList [Char.ofNat (65 + i)]

section

variable {s : Scenario}

theorem length_names (s : Scenario) : s.names.length = s.viewers.length := by
  unfold names
  split
  · next h => exact h.symm
  · rw [List.length_map, List.length_range]

theorem letterOf_nat {i : Nat} (h : i < 50000) : letterOf i = .ok [Char.ofNat (65 + i)] := by
  have hsmall : ¬((65 + i : Int) < -0x80000000 ∨ 0x80000000 ≤ (65 + i : Int)) := by omega
  have hcode : ¬((65 + i : Int) < 0 ∨ 0x110000 ≤ (65 + i : Int)) := by omega
  have hnat : (65 + i : Int).toNat = 65 + i := by omega
  have hvalid : (65 + i).isValidChar := by
    left
    omega
  rw [letterOf, if_neg hsmall, if_neg hcode, hnat, if_pos hvalid]

theorem viewerName_of_lt (hone : s.viewers.length ≠ 1) {i : Nat} (h : i < 50000) :
    s.viewerName i = .ok (s.label ++ String.ofList [Char.ofNat (65 + i)]) := by
  unfold viewerName
  split
  · next hv => simp [hv] at hone
  · rw [letterOf_nat h]
    rfl

theorem viewerName_eq (hfew : s.viewers.length ≤ 50000) {i : Nat} (hi : i < s.names.length) :
    s.viewerName i = .ok s.names[i] := by
  by_cases hone : s.viewers.length = 1
  · obtain ⟨page, hpage⟩ := List.length_eq_one_iff.mp hone
    have hnames : s.names = [s.label] := if_pos hone
    have hname : s.viewerName i = .ok s.label := by rw [viewerName, hpage]
    simp [hnames, hname]
  · have hlt : i < s.viewers.length := s.length_names ▸ hi
    have hnames : s.names = (List.range s.viewers.length).map
        fun i => s.label ++ String.ofList [Char.ofNat (65 + i)] := if_neg hone
    simp [hnames, viewerName_of_lt hone (hlt.trans_le hfew)]

theorem nodup_names (hfew : s.viewers.length ≤ 50000) : s.names.Nodup := by
  by_cases hone : s.viewers.length = 1
  · rw [names, if_pos hone]
    exact List.nodup_singleton _
  · rw [names, if_neg hone]
    refine List.Nodup.map_on (fun i hi j hj hij => ?_) List.nodup_range
    have hnamei := viewerName_of_lt hone ((List.mem_range.mp hi).trans_le hfew)
    have hnamej := viewerName_of_lt hone ((List.mem_range.mp hj).trans_le hfew)
    rw [← hij] at hnamej
    exact Int.ofNat.inj (viewerName_inj hone hnamei hnamej)

end

inductive SampledTwice (s : Scenario) (w : World τ) (befores afters : List Snapshot)
    (v : World τ) : Prop
  | apart {first : Nat} {u x : World τ} :
      Sampled w s.viewers befores u →
      s.viewers.head? = some first →
      Waits u first s.settings.sampleGapMs x →
      Sampled x s.viewers afters v →
      v.calls = w.calls ++ (s.viewers.map Call.evaluate ++
        .wait first (some s.settings.sampleGapMs) :: s.viewers.map Call.evaluate) →
      SampledTwice s w befores afters v

inductive CutShort (s : Scenario) (w : World τ) (h : Halt) (v : World τ) : Prop
  | before {reached : List Nat} : Unsampled w s.viewers reached h v → CutShort s w h v
  | between {first : Nat} {befores : List Snapshot} {u : World τ} :
      Sampled w s.viewers befores u →
      s.viewers.head? = some first →
      Hinders u first s.settings.sampleGapMs h v →
      CutShort s w h v
  | after {first : Nat} {befores : List Snapshot} {reached : List Nat} {u x : World τ} :
      Sampled w s.viewers befores u →
      s.viewers.head? = some first →
      Waits u first s.settings.sampleGapMs x →
      Unsampled x s.viewers reached h v →
      CutShort s w h v

theorem sampleViewers_eq {s : Scenario} {first : Nat} {more : List Nat}
    (h : s.viewers = first :: more) :
    s.sampleViewers (τ := τ) = (do
      let befores ← Check.each Session.collect s.viewers
      Check.wait first s.settings.sampleGapMs
      let afters ← Check.each Session.collect s.viewers
      pure (befores.zip afters)) := by
  rw [sampleViewers, h]

theorem sampleViewers_executes {s : Scenario} (hsome : s.viewers ≠ []) (w : World τ) :
    match s.sampleViewers w with
    | (.ok samples, v) => ∃ befores afters, samples = befores.zip afters ∧
        SampledTwice s w befores afters v
    | (.error h, v) => CutShort s w h v := by
  obtain ⟨first, more, hviewers⟩ := List.exists_cons_of_ne_nil hsome
  have hfirst : s.viewers.head? = some first := by rw [hviewers, List.head?_cons]
  have hb := Session.each_collect_executes s.viewers w
  rw [sampleViewers_eq hviewers]
  rcases hbefore : Check.each Session.collect s.viewers w with ⟨h | befores, u⟩
  · rw [hbefore] at hb
    obtain ⟨reached, hu⟩ := hb
    rw [Check.bind_of_error hbefore]
    exact .before hu
  · rw [hbefore] at hb
    rw [Check.bind_of_ok hbefore]
    have hw := Session.wait_executes first s.settings.sampleGapMs u
    rcases hwait : Check.wait first (some s.settings.sampleGapMs) u with ⟨h | _, x⟩
    · rw [hwait] at hw
      rw [Check.bind_of_error hwait]
      exact .between hb hfirst hw
    · rw [hwait] at hw
      rw [Check.bind_of_ok hwait]
      have ha := Session.each_collect_executes s.viewers x
      rcases hafter : Check.each Session.collect s.viewers x with ⟨h | afters, v⟩
      · rw [hafter] at ha
        obtain ⟨reached, hu⟩ := ha
        rw [Check.bind_of_error hafter]
        exact .after hb hfirst hw hu
      · rw [hafter] at ha
        rw [Check.bind_of_ok hafter]
        refine ⟨befores, afters, rfl, .apart hb hfirst hw ha ?_⟩
        rw [ha.calls, hw.calls, hb.calls]
        simp only [List.append_assoc, List.singleton_append]

/-- What is recorded of the entries of a round, and how it ends: no viewer has failures, or the
first one that has is blamed after all are recorded, or the failures of a viewer have no text and
its entry is the last. -/
inductive Judged (settings : Poll.Settings) (entries : List (String × Entry)) :
    List (String × Entry) → Except Fault (Option Halt) → Prop
  | passed :
      (∀ x ∈ entries, x.2.verdict.failures settings = []) →
      Judged settings entries entries (.ok none)
  | rejected {front back : List (String × Entry)} {x : String × Entry} {texts : List String} :
      entries = front ++ x :: back →
      (∀ y ∈ front, y.2.verdict.failures settings = []) →
      x.2.verdict.failures settings ≠ [] →
      x.2.verdict.complaints settings = .ok texts →
      (∀ y ∈ entries, y.2.verdict.Tellable settings) →
      Judged settings entries entries (.ok (some (.rejected x.1 (some x.2.verdict) texts)))
  | untold {front back : List (String × Entry)} {x : String × Entry} :
      entries = front ++ x :: back →
      (∀ y ∈ front, y.2.verdict.Tellable settings) →
      ¬x.2.verdict.Tellable settings →
      Judged settings entries (front ++ [x]) (.error .unwritableNumber)

section

variable {settings : Poll.Settings} {entries recorded : List (String × Entry)}
  {x : String × Entry} {e : Entry} {name : String}

theorem rejection?_of_nil (h : e.verdict.failures settings = []) :
    rejection? settings name e = .ok none := by
  rw [rejection?, (Verdict.complaints_eq_nil_iff _ settings).mpr h]
  rfl

theorem rejection?_of_failures (name : String) (h : e.verdict.failures settings ≠ [])
    (ht : e.verdict.Tellable settings) : ∃ texts, e.verdict.complaints settings = .ok texts ∧
      rejection? settings name e = .ok (some (.rejected name (some e.verdict) texts)) := by
  obtain ⟨texts, htexts⟩ : ∃ texts, e.verdict.complaints settings = .ok texts :=
    Verdict.texts_of_writable ht
  refine ⟨texts, htexts, ?_⟩
  rw [rejection?, htexts, Sample.ok_bind]
  cases texts with
  | nil => exact absurd ((Verdict.complaints_eq_nil_iff _ settings).mp htexts) h
  | cons text more => rfl

theorem rejection?_of_not_tellable (h : ¬e.verdict.Tellable settings) :
    rejection? settings name e = .error .unwritableNumber := by
  have hcomplaints : e.verdict.complaints settings = .error .unwritableNumber :=
    Verdict.fault_of_not_writable h
  rw [rejection?, hcomplaints]
  rfl

theorem Judged.after_passed {answer : Except Fault (Option Halt)}
    (h : x.2.verdict.failures settings = []) (hj : Judged settings entries recorded answer) :
    Judged settings (x :: entries) (x :: recorded) answer := by
  cases hj with
  | passed hnone => exact .passed (List.forall_mem_cons.mpr ⟨h, hnone⟩)
  | rejected hentries hfront hfailures htexts htold =>
    exact .rejected (congrArg (x :: ·) hentries) (List.forall_mem_cons.mpr ⟨h, hfront⟩) hfailures
      htexts (List.forall_mem_cons.mpr ⟨Verdict.tellable_of_nil h, htold⟩)
  | untold hentries hfront hnot =>
    exact .untold (congrArg (x :: ·) hentries)
      (List.forall_mem_cons.mpr ⟨Verdict.tellable_of_nil h, hfront⟩) hnot

theorem Judged.after_failed {texts : List String} {answer : Except Fault (Option Halt)}
    (h : x.2.verdict.failures settings ≠ []) (ht : x.2.verdict.Tellable settings)
    (htexts : x.2.verdict.complaints settings = .ok texts)
    (hj : Judged settings entries recorded answer) :
    Judged settings (x :: entries) (x :: recorded)
      (answer.map (some (.rejected x.1 (some x.2.verdict) texts)).or) := by
  have hblamed (htold : ∀ y ∈ entries, y.2.verdict.Tellable settings) :
      Judged settings (x :: entries) (x :: entries)
        (.ok (some (.rejected x.1 (some x.2.verdict) texts))) :=
    .rejected (List.nil_append _).symm (fun y hy => absurd hy List.not_mem_nil) h htexts
      (List.forall_mem_cons.mpr ⟨ht, htold⟩)
  cases hj with
  | passed hnone => exact hblamed fun y hy => Verdict.tellable_of_nil (hnone y hy)
  | rejected _ _ _ _ htold => exact hblamed htold
  | untold hentries hfront hnot =>
    exact .untold (congrArg (x :: ·) hentries) (List.forall_mem_cons.mpr ⟨ht, hfront⟩) hnot

end

theorem judgeFrom_judged {s : Scenario} {names : List String}
    {samples : List (Snapshot × Snapshot)} (i : Nat) (hlength : names.length = samples.length)
    (hnames : ∀ j (hj : j < names.length), s.viewerName (i + j : Nat) = .ok names[j]) :
    Judged s.settings (names.zip (samples.map fun x => Entry.ofSnapshots x.1 x.2))
      (s.judgeFrom i samples).1 (s.judgeFrom i samples).2 := by
  induction samples generalizing i names with
  | nil =>
    obtain rfl := List.length_eq_zero_iff.mp hlength
    exact .passed fun x hx => absurd hx List.not_mem_nil
  | cons sample samples ih =>
    obtain ⟨name, names, rfl⟩ := List.exists_cons_of_length_eq_add_one hlength
    have hname : s.viewerName (i : Nat) = .ok name := hnames 0 (Nat.zero_lt_succ _)
    have hrest := ih (i + 1) (Nat.succ.inj hlength) fun j hj => by
      have hplace : i + 1 + j = i + (j + 1) := by omega
      rw [hplace]
      exact hnames (j + 1) (Nat.succ_lt_succ hj)
    let entry := Entry.ofSnapshots sample.1 sample.2
    rw [List.map_cons, List.zip_cons_cons, judgeFrom, hname]
    dsimp only
    by_cases ht : entry.verdict.Tellable s.settings
    · by_cases hf : entry.verdict.failures s.settings = []
      · rw [rejection?_of_nil hf]
        have hsame : (s.judgeFrom (i + 1) samples).2.map none.or =
            (s.judgeFrom (i + 1) samples).2 := by
          rcases (s.judgeFrom (i + 1) samples).2 with f | halt? <;> rfl
        dsimp only
        rw [hsame]
        exact hrest.after_passed (x := (name, entry)) hf
      · obtain ⟨texts, htexts, hr⟩ := rejection?_of_failures name hf ht
        rw [hr]
        exact hrest.after_failed (x := (name, entry)) hf ht htexts
    · rw [rejection?_of_not_tellable ht]
      exact .untold (List.nil_append _).symm (fun y hy => absurd hy List.not_mem_nil) ht

def entries (s : Scenario) (befores afters : List Snapshot) : List (String × Entry) :=
  s.names.zip (List.zipWith Entry.ofSnapshots befores afters)

def answered (round : Round) : Except Fault (Option Halt) → Except Halt Round
  | .ok none => .ok round
  | .ok (some h) => .error h
  | .error f => .error (.fault f)

/-- How a verification goes: one round is recorded of the viewers that were judged, or sampling was
cut short and the rounds are those before. -/
inductive Verification (s : Scenario) (name : String) (p : Progress) (w : World τ) :
    Except Halt Round → Progress → World τ → Prop
  | judged {befores afters : List Snapshot} {v : World τ} {viewers : List (String × Entry)}
      {verdict : Except Fault (Option Halt)} :
      SampledTwice s w befores afters v →
      (s.entries befores afters).map (·.1) = s.names →
      Judged s.settings (s.entries befores afters) viewers verdict →
      Verification s name p w (answered ⟨name, viewers⟩ verdict)
        { p with rounds := p.rounds ++ [⟨name, viewers⟩] } v
  | unsampled {h : Halt} {v : World τ} :
      CutShort s w h v →
      Verification s name p w (.error h) p v

section

variable {s : Scenario} {name : String} {p : Progress} {w : World τ}

theorem SampledTwice.length {befores afters : List Snapshot} {v : World τ}
    (h : SampledTwice s w befores afters v) :
    befores.length = s.viewers.length ∧ afters.length = s.viewers.length := by
  obtain ⟨hb, -, -, ha, -⟩ := h
  exact ⟨hb.length, ha.length⟩

theorem map_fst_entries {befores afters : List Snapshot} (hb : befores.length = s.viewers.length)
    (ha : afters.length = s.viewers.length) :
    (s.entries befores afters).map (·.1) = s.names := by
  refine List.map_fst_zip ?_
  rw [length_names, List.length_zipWith, hb, ha, Nat.min_self]

theorem verify_of_sampled {samples : List (Snapshot × Snapshot)} {v : World τ}
    (h : s.sampleViewers w = (.ok samples, v)) :
    s.verify name p w =
      ((answered ⟨name, (s.judgeFrom 0 samples).1⟩ (s.judgeFrom 0 samples).2,
        { p with rounds := p.rounds ++ [⟨name, (s.judgeFrom 0 samples).1⟩] }), v) := by
  have hsample : (onWorld s.sampleViewers : Staged τ _) p w = ((.ok samples, p), v) := by
    rw [Staged.onWorld_run, h]
  rw [verify, Staged.bind_run, hsample]
  dsimp only
  rcases s.judgeFrom 0 samples with ⟨viewers, f | _ | halt⟩ <;> rfl

theorem verify_of_unsampled {h : Halt} {v : World τ} (hs : s.sampleViewers w = (.error h, v)) :
    s.verify name p w = ((.error h, p), v) := by
  have hsample : (onWorld s.sampleViewers : Staged τ _) p w = ((.error h, p), v) := by
    rw [Staged.onWorld_run, hs]
  rw [verify, Staged.bind_run, hsample]

/-- Whatever the samples are, a round of all viewers is recorded under names of their own, and the
first one that fails is blamed; a viewer is left out only after one whose failures have no text. -/
theorem verify_records_and_blames (hsome : 1 ≤ s.viewers.length)
    (hfew : s.viewers.length ≤ 50000) :
    s.names.length = s.viewers.length ∧ s.names.Nodup ∧
      (∀ i (hi : i < s.names.length), s.viewerName i = .ok s.names[i]) ∧
      Verification s name p w (s.verify name p w).1.1 (s.verify name p w).1.2
        (s.verify name p w).2 := by
  refine ⟨s.length_names, nodup_names hfew, fun i hi => viewerName_eq hfew hi, ?_⟩
  have hne : s.viewers ≠ [] := List.ne_nil_of_length_pos hsome
  have hx := sampleViewers_executes hne w
  rcases hsample : s.sampleViewers w with ⟨h | samples, v⟩
  · rw [hsample] at hx
    rw [verify_of_unsampled hsample]
    exact .unsampled hx
  · rw [hsample] at hx
    obtain ⟨befores, afters, rfl, htwice⟩ := hx
    obtain ⟨hb, ha⟩ := htwice.length
    rw [verify_of_sampled hsample]
    refine .judged htwice (map_fst_entries hb ha) ?_
    have hlength : s.names.length = (befores.zip afters).length := by
      rw [length_names, List.length_zip, hb, ha, Nat.min_self]
    have hjudged := judgeFrom_judged 0 hlength fun j hj => by
      rw [Nat.zero_add]
      exact viewerName_eq hfew hj
    have hentries : (befores.zip afters).map (fun x => Entry.ofSnapshots x.1 x.2) =
        List.zipWith Entry.ofSnapshots befores afters := List.map_zip_eq_zipWith
    rwa [hentries] at hjudged

end

def pair : Scenario where
  config := .ofEnvironment []
  settings := {}
  publisher := 0
  viewers := [1, 2]

def pairShowing (first second : List Json.Value) : World Rat :=
  let plans : List Browser.PageScript.Plan :=
    [{}, { samples := first.map .ok }, { samples := second.map .ok }]
  (World.start 0 plans).addPage.addPage.addPage

def playing (later : Bool) : Json.Value :=
  .record [
    ("videos", .list [.record [("currentTime", .bool later), ("videoWidth", .int 640),
      ("videoHeight", .int 480), ("videoTracks", .int 1)]]),
    ("pcStats", .list [.record [("inboundVideoBytes", .int 9000)]])]

def secondStalls : World Rat := pairShowing [playing false, playing true] [playing false]

theorem verify_records_and_blames_secondStalls :
    (1 ≤ pair.viewers.length ∧ pair.viewers.length ≤ 50000) ∧
      pair.names = ["viewerA", "viewerB"] ∧
      Verification pair "initial" {} secondStalls (pair.verify "initial" {} secondStalls).1.1
        (pair.verify "initial" {} secondStalls).1.2 (pair.verify "initial" {} secondStalls).2 ∧
      ∃ verdict, (pair.verify "initial" {} secondStalls).1.1 =
        .error (.rejected "viewerB" verdict ["playback did not advance"]) := by
  have h := @verify_records_and_blames Rat pair "initial" {} secondStalls (by decide) (by decide)
  exact ⟨⟨by decide, by decide⟩, by decide, h.2.2.2, _, rfl⟩

def deficit : Json.Value := .record [("inboundVideoBytes", .int (1 - Nat.pow 10 4300))]

def secondUntold : World Rat :=
  pairShowing [.record []] [.record [("pcStats", .list [deficit, deficit])]]

/-- All samples are read, and both viewers have failures, but nobody is blamed. -/
theorem verify_blames_nobody_secondUntold :
    (pair.sampleViewers secondUntold).1.toOption.isSome ∧
      ((pair.verify "initial" {} secondUntold).1.2.rounds.map fun round =>
        round.viewers.map fun x => (x.1, (x.2.verdict.failures pair.settings).length)) =
          [[("viewerA", 4), ("viewerB", 4)]] ∧
      ∃ h, (pair.verify "initial" {} secondUntold).1.1 = .error h ∧ h.isShortfall = false := by
  have hanswer : (match (pair.verify "initial" {} secondUntold).1.1 with
      | .ok _ => true
      | .error h => h.isShortfall) = false := by
    decide +kernel
  refine ⟨by decide +kernel, by decide +kernel, ?_⟩
  cases hr : (pair.verify "initial" {} secondUntold).1.1 with
  | ok round =>
    rw [hr] at hanswer
    cases hanswer
  | error h =>
    rw [hr] at hanswer
    exact ⟨h, rfl, hanswer⟩

end StreamWatch.Scenario
