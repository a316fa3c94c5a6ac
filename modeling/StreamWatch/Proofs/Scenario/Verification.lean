import StreamWatch.Proofs.Scenario.Stages
import StreamWatch.Proofs.Verdict.Readiness

/-! Rounds that all viewers passed. Each has an entry for every viewer under a name of its own, and
every entry holds two snapshots that were read, with the verdict that follows from them. -/
namespace StreamWatch.Scenario

open Browser (Check Timeline World)
open Sample (Snapshot)
open Session (Sampled)

variable {τ α β : Type}

structure Entry.Passed (settings : Poll.Settings) (e : Entry) : Prop where
  before : e.before.Readable
  after : e.after.Readable
  verdict : e.verdict = .ofSnapshots e.before e.after
  failures : e.verdict.failures settings = []

structure Round.Passed (s : Scenario) (r : Round) : Prop where
  length : r.viewers.length = s.viewers.length
  names : (r.viewers.map (·.1)).Nodup
  entries : ∀ x ∈ r.viewers, x.2.Passed s.settings

inductive Spells (n : Nat) : List Char → Prop
  | character (c : Char) (hc : c.toNat = n) : Spells n [c]
  | surrogate (hn : n < 0x10000) : Spells n (Json.unitEscape n)

theorem letterOf_ok {i : Int} {letter : List Char} (h : letterOf i = .ok letter) :
    ∃ n : Nat, (n : Int) = 65 + i ∧ Spells n letter := by
  unfold letterOf at h
  dsimp only at h
  split at h
  · cases h
  · split at h
    · cases h
    · have hn : ((65 + i).toNat : Int) = 65 + i := by omega
      refine ⟨(65 + i).toNat, hn, ?_⟩
      split at h
      · next hv =>
        cases h
        refine .character _ ?_
        rw [Char.ofNat, dif_pos hv]
        rfl
      · next hv =>
        cases h
        refine .surrogate ?_
        simp only [Nat.isValidChar] at hv
        omega

theorem hexDigits_inj {width m n : Nat} (hm : m < 16 ^ width) (hn : n < 16 ^ width)
    (h : Text.hexDigits width m = Text.hexDigits width n) : m = n := by
  induction width generalizing m n with
  | zero => omega
  | succ w ih =>
    have hlength : (Text.hexDigits w (m / 16)).length = (Text.hexDigits w (n / 16)).length := by
      rw [Text.length_hexDigits, Text.length_hexDigits]
    obtain ⟨hfront, hlast⟩ := List.append_inj h hlength
    have hquot := ih (by omega) (by omega) hfront
    have hvalue := congrArg Text.hexValue? (List.cons.inj hlast).1
    rw [Text.hexValue?_hexDigit (Nat.mod_lt m (by omega)),
      Text.hexValue?_hexDigit (Nat.mod_lt n (by omega))] at hvalue
    have hrem := Option.some.inj hvalue
    omega

theorem Spells.inj {m n : Nat} {letter : List Char} (hm : Spells m letter)
    (hn : Spells n letter) : m = n := by
  cases hm with
  | character c hc =>
    cases hn with
    | character _ hc' => exact hc.symm.trans hc'
  | surrogate hm =>
    generalize hl : Json.unitEscape m = letter at hn
    cases hn with
    | character c hc => cases hl
    | surrogate hn =>
      simp only [Json.unitEscape, List.cons.injEq, true_and] at hl
      exact hexDigits_inj hm hn hl

theorem viewerName_ok {s : Scenario} (hs : s.viewers.length ≠ 1) {i : Int} {name : String}
    (h : s.viewerName i = .ok name) :
    ∃ letter, letterOf i = .ok letter ∧ name = s.label ++ String.ofList letter := by
  unfold viewerName at h
  split at h
  · next hv => simp [hv] at hs
  · cases hc : letterOf i with
    | error f =>
      rw [hc] at h
      cases h
    | ok letter =>
      rw [hc] at h
      cases h
      exact ⟨letter, rfl, rfl⟩

theorem viewerName_inj {s : Scenario} (hs : s.viewers.length ≠ 1) {i j : Int} {name : String}
    (hi : s.viewerName i = .ok name) (hj : s.viewerName j = .ok name) : i = j := by
  obtain ⟨letter, hletter, hname⟩ := viewerName_ok hs hi
  obtain ⟨letter', hletter', hname'⟩ := viewerName_ok hs hj
  have hsame : letter = letter' := by
    have htext := congrArg String.toList (hname.symm.trans hname')
    simpa using htext
  subst hsame
  obtain ⟨m, hm, hspelled⟩ := letterOf_ok hletter
  obtain ⟨n, hn, hspelled'⟩ := letterOf_ok hletter'
  have hmn := hspelled.inj hspelled'
  omega

theorem nil_of_rejection? {settings : Poll.Settings} {name : String} {e : Entry}
    (h : rejection? settings name e = .ok none) : e.verdict.failures settings = [] := by
  obtain ⟨complaints, hc, h⟩ := Sample.bind_ok h
  cases complaints with
  | nil => exact (Verdict.complaints_eq_nil_iff _ settings).mp hc
  | cons complaint more => cases h

/-- The first viewer is judged, then the others; the halt is that on the first to be rejected. -/
theorem judgeFrom_step {s : Scenario} {i : Nat} {before after : Snapshot}
    {samples : List (Snapshot × Snapshot)} {entries : List (String × Entry)} {halt? : Option Halt}
    (h : s.judgeFrom i ((before, after) :: samples) = (entries, .ok halt?)) :
    ∃ name rest first? later?, s.viewerName i = .ok name ∧
      rejection? s.settings name (Entry.ofSnapshots before after) = .ok first? ∧
      s.judgeFrom (i + 1) samples = (rest, .ok later?) ∧
      entries = (name, Entry.ofSnapshots before after) :: rest ∧ halt? = first?.or later? := by
  rw [judgeFrom] at h
  cases hn : s.viewerName i with
  | error f =>
    rw [hn] at h
    cases h
  | ok name =>
    rw [hn] at h
    dsimp only at h
    cases hr : rejection? s.settings name (Entry.ofSnapshots before after) with
    | error f =>
      rw [hr] at h
      cases h
    | ok first? =>
      rw [hr] at h
      rcases hj : s.judgeFrom (i + 1) samples with ⟨rest, f | later?⟩
      · rw [hj] at h
        cases h
      · rw [hj] at h
        cases h
        exact ⟨name, rest, first?, later?, rfl, hr, rfl, rfl, rfl⟩

theorem judgeFrom_cons {s : Scenario} {i : Nat} {before after : Snapshot}
    {samples : List (Snapshot × Snapshot)} {entries : List (String × Entry)}
    (h : s.judgeFrom i ((before, after) :: samples) = (entries, .ok none)) :
    ∃ name rest, s.viewerName i = .ok name ∧
      (Entry.ofSnapshots before after).verdict.failures s.settings = [] ∧
      s.judgeFrom (i + 1) samples = (rest, .ok none) ∧
      entries = (name, Entry.ofSnapshots before after) :: rest := by
  obtain ⟨name, rest, first?, later?, hname, hfirst, hrest, hentries, hnone⟩ := judgeFrom_step h
  obtain ⟨rfl, rfl⟩ := Option.or_eq_none_iff.mp hnone.symm
  exact ⟨name, rest, hname, nil_of_rejection? hfirst, hrest, hentries⟩

theorem judgeFrom_ok {s : Scenario} {i : Nat} {samples : List (Snapshot × Snapshot)}
    {entries : List (String × Entry)} (h : s.judgeFrom i samples = (entries, .ok none))
    (hread : ∀ x ∈ samples, x.1.Readable ∧ x.2.Readable) :
    entries.length = samples.length ∧ (∀ x ∈ entries, x.2.Passed s.settings) ∧
      ∀ x ∈ entries, ∃ j : Nat, i ≤ j ∧ s.viewerName j = .ok x.1 := by
  induction samples generalizing i entries with
  | nil =>
    cases h
    exact ⟨rfl, fun x hx => absurd hx List.not_mem_nil, fun x hx => absurd hx List.not_mem_nil⟩
  | cons sample samples ih =>
    obtain ⟨before, after⟩ := sample
    obtain ⟨name, rest, hname, hfailures, hrest, rfl⟩ := judgeFrom_cons h
    have hr := hread _ List.mem_cons_self
    obtain ⟨hlength, hpassed, hnames⟩ := ih hrest fun x hx => hread x (List.mem_cons_of_mem _ hx)
    refine ⟨by rw [List.length_cons, List.length_cons, hlength], fun x hx => ?_, fun x hx => ?_⟩
    · rcases List.mem_cons.mp hx with rfl | hx
      · exact ⟨hr.1, hr.2, rfl, hfailures⟩
      · exact hpassed x hx
    · rcases List.mem_cons.mp hx with rfl | hx
      · exact ⟨i, Nat.le_refl i, hname⟩
      · obtain ⟨j, hj, hn⟩ := hnames x hx
        exact ⟨j, by omega, hn⟩

theorem names_judgeFrom {s : Scenario} (hs : s.viewers.length ≠ 1) {i : Nat}
    {samples : List (Snapshot × Snapshot)} {entries : List (String × Entry)}
    (h : s.judgeFrom i samples = (entries, .ok none))
    (hread : ∀ x ∈ samples, x.1.Readable ∧ x.2.Readable) : (entries.map (·.1)).Nodup := by
  induction samples generalizing i entries with
  | nil =>
    cases h
    exact List.nodup_nil
  | cons sample samples ih =>
    obtain ⟨before, after⟩ := sample
    obtain ⟨name, rest, hname, -, hrest, rfl⟩ := judgeFrom_cons h
    have hlater : ∀ x ∈ samples, x.1.Readable ∧ x.2.Readable :=
      fun x hx => hread x (List.mem_cons_of_mem _ hx)
    rw [List.map_cons, List.nodup_cons]
    refine ⟨fun hmem => ?_, ih hrest hlater⟩
    -- A later entry under this name would have to stand in this place.
    obtain ⟨x, hx, hxn⟩ := List.mem_map.mp hmem
    obtain ⟨j, hj, hn⟩ := (judgeFrom_ok hrest hlater).2.2 x hx
    rw [hxn] at hn
    have hij := viewerName_inj hs hname hn
    omega

theorem sampleViewers_ok {s : Scenario} {samples : List (Snapshot × Snapshot)} {w v : World τ}
    (h : s.sampleViewers w = (.ok samples, v)) :
    samples.length = s.viewers.length ∧ ∀ x ∈ samples, x.1.Readable ∧ x.2.Readable := by
  obtain ⟨befores, u, hb, h⟩ := Check.bind_ok h
  have hafters : ∃ afters, ∃ u' x : World τ,
      Check.each Session.collect s.viewers u' = (.ok afters, x) ∧
        samples = befores.zip afters := by
    split at h
    · cases h
    · obtain ⟨_, u', -, h⟩ := Check.bind_ok h
      obtain ⟨afters, x, ha, h⟩ := Check.bind_ok h
      cases h
      exact ⟨afters, u', _, ha, rfl⟩
  obtain ⟨afters, u', x, ha, rfl⟩ := hafters
  have hsb := Session.sampled_of_each hb
  have hsa := Session.sampled_of_each ha
  refine ⟨?_, fun y hy => ?_⟩
  · rw [List.length_zip, hsb.length, hsa.length, Nat.min_self]
  · have hmem := List.of_mem_zip hy
    exact ⟨hsb.readable _ hmem.1, hsa.readable _ hmem.2⟩

theorem Staged.bind_ok {act : Staged τ α} {k : α → Staged τ β} {p q : Progress} {w v : World τ}
    {b : β} (h : (act >>= k) p w = ((.ok b, q), v)) :
    ∃ a p' u, act p w = ((.ok a, p'), u) ∧ k a p' u = ((.ok b, q), v) := by
  rw [bind_run] at h
  generalize act p w = r at h
  obtain ⟨⟨e | a, p'⟩, u⟩ := r
  · cases h
  · exact ⟨a, p', u, rfl, h⟩

theorem Staged.onWorld_ok {act : Check τ α} {p q : Progress} {w v : World τ} {a : α}
    (h : onWorld act p w = ((.ok a, q), v)) : act w = (.ok a, v) ∧ q = p := by
  rw [onWorld_run] at h
  generalize act w = r at h ⊢
  obtain ⟨e | b, u⟩ := r
  · cases h
  · cases h
    exact ⟨rfl, rfl⟩

theorem verify_ok {s : Scenario} {name : String} {p q : Progress} {w v : World τ} {round : Round}
    (h : s.verify name p w = ((.ok round, q), v)) :
    round.Passed s ∧ q = { p with rounds := p.rounds ++ [round] } := by
  obtain ⟨samples, p', u, hsample, hjudge⟩ := Staged.bind_ok h
  obtain ⟨hs, rfl⟩ := Staged.onWorld_ok hsample
  obtain ⟨hlength, hread⟩ := sampleViewers_ok hs
  rcases hj : s.judgeFrom 0 samples with ⟨entries, verdict⟩
  rw [hj] at hjudge
  obtain ⟨_, p'', u', hm, hrest⟩ := Staged.bind_ok hjudge
  cases hm
  obtain ⟨halt?, p₃, u'', hverdict, hend⟩ := Staged.bind_ok hrest
  obtain ⟨hv, rfl⟩ := Staged.onWorld_ok hverdict
  obtain ⟨rfl, -⟩ := Check.ok_of_ofFault hv
  cases halt? with
  | some e => cases hend
  | none =>
    cases hend
    obtain ⟨hcount, hpassed, -⟩ := judgeFrom_ok hj hread
    refine ⟨⟨hcount.trans hlength, ?_, hpassed⟩, rfl⟩
    -- The name of a single viewer has no letter, but then there is no other name either.
    by_cases hone : s.viewers.length = 1
    · obtain ⟨x, hx⟩ := List.length_eq_one_iff.mp (hcount.trans (hlength.trans hone))
      simp [hx]
    · exact names_judgeFrom hone hj hread

def SameRounds (a b : Progress × World τ) : Prop := b.1.rounds = a.1.rounds

instance : IsPreorder (Progress × World τ) SameRounds where
  refl _ := rfl
  trans _ _ _ h h' := h'.trans h

abbrev KeepsRounds (act : Staged τ α) : Prop := Staged.Keeps SameRounds act

theorem KeepsRounds.onWorld (act : Check τ α) : KeepsRounds (Scenario.onWorld act) :=
  fun _ _ => rfl

theorem KeepsRounds.enter (s : Scenario) (state : State) :
    KeepsRounds (τ := τ) (s.enter state) := by
  intro p w
  obtain ⟨lines, he⟩ := Staged.enter_run s state p w
  rw [SameRounds, he]
  rfl

theorem keepsRounds_start (s : Scenario) (startupWaitMs settleMs : Option Int) :
    KeepsRounds (τ := τ) (s.start startupWaitMs settleMs) := by
  refine (KeepsRounds.onWorld _).bind fun click => ?_
  have hclick : KeepsRounds (τ := τ) (modifyThe Progress fun p => { p with click := some click }) :=
    fun _ _ => rfl
  refine hclick.bind fun _ => (KeepsRounds.onWorld _).bind fun _ =>
    (KeepsRounds.enter s .navigated).bind fun _ => ?_
  split
  · exact KeepsRounds.enter s .interacted
  · exact .pure ()

theorem keepsRounds_poll [Timeline τ] (s : Scenario) : KeepsRounds (τ := τ) s.poll := by
  refine (KeepsRounds.enter s .polling).bind fun _ => (KeepsRounds.onWorld _).bind
    fun outcome => ?_
  split
  · exact (KeepsRounds.enter s .live).bind fun _ => .pure _
  · exact (KeepsRounds.enter s .timedOut).bind fun _ => .throw _
  · exact .throw _

theorem keepsRounds_reloadViewers (s : Scenario) : KeepsRounds (τ := τ) s.reloadViewers :=
  (KeepsRounds.onWorld _).bind fun _ => KeepsRounds.enter s .reloaded

end StreamWatch.Scenario
