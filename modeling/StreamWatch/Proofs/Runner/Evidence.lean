import StreamWatch.Proofs.Runner.Findings
import StreamWatch.Proofs.Scenario.Verification

/-! The evidence in a report. Where a check answers zero, the verdicts and byte counts of its report
follow from the snapshots that stand beside them, once these are read again. -/
namespace StreamWatch.Runner.Scenario

open Browser (Check Timeline World)
open Json (Value)
open Sample (Snapshot)
open StreamWatch.Scenario (Entry KeepsRounds Progress Round Staged)

def EntryBacked (settings : Poll.Settings) (entry : Value) : Prop :=
  ∃ fields before after, entry = .record fields ∧
    Snapshot.ofJson (Value.field "before" fields) = .ok before ∧
    Snapshot.ofJson (Value.field "after" fields) = .ok after ∧
    Value.field "verdict" fields = (Verdict.ofSnapshots before after).toJson ∧
    (Verdict.ofSnapshots before after).failures settings = []

def IsRoundOf (entries : List (String × Value)) (round : Value) : Prop :=
  ∃ fields, round = .record fields ∧ Value.field "viewers" fields = .record entries

def RoundBacked (settings : Poll.Settings) (viewers : Nat) (round : Value) : Prop :=
  ∃ entries, IsRoundOf entries round ∧ entries.length = viewers ∧ (entries.map (·.1)).Nodup ∧
    ∀ x ∈ entries, EntryBacked settings x.2

def CountBacked (entry count : String × Value) : Prop :=
  count.1 = entry.1 ∧ ∃ fields after, entry.2 = .record fields ∧
    Snapshot.ofJson (Value.field "after" fields) = .ok after ∧ count.2 = .int after.inboundBytes

structure ReportBacked (settings : Poll.Settings) (viewers rounds : Nat)
    (report : List (String × Value)) : Prop where
  state : Value.field "state" report = .text "live"
  rounds : ∃ items, Value.field "rounds" report = .list items ∧ items.length = rounds ∧
    (∀ round ∈ items, RoundBacked settings viewers round) ∧
    ∃ lastRound entries counts, items.getLast? = some lastRound ∧ IsRoundOf entries lastRound ∧
      Value.field "inboundAtViewers" report = .record counts ∧
      List.Forall₂ CountBacked entries counts
  publisher : ∃ last, Snapshot.ofJson (Value.field "publisherAfter" report) = .ok last ∧
    last.peers ≠ [] ∧ Value.field "outboundAtPublisher" report = .int last.outboundBytes

theorem entryBacked_toJson {settings : Poll.Settings} {e : Entry} (h : e.Passed settings) :
    EntryBacked settings e.toJson := by
  have hverdict := Verdict.ofSnapshots_settled e.before e.after
  refine ⟨_, e.before.settled, e.after.settled, rfl, ?_, ?_, ?_, ?_⟩
  · simpa [Sample.field_cons] using Snapshot.ofJson_toJson_of_readable h.before
  · simpa [Sample.field_cons] using Snapshot.ofJson_toJson_of_readable h.after
  · simp [Sample.field_cons, hverdict, h.verdict]
  · rw [hverdict, ← h.verdict]
    exact h.failures

theorem isRoundOf_toJson (r : Round) :
    IsRoundOf (r.viewers.map fun (name, entry) => (name, entry.toJson)) r.toJson := by
  refine ⟨_, rfl, ?_⟩
  simp [Sample.field_cons]

theorem roundBacked_toJson {s : StreamWatch.Scenario} {r : Round} (h : r.Passed s) :
    RoundBacked s.settings s.viewers.length r.toJson := by
  refine ⟨_, isRoundOf_toJson r, ?_, ?_, ?_⟩
  · rw [List.length_map, h.length]
  · rw [List.map_map]
    exact h.names
  · intro x hx
    obtain ⟨y, hy, rfl⟩ := List.mem_map.mp hx
    exact entryBacked_toJson (h.entries y hy)

theorem countBacked_toJson {settings : Poll.Settings} {name : String} {e : Entry}
    (h : e.Passed settings) :
    CountBacked (name, e.toJson) (name, .int e.verdict.inboundBytes) := by
  refine ⟨rfl, _, e.after.settled, rfl, ?_, ?_⟩
  · simpa [Sample.field_cons] using Snapshot.ofJson_toJson_of_readable h.after
  · rw [h.verdict]
    rfl

theorem reportBacked_of_tells {s : StreamWatch.Scenario} {p : Progress} {last : Snapshot}
    {report : List (String × Value)} {rounds : Nat} (htells : Tells p last report)
    (hstate : p.state = .live) (hrounds : p.rounds.length = rounds) (hpos : 0 < rounds)
    (hpassed : ∀ r ∈ p.rounds, r.Passed s) (hlast : last.Readable) (hpeers : last.peers ≠ []) :
    ReportBacked s.settings s.viewers.length rounds report where
  state := by rw [htells.state, hstate]; rfl
  rounds := by
    refine ⟨_, htells.rounds, by rw [List.length_map, hrounds], fun round hround => ?_, ?_⟩
    · obtain ⟨r, hr, rfl⟩ := List.mem_map.mp hround
      exact roundBacked_toJson (hpassed r hr)
    · have hne : p.rounds ≠ [] := by
        rintro hnil
        rw [hnil] at hrounds
        exact absurd hrounds.symm (by simpa using Nat.ne_of_gt hpos)
      have hget := List.getLast?_eq_some_getLast hne
      have hr := hpassed _ (List.getLast_mem hne)
      refine ⟨_, _, _, by rw [List.getLast?_map, hget]; rfl, isRoundOf_toJson _,
        htells.inbound _ hget, ?_⟩
      rw [List.forall₂_map_left_iff, List.forall₂_map_right_iff, List.forall₂_same]
      exact fun x hx => countBacked_toJson (hr.entries x hx)
  publisher := by
    refine ⟨last.settled, ?_, hpeers, ?_⟩
    · rw [htells.publisherAfter]
      exact Snapshot.ofJson_toJson_of_readable hlast
    · rw [htells.outbound]
      rfl

variable {τ : Type}

theorem finish_ok {s : StreamWatch.Scenario} {last : Snapshot} {p q : Progress} {w v : World τ}
    (h : finish s p w = ((.ok last, q), v)) :
    q = p ∧ last.Readable ∧ last.peers ≠ [] := by
  obtain ⟨publisherAfter, p', u, hsample, hrest⟩ := Staged.bind_ok h
  obtain ⟨hcollect, rfl⟩ := Staged.onWorld_ok hsample
  have hread := (Session.gives_of_collect hcollect).readable
  dsimp only at hrest
  split at hrest
  · cases hrest
  · next hpeers =>
    cases hrest
    exact ⟨rfl, hread, by simpa using hpeers⟩

variable [Timeline τ]

theorem steps_ok {o : Options} {s : StreamWatch.Scenario} {last : Snapshot} {q : Progress}
    {w v : World τ} (h : steps o s {} w = ((.ok last, q), v)) :
    q.rounds.length = (if o.reload then 2 else 1) ∧ (∀ r ∈ q.rounds, r.Passed s) ∧
      last.Readable ∧ last.peers ≠ [] := by
  obtain ⟨_, p₁, w₁, hstart, h₁⟩ := Staged.bind_ok h
  obtain ⟨_, p₂, w₂, hpoll, h₂⟩ := Staged.bind_ok h₁
  obtain ⟨first, p₃, w₃, hverify, h₃⟩ := Staged.bind_ok h₂
  obtain ⟨hfirst, rfl⟩ := StreamWatch.Scenario.verify_ok hverify
  have hnone : p₂.rounds = [] :=
    ((StreamWatch.Scenario.keepsRounds_poll s).of_run hpoll).trans
      ((StreamWatch.Scenario.keepsRounds_start s _ _).of_run hstart)
  dsimp only at h₃
  split at h₃
  · next hreload =>
    obtain ⟨_, p₄, w₄, hre, h₄⟩ := Staged.bind_ok h₃
    obtain ⟨_, p₅, w₅, hagain, h₅⟩ := Staged.bind_ok h₄
    obtain ⟨second, p₆, w₆, hverify', h₆⟩ := Staged.bind_ok h₅
    obtain ⟨hsecond, rfl⟩ := StreamWatch.Scenario.verify_ok hverify'
    obtain ⟨rfl, hread, hpeers⟩ := finish_ok h₆
    have hone : p₅.rounds = [first] := by
      rw [(StreamWatch.Scenario.keepsRounds_poll s).of_run hagain,
        (StreamWatch.Scenario.keepsRounds_reloadViewers s).of_run hre, hnone, List.nil_append]
    rw [hone, if_pos hreload]
    refine ⟨rfl, fun r hr => ?_, hread, hpeers⟩
    rcases List.mem_append.mp hr with hr | hr
    · rw [List.mem_singleton.mp hr]
      exact hfirst
    · rw [List.mem_singleton.mp hr]
      exact hsecond
  · next hreload =>
    obtain ⟨rfl, hread, hpeers⟩ := finish_ok h₃
    rw [hnone, if_neg hreload]
    refine ⟨rfl, fun r hr => ?_, hread, hpeers⟩
    rw [List.mem_singleton.mp hr]
    exact hfirst

theorem reportBacked_final {o : Options} {s : StreamWatch.Scenario} {last : Snapshot}
    {report : List (String × Value)} {u : World τ} (h : (steps o s {} u).1.1 = .ok last)
    (htells : Tells (final o s u).progress last report) :
    ReportBacked s.settings s.viewers.length (if o.reload then 2 else 1) report := by
  have hrun : steps o s {} u = ((.ok last, (final o s u).progress), (steps o s {} u).2) := by
    rw [← h]
    rfl
  obtain ⟨hrounds, hpassed, hread, hpeers⟩ := steps_ok hrun
  refine reportBacked_of_tells htells (live_final h) hrounds ?_ hpassed hread hpeers
  split
  · exact Nat.succ_pos 1
  · exact Nat.succ_pos 0

/-- A check that answers zero leaves a report whose evidence bears out all that it says. -/
theorem run_zero {env : Environment} {o : Options} {w v : World τ}
    (h : run env o w = (.ok 0, v)) :
    ∃ settings output report, settingsOf env o = .ok settings ∧ o.output = some output ∧
      v.files.read? (.ofText output) = some ((Value.record report).render ++ "\n") ∧
      ReportBacked settings o.viewers.toNat (if o.reload then 2 else 1) report := by
  obtain ⟨output, s, findings, u, x, hstaged, hperform, hread⟩ := run_ok h
  obtain ⟨hout, hs⟩ := staged_ok hstaged
  obtain ⟨report, hjson, -, htells, -, hexit⟩ := perform_ok hperform
  have hbacked := reportBacked_final (hexit rfl) htells
  rw [hjson] at hread
  rw [hs.viewers] at hbacked
  exact ⟨s.settings, output, report, hs.settings, hout, hread, hbacked⟩

def watched (later : Bool) : Value :=
  .record [
    ("videos", .list [.record [
      ("currentTime", .bool later), ("videoWidth", .int 640), ("videoHeight", .int 480),
      ("videoTracks", .int 1)]]),
    ("pcStats", .list [.record [("inboundVideoBytes", .int 9000)]])]

def rehearsed : World Rat :=
  let viewer : Browser.PageScript.Plan :=
    { samples := [false, false, true, false, false, true].map fun later => .ok (watched later) }
  World.start 0 [{ samples := [.ok (.record [("pcStats", .list [.record []])])] }, viewer, viewer]

theorem run_zero_twoViewers :
    ∃ v, run [("VDO_NO_PASSWORD", some "1")] { viewers := 2, reload := true } rehearsed =
        (.ok 0, v) ∧
      ∃ settings output report,
        settingsOf [("VDO_NO_PASSWORD", some "1")] { viewers := 2, reload := true } =
          .ok settings ∧
        some "test-results/vdo-scenario/report.json" = some output ∧
        v.files.read? (.ofText output) = some ((Value.record report).render ++ "\n") ∧
        ReportBacked settings 2 2 report := by
  have hzero : (run [("VDO_NO_PASSWORD", some "1")] { viewers := 2, reload := true }
      rehearsed).1.toOption = some 0 := by
    decide +kernel
  have hrun : run [("VDO_NO_PASSWORD", some "1")] { viewers := 2, reload := true } rehearsed =
      (.ok 0, (run [("VDO_NO_PASSWORD", some "1")] { viewers := 2, reload := true }
        rehearsed).2) := by
    generalize run [("VDO_NO_PASSWORD", some "1")] { viewers := 2, reload := true } rehearsed = r
      at hzero ⊢
    obtain ⟨h | exit, v⟩ := r
    · cases hzero
    · cases hzero
      rfl
  exact ⟨_, hrun, run_zero hrun⟩

end StreamWatch.Runner.Scenario
