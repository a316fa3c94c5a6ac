import StreamWatch.Browser.Rehearsal
import StreamWatch.Proofs.Runner.Evidence
import StreamWatch.Proofs.Scenario.Shortfall

/-! The reason in a report. Where a check answers one, its report shows what the scenario fell short
in: that it timed out, a verdict with failures, or a publisher without a connection. There is one
gap. The publisher is sampled again for the report, and a publisher that had no connection can have
one by then. -/
namespace StreamWatch

open Json (Value)
open Sample (Snapshot)

def Verdict.ofJson? : Value → Option Verdict
  | .record [
      ("hasTracks", .bool hasTracks), ("hasMetadata", .bool hasMetadata),
      ("hasAudioTrack", .bool hasAudioTrack), ("hasVideoTrack", .bool hasVideoTrack),
      ("hasInboundBytes", .bool hasInboundBytes), ("inboundBytes", .int inboundBytes),
      ("inboundAudioBytes", .int inboundAudioBytes),
      ("playbackAdvanced", .bool playbackAdvanced), ("mediaActive", .bool mediaActive)] =>
    some {
      hasTracks, hasMetadata, hasAudioTrack, hasVideoTrack, hasInboundBytes, inboundBytes,
      inboundAudioBytes, playbackAdvanced, mediaActive }
  | _ => none

theorem Verdict.ofJson?_toJson (v : Verdict) : ofJson? v.toJson = some v := rfl

namespace Runner.Scenario

open Browser (Check Timeline World)
open Browser.Rehearsal (get items text?)
open StreamWatch.Scenario (Accounts Entry Progress Reason Round Staged)

def entriesOf (round : Value) : List (String × Value) :=
  match get round "viewers" with
  | .record entries => entries
  | _ => []

def recordedVerdicts (report : Value) : List Value :=
  (items (get report "rounds")).flatMap fun round =>
    (entriesOf round).map fun (_, entry) => get entry "verdict"

def showsTimeout (report : Value) : Bool := text? (get report "state") == some "timed-out"

def showsRejection (settings : Poll.Settings) (report : Value) : Bool :=
  (recordedVerdicts report).any fun v =>
    (Verdict.ofJson? v).any fun verdict => !(verdict.failures settings).isEmpty

def showsNoConnection (report : Value) : Bool :=
  match Snapshot.ofJson (get report "publisherAfter") with
  | .ok last => last.peers.isEmpty
  | .error _ => false

def showsFailure (settings : Poll.Settings) (report : Value) : Bool :=
  showsTimeout report || showsRejection settings report || showsNoConnection report

section

variable {p : Progress} {last : Snapshot} {report : List (String × Value)}

theorem get_record (fields : List (String × Value)) (key : String) :
    get (.record fields) key = Value.field key fields := rfl

theorem showsTimeout_of_tells (htells : Tells p last report) (hstate : p.state = .timedOut) :
    showsTimeout (.record report) = true := by
  rw [showsTimeout, get_record, htells.state, hstate]
  rfl

theorem mem_recordedVerdicts (htells : Tells p last report) {round : Round} {x : String × Entry}
    (hround : round ∈ p.rounds) (hx : x ∈ round.viewers) :
    x.2.verdict.toJson ∈ recordedVerdicts (.record report) := by
  rw [recordedVerdicts, get_record, htells.rounds, List.mem_flatMap]
  refine ⟨round.toJson, List.mem_map_of_mem hround, ?_⟩
  exact List.mem_map.mpr ⟨(x.1, x.2.toJson), List.mem_map.mpr ⟨x, hx, rfl⟩, rfl⟩

theorem showsRejection_of_tells (htells : Tells p last report) {settings : Poll.Settings}
    {round : Round} {x : String × Entry} (hround : round ∈ p.rounds) (hx : x ∈ round.viewers)
    (hfailures : x.2.verdict.failures settings ≠ []) :
    showsRejection settings (.record report) = true := by
  refine List.any_eq_true.mpr ⟨_, mem_recordedVerdicts htells hround hx, ?_⟩
  rw [Verdict.ofJson?_toJson]
  simpa using hfailures

theorem showsNoConnection_of_tells (htells : Tells p last report) (hread : last.Readable) :
    showsNoConnection (.record report) = last.peers.isEmpty := by
  rw [showsNoConnection, get_record, htells.publisherAfter,
    Snapshot.ofJson_toJson_of_readable hread]
  rfl

end

variable {τ : Type}

theorem accounts_finish (s : StreamWatch.Scenario) : Accounts (τ := τ) s (finish s) := by
  intro p w e q v h he
  rw [finish, Staged.bind_run, Staged.onWorld_run] at h
  rcases hcollect : s.publisherSnapshot w with ⟨e' | first, u⟩
  · rw [hcollect] at h
    cases h
    have habrupt : e.isShortfall = false :=
      (Session.stays_collect s.publisher).halt w e (congrArg Prod.fst hcollect)
    rw [habrupt] at he
    cases he
  · rw [hcollect] at h
    dsimp only at h
    split at h
    · next hpeers =>
      cases h
      exact .unconnected (Session.gives_of_collect hcollect) (by simpa using hpeers)
    · cases h

theorem resampled_of_settle {s : StreamWatch.Scenario} {e : Halt} {exit : Nat} {last : Snapshot}
    {w v : World τ} (h : settle s (.error e) w = (.ok (exit, last), v)) :
    ∃ lines printed, Session.Gives { w with log := lines, printed } s.publisher last v := by
  rw [settle] at h
  split at h
  · obtain ⟨_, w₁, hlog, h⟩ := Check.bind_ok h
    obtain ⟨_, w₂, hsay, h⟩ := Check.bind_ok h
    obtain ⟨_, w₃, hcollect, h⟩ := Check.bind_ok h
    cases h
    obtain ⟨lines, rfl⟩ := Check.log_ok hlog
    obtain ⟨printed, rfl⟩ := Check.say_ok hsay
    exact ⟨lines, printed, Session.gives_of_collect hcollect⟩
  · cases h

variable [Timeline τ]

theorem accounts_steps (o : Options) (s : StreamWatch.Scenario) :
    Accounts (τ := τ) s (steps o s) := by
  refine (StreamWatch.Scenario.accounts_start s _ _).bind fun _ =>
    (StreamWatch.Scenario.accounts_poll s).bind fun _ =>
    (StreamWatch.Scenario.accounts_verify s "initial").bind fun _ => ?_
  dsimp only
  split
  · exact (StreamWatch.Scenario.accounts_reloadViewers s).bind fun _ =>
      (StreamWatch.Scenario.accounts_poll s).bind fun _ =>
      (StreamWatch.Scenario.accounts_verify s "after-reload").bind fun _ => accounts_finish s
  · exact accounts_finish s

/-- The steps ended at a publisher without a connection, and it had one when it was sampled for the
report, with nothing but a message in between. -/
structure Reconnected (o : Options) (s : StreamWatch.Scenario) (u : World τ)
    (report : List (String × Value)) : Prop where
  lost : ∃ x first, Session.Gives x s.publisher first (final o s u).world ∧ first.peers = []
  found : ∃ lines printed last x,
    Session.Gives { (final o s u).world with log := lines, printed } s.publisher last x ∧
      last.peers ≠ [] ∧ Tells (final o s u).progress last report

theorem performed_one {o : Options} {output : Report.Path} {s : StreamWatch.Scenario}
    {findings : Findings} {w v : World τ}
    (h : perform o output s w = (.ok (1, findings), v)) :
    ∃ report, findings.toJson = .record report ∧
      (showsFailure s.settings (.record report) = true ∨ Reconnected o s w report) := by
  obtain ⟨report, u, hjson, hsettle, -, htells⟩ := perform_settles h
  refine ⟨report, hjson, ?_⟩
  rcases settle_ok hsettle with ⟨-, hzero⟩ | ⟨e, hend, hshort, -⟩
  · cases hzero
  have hreason : Reason s (final o s w).progress (final o s w).world :=
    accounts_steps o s {} w e _ _ (by rw [← hend]; rfl) hshort
  rw [hend] at hsettle
  obtain ⟨lines, printed, hgives⟩ := resampled_of_settle hsettle
  cases hreason with
  | timedOut hstate =>
    left
    simp [showsFailure, showsTimeout_of_tells htells hstate]
  | rejected hround hx hfailures =>
    left
    simp [showsFailure, showsRejection_of_tells htells hround hx hfailures]
  | unconnected hfirst hnone =>
    by_cases hpeers : findings.publisherAfter.peers = []
    · left
      simp [showsFailure, showsNoConnection_of_tells htells hgives.readable, hpeers]
    · exact .inr ⟨⟨_, _, hfirst, hnone⟩, lines, printed, _, u, hgives, hpeers, htells⟩

/-- A check that answers one leaves a report that shows a failed check, unless it was the publisher
that had no connection, and had one again before the report. -/
theorem run_one {env : Environment} {o : Options} {w v : World τ}
    (h : run env o w = (.ok 1, v)) :
    ∃ output s report, ∃ u : World τ,
      staged env o w = (.ok (output, s), u) ∧
      o.output = some output ∧ settingsOf env o = .ok s.settings ∧
      v.files.read? (.ofText output) = some ((Value.record report).render ++ "\n") ∧
      (showsFailure s.settings (.record report) = true ∨ Reconnected o s u report) := by
  obtain ⟨output, s, findings, u, x, hstaged, hperform, hread⟩ := run_ok h
  obtain ⟨houtput, hs⟩ := staged_ok hstaged
  obtain ⟨report, hjson, hshows⟩ := performed_one hperform
  rw [hjson] at hread
  exact ⟨output, s, report, u, hstaged, houtput, hs.settings, hread, hshows⟩

def stalled : World Rat :=
  let viewer (played : Bool) : Browser.PageScript.Plan :=
    { samples := [false, false, played].map fun later => .ok (watched later) }
  World.start 0 [{ samples := [.ok (.record [("pcStats", .list [.record []])])] },
    viewer true, viewer false]

theorem run_one_stalled :
    ∃ v, run [("VDO_NO_PASSWORD", some "1")] { viewers := 2 } stalled = (.ok 1, v) ∧
      ∃ output s report, ∃ u : World Rat,
        staged [("VDO_NO_PASSWORD", some "1")] { viewers := 2 } stalled = (.ok (output, s), u) ∧
        some "test-results/vdo-scenario/report.json" = some output ∧
        settingsOf [("VDO_NO_PASSWORD", some "1")] { viewers := 2 } = .ok s.settings ∧
        v.files.read? (.ofText output) = some ((Value.record report).render ++ "\n") ∧
        (showsFailure s.settings (.record report) = true ∨
          Reconnected { viewers := 2 } s u report) := by
  have hone : (run [("VDO_NO_PASSWORD", some "1")] { viewers := 2 } stalled).1.toOption =
      some 1 := by
    decide +kernel
  have hrun := Check.run_of_toOption hone
  exact ⟨_, hrun, run_one hrun⟩

def reconnected : World Rat :=
  World.start 0 [
    { samples := [.ok (.record []), .ok (.record [("pcStats", .list [.record []])])] },
    { samples := [false, false, true].map fun later => .ok (watched later) }]

/-- The check answers one, and its report shows no reason. -/
theorem run_one_reconnected :
    ∃ v report, run [("VDO_NO_PASSWORD", some "1")] {} reconnected = (.ok 1, v) ∧
      settingsOf [("VDO_NO_PASSWORD", some "1")] {} = .ok {} ∧
      v.files.read? (.ofText "test-results/vdo-scenario/report.json") =
        some ((Value.record report).render ++ "\n") ∧
      showsFailure {} (.record report) = false := by
  have hone : (run [("VDO_NO_PASSWORD", some "1")] {} reconnected).1.toOption = some 1 := by
    decide +kernel
  have hshown : ((staged [("VDO_NO_PASSWORD", some "1")] {} >>= fun opened =>
      perform {} (.ofText opened.1) opened.2) reconnected).1.toOption.map
      (fun answer => showsFailure {} answer.2.toJson) = some false := by
    decide +kernel
  have hrun := Check.run_of_toOption hone
  obtain ⟨output, s, findings, u, x, hstaged, hperform, hread⟩ := run_ok hrun
  obtain ⟨houtput, -⟩ := staged_ok hstaged
  cases houtput
  rw [Check.bind_of_ok hstaged] at hshown
  dsimp only at hshown
  rw [hperform] at hshown
  exact ⟨_, _, hrun, rfl, hread, Option.some.inj hshown⟩

end Runner.Scenario
end StreamWatch
