import StreamWatch.Proofs.Runner.Course

/-! What the report of a check tells. Its fields are those of the progress at the end of the steps
and of the last sample of the publisher; the check answers zero where the steps went well. -/
namespace StreamWatch.Runner.Scenario

open Browser (Check Timeline World)
open Browser.Check (Writes)
open Json (Value)
open Sample (Snapshot)
open StreamWatch.Scenario (Documented Progress Round Settled Staged Step)

variable {τ : Type}

structure Tells (p : Progress) (last : Snapshot) (fields : List (String × Value)) :
    Prop where
  state : Value.field "state" fields = .text p.state.name
  transitions : Value.field "transitions" fields = .list (p.transitions.map fun a => .text a.name)
  rounds : Value.field "rounds" fields = .list (p.rounds.map Round.toJson)
  publisherAfter : Value.field "publisherAfter" fields = last.toJson
  outbound : Value.field "outboundAtPublisher" fields = .int last.outboundBytes
  inbound : ∀ round, p.rounds.getLast? = some round →
    Value.field "inboundAtViewers" fields =
      .record (round.viewers.map fun (name, entry) => (name, .int entry.verdict.inboundBytes))

def streamKeys : List String := [
  "streamId", "hashedStreamId", "noPassword", "password", "roomId", "bitrate", "includeRoomInView",
  "includeSceneInView", "cleanoutput", "pushUrl", "viewUrl"]

theorem field_stream {c : Stream.Config} {stream : List (String × Value)}
    (hc : c.fields = .ok stream) {key : String} (hkey : key ∉ streamKeys)
    (rest : List (String × Value)) : Value.field key (stream ++ rest) = Value.field key rest := by
  rw [Stream.Config.fields] at hc
  cases hn : c.hashedStream with
  | error f =>
    rw [hn] at hc
    cases hc
  | ok name =>
    rw [hn] at hc
    cases hc
    simp only [streamKeys, List.mem_cons, List.not_mem_nil, or_false, not_or] at hkey
    simp [Sample.field_cons, Ne.symm, hkey]

theorem tells_findings {c : Stream.Config} {stream : List (String × Value)} (p : Progress)
    (last : Snapshot) (host : Value) (generatedAt : String) (hc : c.fields = .ok stream) :
    ∃ fields, Findings.toJson ⟨stream ++ p.fields generatedAt, p, last, host⟩ = .record fields ∧
      Tells p last fields := by
  refine ⟨_, rfl, ?_⟩
  simp only [List.append_assoc]
  constructor
  · rw [field_stream hc (by decide)]
    simp [Sample.field_cons, Progress.fields]
  · rw [field_stream hc (by decide)]
    simp [Sample.field_cons, Progress.fields]
  · rw [field_stream hc (by decide)]
    simp [Sample.field_cons, Progress.fields]
  · rw [field_stream hc (by decide)]
    simp [Sample.field_cons, Progress.fields]
  · rw [field_stream hc (by decide)]
    simp [Sample.field_cons, Progress.fields]
  · intro round hround
    rw [field_stream hc (by decide)]
    simp [Sample.field_cons, Progress.fields, inboundAtViewers, hround]

theorem settle_ok {s : StreamWatch.Scenario} {outcome : Except Halt Snapshot} {exit : Nat}
    {last : Snapshot} {w v : World τ} (h : settle s outcome w = (.ok (exit, last), v)) :
    (outcome = .ok last ∧ exit = 0) ∨
      ∃ e, outcome = .error e ∧ e.isShortfall = true ∧ exit = 1 := by
  cases outcome with
  | ok publisherAfter =>
    cases h
    exact .inl ⟨rfl, rfl⟩
  | error e =>
    rw [settle] at h
    by_cases hs : e.isShortfall = true
    · rw [if_pos hs] at h
      obtain ⟨_, _, -, h⟩ := Check.bind_ok h
      obtain ⟨_, _, -, h⟩ := Check.bind_ok h
      obtain ⟨_, _, -, h⟩ := Check.bind_ok h
      cases h
      exact .inr ⟨e, rfl, hs, rfl⟩
    · rw [if_neg hs] at h
      cases h

theorem summary_ok {s : StreamWatch.Scenario} {p : Progress} {summary : List (String × Value)}
    {w v : World τ} (h : s.summary p w = (.ok summary, v)) :
    ∃ stream generatedAt, s.config.fields = .ok stream ∧
      summary = stream ++ p.fields generatedAt := by
  obtain ⟨stream, _, hf, h⟩ := Check.bind_ok h
  obtain ⟨generatedAt, _, -, h⟩ := Check.bind_ok h
  cases h
  exact ⟨stream, generatedAt, (Check.ok_of_ofFault hf).1, rfl⟩

theorem carry_run {α : Type} (p : Progress) (act : Staged τ α) (w : World τ) :
    StreamWatch.Scenario.carry p act w = (.ok (act p w).1, (act p w).2) := rfl

variable [Timeline τ]

theorem perform_settles {o : Options} {output : Report.Path} {s : StreamWatch.Scenario}
    {exit : Nat} {findings : Findings} {w v : World τ}
    (h : perform o output s w = (.ok (exit, findings), v)) :
    ∃ fields, ∃ u : World τ, findings.toJson = .record fields ∧
      settle s (steps o s {} w).1.1 (final o s w).world = (.ok (exit, findings.publisherAfter), u) ∧
      World.Onward u v ∧ Tells (final o s w).progress findings.publisherAfter fields := by
  obtain ⟨⟨outcome, progress⟩, u, hcarry, h⟩ := Check.bind_ok h
  obtain ⟨⟨code, last⟩, u', hsettle, h⟩ := Check.bind_ok h
  obtain ⟨summary, u'', hsummary, h⟩ := Check.bind_ok h
  obtain ⟨host, x, hhost, h⟩ := Check.bind_ok h
  have hx : x = u'' := by
    cases hhost
    rfl
  obtain ⟨stream, generatedAt, hc, rfl⟩ := summary_ok hsummary
  have hfound : exit = code ∧ World.Onward x v ∧
      findings = ⟨stream ++ progress.fields generatedAt, progress, last, host⟩ := by
    dsimp only at h
    split at h
    · obtain ⟨_, _, hpictures, h⟩ := Check.bind_ok h
      have hv := (stays_takePictures s _).of_run hpictures
      cases h
      exact ⟨rfl, hv.onward, rfl⟩
    · cases h
      exact ⟨rfl, refl_of World.Onward _, rfl⟩
  obtain ⟨rfl, hpictures, rfl⟩ := hfound
  obtain ⟨fields, hjson, htells⟩ := tells_findings progress last host generatedAt hc
  rw [carry_run, Prod.mk.injEq, Except.ok.injEq] at hcarry
  obtain ⟨hsteps, rfl⟩ := hcarry
  have hprogress : (final o s w).progress = progress := by rw [final, hsteps]
  have hsummed : World.Onward u' x := hx ▸ ((stays_summary s progress).of_run hsummary).onward
  rw [hsteps, hprogress]
  exact ⟨fields, u', hjson, hsettle, trans_of World.Onward hsummed hpictures, htells⟩

theorem perform_ok {o : Options} {output : Report.Path} {s : StreamWatch.Scenario} {exit : Nat}
    {findings : Findings} {w v : World τ}
    (h : perform o output s w = (.ok (exit, findings), v)) :
    ∃ fields, findings.toJson = .record fields ∧
      World.Onward (final o s w).world v ∧
      Tells (final o s w).progress findings.publisherAfter fields ∧
      Settled (final o s w).progress ∧
      (exit = 0 → (steps o s {} w).1.1 = .ok findings.publisherAfter) := by
  obtain ⟨fields, u, hjson, hsettle, hmore, htells⟩ := perform_settles h
  have hsettled : World.Onward (final o s w).world u :=
    (stays_settle s _).advances.of_run hsettle
  refine ⟨fields, hjson, trans_of World.Onward hsettled hmore, htells, settled_final fun e he => ?_,
    fun hexit => ?_⟩
  · rcases settle_ok hsettle with ⟨hok, -⟩ | ⟨e', hout, hs, -⟩
    · rw [hok] at he
      cases he
    · rw [hout] at he
      cases he
      exact hs
  · rcases settle_ok hsettle with ⟨hok, -⟩ | ⟨_, -, -, hone⟩
    · exact hok
    · omega

omit [Timeline τ] in
theorem advances_afterReport (exit : Nat) :
    Check.Advances (τ := τ) (do
      if exit = 0 then Check.say .success "All viewers are live"
      pure exit) := by
  dsimp only
  split
  · exact (Check.stays_say _ _).advances.bind fun _ => .pure _
  · exact .pure _

omit [Timeline τ] in
theorem answers_of_ok {exit answer : Nat} {w v : World τ}
    (h : (do
        if exit = 0 then Check.say .success "All viewers are live"
        pure exit : Check τ Nat) w = (.ok answer, v)) : exit = answer ∧ World.Onward w v := by
  refine ⟨?_, (advances_afterReport exit).of_run h⟩
  dsimp only at h
  split at h
  · obtain ⟨_, _, -, h⟩ := Check.bind_ok h
    cases h
    rfl
  · cases h
    rfl

theorem writes_performed {D : World τ → Prop} {env : Environment} {o : Options} {w : World τ}
    (hD : ∀ output s exit findings (u x v : World τ), staged env o w = (.ok (output, s), u) →
      perform o (.ofText output) s u = (.ok (exit, findings), x) → x.calls <+: v.calls →
      v.files.read? (.ofText output) = some (findings.toJson.render ++ "\n") → D v) :
    Writes D (run env o) w := by
  have hrun := run_staged env o w
  have hstart := (advances_staged (τ := τ) env o).world w
  rcases hstaged : staged env o w with ⟨e | ⟨output, s⟩, u⟩
  · rw [hstaged] at hrun hstart
    exact .inl (congrArg _ (trans_of World.Onward hstart hrun.2).files)
  · rw [hstaged] at hrun hstart
    dsimp only at hrun
    rcases hperform : perform o (.ofText output) s u with ⟨e | ⟨exit, findings⟩, x⟩
    · have hperformed : World.Onward u x := ((works_perform o _ s).of_run hperform).onward
      rw [hperform] at hrun
      exact .inl (congrArg _ (trans_of World.Onward hstart
        (trans_of World.Onward hperformed hrun.2)).files)
    · have hperformed : World.Onward u x := ((works_perform o _ s).of_run hperform).onward
      rw [hperform] at hrun
      obtain ⟨y, hclosed, hrun⟩ := hrun
      have honward : World.Onward w y :=
        trans_of World.Onward hstart (trans_of World.Onward hperformed hclosed)
      -- Up to here nothing has been written.
      have hwrites : Writes D (conclude output exit findings) y :=
        Report.writes_write (fun _ => advances_afterReport exit) fun v hcalls hread =>
          hD output s exit findings u x v hstaged hperform (hclosed.calls.trans hcalls) hread
      rw [Writes, hrun]
      exact hwrites.imp_left fun h => h.trans (congrArg _ honward.files)

theorem run_ok {env : Environment} {o : Options} {exit : Nat} {w v : World τ}
    (h : run env o w = (.ok exit, v)) :
    ∃ output s findings, ∃ u x : World τ,
      staged env o w = (.ok (output, s), u) ∧
      perform o (.ofText output) s u = (.ok (exit, findings), x) ∧
      v.files.read? (.ofText output) = some (findings.toJson.render ++ "\n") := by
  have hrun := run_staged env o w
  rcases hstaged : staged env o w with ⟨e | ⟨output, s⟩, u⟩
  · rw [hstaged, h] at hrun
    cases hrun.1
  · rw [hstaged] at hrun
    dsimp only at hrun
    rcases hperform : perform o (.ofText output) s u with ⟨e | ⟨code, findings⟩, x⟩
    · rw [hperform, h] at hrun
      cases hrun.1
    · rw [hperform, h] at hrun
      obtain ⟨y, -, hconclude⟩ := hrun
      obtain ⟨_, z, hwrite, hend⟩ := Check.bind_ok hconclude.symm
      obtain ⟨rfl, hz⟩ := answers_of_ok hend
      refine ⟨output, s, findings, u, x, rfl, hperform, ?_⟩
      rw [hz.files]
      exact Report.read?_of_write_ok hwrite

def Reported (o : Options) (output : String) (s : StreamWatch.Scenario) (u v : World τ) : Prop :=
  ∃ report last,
    v.files.read? (.ofText output) = some ((Value.record report).render ++ "\n") ∧
    Settled (final o s u).progress ∧
    Tells (final o s u).progress last report

/-- The course of a check whose scenario `s` was started in the world `u`: the points between the
parts of its run lead step by step from a fresh progress to the end of the scenario, and the report,
if there is one, tells of that end. -/
structure Course (env : Environment) (o : Options) (w : World τ) (output : String)
    (s : StreamWatch.Scenario) (u : World τ) : Prop where
  options : OfOptions env o s
  place : o.output = some output
  whole : Staged.inOrder (τ := τ) (parts o s) = (Scenario.steps o s).discard
  first : (points o s u).head? = some ⟨{}, u⟩
  last : (points o s u).getLast? = some (final o s u)
  steps : (points o s u).IsChain (Step s o.reload u)
  documented : ∀ a ∈ points o s u, Documented a.progress
  called : ∀ a ∈ points o s u,
    w.calls <+: a.world.calls ∧ a.world.calls <+: (run env o w).2.calls
  report : World.Unwritten w (run env o w).2 ∨ Reported o output s u (run env o w).2

/-- A check either ends before its scenario begins, as its opening does and without a report, or it
follows the course of the scenario. -/
theorem run_course (env : Environment) (o : Options) (w : World τ) :
    match staged env o w with
    | (.error h, u) => (run env o w).1 = .error h ∧ u.calls <+: (run env o w).2.calls ∧
        World.Unwritten w (run env o w).2
    | (.ok (output, s), u) => Course env o w output s u := by
  have hrun := run_staged env o w
  have hstart := (advances_staged (τ := τ) env o).world w
  have hwrites : Writes (fun v => ∃ output s u, staged env o w = (.ok (output, s), u) ∧
      Reported o output s u v) (run env o) w :=
    writes_performed fun output s exit findings u x v hstaged hperform hend hread => by
      obtain ⟨report, hjson, -, htells, hsettled, -⟩ := perform_ok hperform
      rw [hjson] at hread
      exact ⟨output, s, u, hstaged, report, _, hread, hsettled, htells⟩
  rcases hstaged : staged env o w with ⟨e | ⟨output, s⟩, u⟩
  · rw [hstaged] at hrun hstart
    exact ⟨hrun.1, hrun.2.calls, congrArg _ (trans_of World.Onward hstart hrun.2).files⟩
  · rw [hstaged] at hrun hstart hwrites
    have hfinal : (final o s u).world.calls <+: (run env o w).2.calls := by
      have hperformed := (quiet_perform o (.ofText output) s u).calls
      dsimp only at hrun
      rcases hperform : perform o (.ofText output) s u with ⟨e | ⟨exit, findings⟩, x⟩
      · rw [hperform] at hrun hperformed
        exact hperformed.trans hrun.2.calls
      · rw [hperform] at hrun hperformed
        obtain ⟨y, hclosed, hconclude⟩ := hrun
        rw [hconclude, ((uncalled_conclude output exit findings).world y).calls]
        exact hperformed.trans hclosed.calls
    obtain ⟨houtput, hs⟩ := staged_ok hstaged
    exact {
      options := hs
      place := houtput
      whole := inOrder_parts o s
      first := Staged.head?_through _ _
      last := getLast?_points o s u
      steps := (points_chain o s u).1
      documented := documented_points o s u
      called := fun a ha =>
        ⟨hstart.calls.trans (works_points o s u a ha).1.calls,
          (works_points o s u a ha).2.calls.trans hfinal⟩
      report := hwrites.imp_right fun ⟨_, _, _, h, hreported⟩ => by
        obtain ⟨⟨rfl, rfl⟩, rfl⟩ := by simpa using h
        exact hreported }

end StreamWatch.Runner.Scenario
