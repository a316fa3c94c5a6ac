import StreamWatch.Proofs.Report.Writing
import StreamWatch.Proofs.Runner.Findings
import StreamWatch.Proofs.Runner.TwoBrowsers
import StreamWatch.Proofs.Session.Health
import StreamWatch.Proofs.Verdict.Readiness

/-! The exit contract of the check across browsers. Either something failed before the viewer was
sampled a second time, and the check ends with one and no report; or nothing did, and there is a
report whose two samples decide between zero and one. -/
namespace StreamWatch

open Browser (Call Check Engine Timeline World)
open Browser.Check (Confined Meets Passive)
open Browser.World (Blames Idle Sound Spoilt Unwritten)
open Json (Value)
open Sample (Snapshot)

variable {τ : Type}

namespace Runner.CrossBrowser

def launched (env : Environment) (o : Options) :
    Check τ (Stream.Config × Poll.Settings × Nat × Nat) := do
  let c ← Stream.announce env
  let settings ← Check.ofFault (settingsOf env o)
  let push := c.pushLink
  let view := c.viewLink
  Check.say .note s!"Push URL (Chromium): {push}"
  Check.say .note s!"View URL (Firefox):  {view}"
  let publisherBrowser ← Session.launchChromium (!o.headed) true
  let viewerBrowser ← Session.launchFirefox (!o.headed)
  pure (c, settings, publisherBrowser, viewerBrowser)

def entered (c : Stream.Config) (publisherBrowser viewerBrowser : Nat) :
    Check τ (Nat × Nat × Nat) := do
  let (publisherContext, publisher) ← Session.openPage publisherBrowser true true
  let (viewerContext, viewer) ← Session.openPage viewerBrowser false true
  let _ ← Session.startPublisher publisher c.pushLink Session.startupWaitMs Session.settleMs
  Session.openViewer viewer c.viewLink
  pure (publisherContext, viewerContext, viewer)

def samplePair [Timeline τ] (o : Options) (settings : Poll.Settings) (viewer : Nat) :
    Check τ (Snapshot × Snapshot) := do
  let first ← firstLive o.limits settings viewer
  Check.wait viewer settings.sampleGapMs
  let second ← Session.collect viewer
  pure (first, second)

def judge (o : Options) (c : Stream.Config) (first second : Snapshot) : Check τ Verdict := do
  let findings : Findings := {
    stream := ← Check.ofFault c.fields
    first, second
    host := ← Report.host }
  Report.write findings.toJson (.ofText (← Check.given o.output)) true
  pure findings.verdict

def closeContexts (publisherContext viewerContext : Nat) : Check τ Unit := do
  Check.closeContext viewerContext
  Check.closeContext publisherContext

section

variable [Timeline τ]

theorem run_eq (env : Environment) (o : Options) :
    run (τ := τ) env o = (do
      let (c, settings, publisherBrowser, viewerBrowser) ← launched env o
      let verdict ← Check.ensuring (inspect o c settings publisherBrowser viewerBrowser)
        (Check.closePair viewerBrowser publisherBrowser)
      conclude settings verdict) := by
  simp only [run, launched, Check.closePair, bind_assoc, pure_bind]

theorem inspect_eq (o : Options) (c : Stream.Config) (settings : Poll.Settings)
    (publisherBrowser viewerBrowser : Nat) :
    inspect (τ := τ) o c settings publisherBrowser viewerBrowser = (do
      let (publisherContext, viewerContext, viewer) ← entered c publisherBrowser viewerBrowser
      let (first, second) ← samplePair o settings viewer
      let verdict ← judge o c first second
      closeContexts publisherContext viewerContext
      pure verdict) := by
  simp only [inspect, entered, samplePair, judge, closeContexts, bind_assoc, pure_bind]

/-- The check that starts in `u` comes to `x` with both links open, and is about to poll. -/
def ComesTo (env : Environment) (o : Options) (u : World τ) (settings : Poll.Settings)
    (viewer : Nat) (x : World τ) : Prop :=
  ∃ c publisherBrowser viewerBrowser publisherContext viewerContext w,
    launched env o u = (.ok (c, settings, publisherBrowser, viewerBrowser), w) ∧
    entered c publisherBrowser viewerBrowser w =
      (.ok (publisherContext, viewerContext, viewer), x)

def Polls (env : Environment) (o : Options) (u : World τ)
    (outcome : Except Halt (List Snapshot)) : Prop :=
  ∃ settings viewer x y, ComesTo env o u settings viewer x ∧
    Poll.untilLiveWithin o.limits settings label [viewer] x = (outcome, y)

theorem Polls.unique {env : Environment} {o : Options} {u : World τ}
    {outcome other : Except Halt (List Snapshot)} (h : Polls env o u outcome)
    (h' : Polls env o u other) : outcome = other := by
  obtain ⟨_, _, _, _, ⟨_, _, _, _, _, _, hlaunch, henter⟩, hpoll⟩ := h
  obtain ⟨_, _, _, _, ⟨_, _, _, _, _, _, hlaunch', henter'⟩, hpoll'⟩ := h'
  cases hlaunch.symm.trans hlaunch'
  cases henter.symm.trans henter'
  cases hpoll.symm.trans hpoll'
  rfl

/-- What can fail in a check that goes from `u` to `v`: a launch, opening a context or a page, a
call on a page that it opened, or its poll. -/
inductive Failing (env : Environment) (o : Options) (u v : World τ) : Prop
  | launch {engine : Engine} {message : String} :
      u.launchFailure engine = some message → Failing env o u v
  | opening {made : List Call} {c : Call} {message : String} :
      v.calls = u.calls ++ made → c ∈ made → u.openings.refusal c = some message →
      Failing env o u v
  | page {k : Nat} : u.pages.length ≤ k → ¬ (v.page k).Well → Failing env o u v
  | poll {label : String} {timeoutMs : Int} {last : List Snapshot} :
      Polls env o u (.error (.notLive label timeoutMs last)) → Failing env o u v

structure Recounts (report : List (String × Value)) (verdict : Verdict) : Prop where
  samples : ∃ first second,
    Snapshot.ofJson (Value.field "viewerSample1" report) = .ok first ∧
    Snapshot.ofJson (Value.field "viewerSample2" report) = .ok second ∧
    verdict = .ofSnapshots first second
  hasTracks : Value.field "hasTracks" report = .bool verdict.hasTracks
  hasMetadata : Value.field "hasMetadata" report = .bool verdict.hasMetadata
  inboundBytes : Value.field "inboundBytes" report = .int verdict.inboundBytes
  playbackAdvanced : Value.field "playbackAdvanced" report = .bool verdict.playbackAdvanced

def Reports (o : Options) (verdict : Verdict) (v : World τ) : Prop :=
  ∃ output report, o.output = some output ∧
    v.files.read? (.ofText output) = some ((Value.record report).render ++ "\n") ∧
    Recounts report verdict

structure Unfailing (env : Environment) (o : Options) (u v : World τ) : Prop where
  launched : ∀ engine, u.launchFailure engine = none
  polled : ∃ snapshots, Polls env o u (.ok snapshots)
  sound : Sound u [] v

structure Settled (env : Environment) (o : Options) (u : World τ) (settings : Poll.Settings)
    (verdict : Verdict) (v : World τ) : Prop where
  settings : settingsOf env o = .ok settings
  unfailing : Unfailing env o u v
  reported : Reports o verdict v

variable {env : Environment} {o : Options} {u v w : World τ}

theorem Failing.of_spoilt (h : Spoilt u v) : Failing env o u v := by
  cases h with
  | page hk hill => exact .page hk hill
  | opening hmade hc hrefused => exact .opening hmade hc hrefused

theorem Failing.idle (h : Failing env o u v) (hw : Idle v w) : Failing env o u w := by
  cases h with
  | launch h => exact .launch h
  | opening hmade hc hrefused => exact .of_spoilt ((Spoilt.opening hmade hc hrefused).idle hw)
  | page hk hill => exact .of_spoilt ((Spoilt.page hk hill).idle hw)
  | poll h => exact .poll h

theorem Unfailing.not_failing (h : Unfailing env o u v) : ¬ Failing env o u v := by
  rintro (hlaunch | ⟨hmade, hc, hrefused⟩ | ⟨hk, hill⟩ | hpoll)
  · rw [h.launched] at hlaunch
    cases hlaunch
  · exact h.sound.not_spoilt (.opening hmade hc hrefused)
  · exact h.sound.not_spoilt (.page hk hill)
  · obtain ⟨snapshots, hlive⟩ := h.polled
    cases hlive.unique hpoll

theorem Unfailing.idle (h : Unfailing env o u v) (hw : Idle v w) : Unfailing env o u w :=
  { h with sound := h.sound.idle hw }

theorem Settled.of_same {settings : Poll.Settings} {verdict : Verdict}
    (h : Settled env o u settings verdict v) (hw : Idle v w) (hfiles : w.files = v.files) :
    Settled env o u settings verdict w := by
  refine ⟨h.settings, h.unfailing.idle hw, ?_⟩
  rw [Reports, hfiles]
  exact h.reported

/-- A halt that is reported comes from something that failed, and no file was written. -/
def Fails (env : Environment) (o : Options) (u : World τ) (h : Halt) (v : World τ) : Prop :=
  h.isReported = true → Failing env o u v ∧ Unwritten u v

end

section

variable {u w : World τ} {used : List Nat}

def Unlaunched (u : World τ) (h : Halt) (_ : World τ) : Prop :=
  h.isReported = true → ∃ engine message, u.launchFailure engine = some message

theorem meets_launch (message : String) (engine : Engine) (headless fakeMedia : Bool) :
    Meets (Idle u)
      (Check.log .info .session message >>= fun _ => Check.launch engine headless fakeMedia)
      (fun _ v => u.launchFailure engine = none ∧ Idle u v) (Unlaunched u) := by
  intro v hv
  obtain ⟨lines, hl⟩ := Check.launch_run message engine headless fakeMedia v
  have hsame : v.launchFailure engine = u.launchFailure engine := by rw [hv.launchFailure]
  rw [hl]
  cases hfailure : v.launchFailure engine with
  | none =>
    have hcalled := trans_of Idle hv (v.idle_calling (c := .launch engine headless fakeMedia) rfl)
    refine ⟨hsame ▸ hfailure, trans_of Idle hcalled ?_⟩
    exact .of_calls rfl rfl rfl rfl rfl
  | some refusal => exact fun _ => ⟨engine, refusal, hsame ▸ hfailure⟩

theorem meets_launched (env : Environment) (o : Options) :
    Meets (Idle u) (launched env o)
      (fun (_, settings, _) v => settingsOf env o = .ok settings ∧
        (∀ engine, u.launchFailure engine = none) ∧ Idle u v)
      (Unlaunched u) := by
  have hpassive {α : Type} {act : Check τ α} (ha : Passive act) :
      Meets (Idle u) act (fun _ => Idle u) (Unlaunched u) :=
    (ha.keeps fun _ _ => trans_of Idle).mono (fun _ hw => hw) (fun _ _ hv => hv)
      fun h _ hv hreported => absurd hreported (by simp [hv.1])
  refine (hpassive (Stream.passive_announce env)).bind fun c =>
    (Meets.ofFault fun _ _ _ => nofun).bind fun settings => Meets.known fun hsettings =>
    (hpassive (Check.passive_say _ _)).bind fun _ => (hpassive (Check.passive_say _ _)).bind
    fun _ => (meets_launch _ .chromium _ _).bind fun publisherBrowser =>
    Meets.known fun hchromium => (meets_launch _ .firefox _ _).bind fun viewerBrowser =>
    Meets.known fun hfirefox => .pure fun v hv => ⟨hsettings, fun engine => ?_, hv⟩
  cases engine with
  | chromium => exact hchromium
  | firefox => exact hfirefox

theorem sound_entered (c : Stream.Config) (publisherBrowser viewerBrowser : Nat) :
    Meets (Sound (τ := τ) u used) (entered c publisherBrowser viewerBrowser)
      (fun (_, _, viewer) => Sound u [viewer]) (Blames u) := by
  refine (Session.sound_openPage publisherBrowser true true).bind fun (_, publisher) =>
    (Session.sound_openPage viewerBrowser false true).bind fun (_, viewer) => ?_
  have hpublisher : publisher ∈ viewer :: publisher :: used :=
    List.mem_cons_of_mem _ List.mem_cons_self
  exact (Session.sound_startPublisher hpublisher _ _ _).bind fun _ =>
    (Session.sound_openViewer List.mem_cons_self _).bind fun _ => .pure fun _ hw =>
    hw.weaken (List.cons_subset_cons _ (List.nil_subset _))

theorem advances_launched (env : Environment) (o : Options) :
    Check.Advances (τ := τ) (launched env o) :=
  (Scenario.stays_announce env).advances.bind fun _ =>
    (Check.stays_ofFault _).advances.bind fun _ =>
    (Check.stays_say _ _).advances.bind fun _ => (Check.stays_say _ _).advances.bind fun _ =>
    (Session.advances_launchChromium _ _).bind fun _ =>
    ((Check.stays_log _ _ _).advances.bind fun _ => Check.advances_launch _ _ _).bind fun _ =>
    .pure _

theorem advances_entered (c : Stream.Config) (publisherBrowser viewerBrowser : Nat) :
    Check.Advances (τ := τ) (entered c publisherBrowser viewerBrowser) :=
  (Session.advances_openPage _ _ _).bind fun (_, publisher) =>
    (Session.advances_openPage _ _ _).bind fun (_, viewer) =>
    (Session.works_startPublisher publisher _ _ _).advances.bind fun _ =>
    (Session.works_openViewer viewer _).advances.bind fun _ => .pure _

theorem recounts_findings (r : Findings) (hfirst : r.first.Readable)
    (hsecond : r.second.Readable) :
    ∃ report, r.toJson = .record report ∧ Recounts report r.verdict := by
  refine ⟨_, rfl, ⟨r.first.settled, r.second.settled, ?_, ?_, ?_⟩, ?_, ?_, ?_, ?_⟩
  · simpa [Sample.field_cons] using Snapshot.ofJson_toJson_of_readable hfirst
  · simpa [Sample.field_cons] using Snapshot.ofJson_toJson_of_readable hsecond
  · exact (Verdict.ofSnapshots_settled r.first r.second).symm
  all_goals simp [Sample.field_cons]

theorem meets_judge {P : World τ → Prop} (hP : ∀ v w, P v → Idle v w → P w) (o : Options)
    (c : Stream.Config) {first second : Snapshot} (hfirst : first.Readable)
    (hsecond : second.Readable) :
    Meets P (judge o c first second) (fun verdict v => P v ∧ Reports o verdict v)
      (fun h v => h.isReported = false ∧ P v) := by
  refine ((Check.passive_ofFault _).keeps hP).bind fun stream =>
    (Report.passive_host.keeps hP).bind fun host => ?_
  obtain ⟨report, hreport, hrecounts⟩ :=
    recounts_findings { stream, first, second, host } hfirst hsecond
  refine (Meets.ofFault fun f w hw => ⟨rfl, hw⟩).bind fun output => Meets.known fun houtput =>
    (Report.meets_write hP _ _ _).bind fun _ => .pure fun v hv => ⟨hv.1, ?_⟩
  cases hnamed : o.output with
  | none => rw [hnamed] at houtput; cases houtput
  | some name =>
    rw [hnamed] at houtput
    cases houtput
    exact ⟨output, report, hnamed, hreport ▸ hv.2, hrecounts⟩

variable [Timeline τ]

theorem unwritten_samplePair (o : Options) (settings : Poll.Settings) (viewer : Nat) :
    Confined (τ := τ) Unwritten (fun _ => True) (samplePair o settings viewer) := by
  have hstays {α : Type} {act : Check τ α} (ha : Check.Stays act) :
      Confined Unwritten (fun _ => True) act :=
    ha.advances.unwritten.mono (fun _ _ h => h) fun _ _ => trivial
  have hpoll : Confined (τ := τ) Unwritten (fun _ => True)
      (Poll.untilLiveWithin o.limits settings label [viewer]) :=
    (Poll.quiet_untilLiveWithin _ _ _ _).mono
      (fun _ _ h => congrArg Report.FileTree.files h.files) fun _ _ => trivial
  have hfirst : Confined (τ := τ) Unwritten (fun _ => True)
      (firstLive o.limits settings viewer) := by
    refine hpoll.bind fun snapshots => ?_
    split
    · exact .pure _
    · exact .throw trivial
  exact hfirst.bind fun _ => (hstays (Check.stays_wait viewer _)).bind fun _ =>
    (hstays (Session.stays_collect viewer)).bind fun _ => .pure _

theorem meets_firstLive {env : Environment} {o : Options} {settings : Poll.Settings} {viewer : Nat}
    {x : World τ} (hx : Sound u [viewer] x) (hcomes : ComesTo env o u settings viewer x) :
    Meets (· = x) (firstLive o.limits settings viewer)
      (fun first v => first.Readable ∧ (∃ snapshots, Polls env o u (.ok snapshots)) ∧
        Sound u [viewer] v)
      (fun h v => h.isReported = true → Failing env o u v) := by
  rintro _ rfl
  have hend := Poll.sound_untilLiveWithin (List.Subset.refl [viewer]) o.limits settings label _ hx
  have hcourse := Poll.untilLiveWithin_course o.limits settings label viewer [] _
    (hx.used viewer List.mem_cons_self).2
  rw [firstLive, Check.bind_run]
  rcases hpoll : Poll.untilLiveWithin o.limits settings label [viewer] _ with ⟨h | snapshots, y⟩
  · rw [hpoll] at hend
    intro hreported
    rcases hend with ⟨label, timeoutMs, last, rfl⟩ | hblames
    · exact .poll ⟨_, _, _, _, hcomes, hpoll⟩
    · exact .of_spoilt (hblames hreported)
  · rw [hpoll] at hend hcourse
    obtain ⟨_, _, _, -, hlast, -⟩ := hcourse
    cases hlast with
    | live lines hsampled hready =>
      obtain ⟨first, rfl⟩ := List.length_eq_one_iff.mp hsampled.length
      exact ⟨hsampled.readable first List.mem_cons_self, ⟨_, _, _, _, _, hcomes, hpoll⟩, hend⟩

theorem meets_samplePair {env : Environment} {o : Options} {settings : Poll.Settings} {viewer : Nat}
    {x : World τ} (hx : Sound u [viewer] x) (hcomes : ComesTo env o u settings viewer x) :
    Meets (· = x) (samplePair o settings viewer)
      (fun (first, second) v => (first.Readable ∧ second.Readable) ∧
        (∃ snapshots, Polls env o u (.ok snapshots)) ∧ Sound u [] v)
      (fun h v => h.isReported = true → Failing env o u v) := by
  have hblames {α : Type} {P : World τ → Prop} {Q : α → World τ → Prop} {act : Check τ α}
      (ha : Meets P act Q (Blames u)) :
      Meets P act Q (fun h v => h.isReported = true → Failing env o u v) :=
    ha.mono (fun _ hw => hw) (fun _ _ hv => hv) fun _ _ hv hreported => .of_spoilt (hv hreported)
  refine (meets_firstLive hx hcomes).bind fun first => Meets.known fun hfirst =>
    Meets.known fun hpoll => ?_
  exact (hblames (Check.sound_wait List.mem_cons_self _)).bind fun _ =>
    (hblames (Session.sound_collect List.mem_cons_self)).bind fun second =>
    Meets.known fun hsecond => .pure fun v hv =>
    ⟨⟨hfirst, hsecond⟩, hpoll, hv.weaken (List.nil_subset _)⟩

theorem meets_inspect {env : Environment} {o : Options} {c : Stream.Config}
    {settings : Poll.Settings} {publisherBrowser viewerBrowser : Nat} {x : World τ}
    (hsettings : settingsOf env o = .ok settings)
    (hlaunch : launched env o u = (.ok (c, settings, publisherBrowser, viewerBrowser), x))
    (hlaunches : ∀ engine, u.launchFailure engine = none) (hx : Idle u x)
    (hunwritten : Unwritten u x) :
    Meets (· = x) (inspect o c settings publisherBrowser viewerBrowser)
      (fun verdict => Settled env o u settings verdict) (Fails env o u) := by
  have hentered : Meets (fun v => Unwritten u v ∧ Sound u [] v)
      (entered c publisherBrowser viewerBrowser)
      (fun (_, _, viewer) v => Unwritten u v ∧ Sound u [viewer] v) (Fails env o u) :=
    ((sound_entered c publisherBrowser viewerBrowser).confined
      (advances_entered c publisherBrowser viewerBrowser).unwritten u).mono (fun _ hw => hw)
      (fun _ _ hv => hv) fun _ _ hv hreported => ⟨.of_spoilt (hv.2 hreported), hv.1⟩
  rw [inspect_eq]
  refine hentered.bind_run ⟨hunwritten, (Sound.start u).idle hx⟩
    fun (publisherContext, viewerContext, viewer) y henter ⟨hy, hsound⟩ => ?_
  have hsamples : Meets (· = y) (samplePair o settings viewer)
      (fun (first, second) v => (first.Readable ∧ second.Readable) ∧ Unfailing env o u v)
      (Fails env o u) := by
    refine ((meets_samplePair hsound ⟨_, _, _, _, _, _, hlaunch, henter⟩).confined
      (unwritten_samplePair o settings viewer) u).mono ?_ ?_ ?_
    · rintro _ rfl
      exact ⟨hy, rfl⟩
    · rintro ⟨first, second⟩ v ⟨-, hread, hpoll, hsound⟩
      exact ⟨hread, hlaunches, hpoll, hsound⟩
    · exact fun _ _ hv hreported => ⟨hv.2 hreported, hv.1⟩
  refine hsamples.bind fun (first, second) => Meets.known fun ⟨hfirst, hsecond⟩ => ?_
  have hjudge : Meets (Unfailing env o u) (judge o c first second)
      (fun verdict => Settled env o u settings verdict) (Fails env o u) :=
    (meets_judge (fun _ _ => Unfailing.idle) o c hfirst hsecond).mono (fun _ hw => hw)
      (fun _ _ hv => ⟨hsettings, hv.1, hv.2⟩) fun h _ hv hreported =>
      absurd hreported (by simp [hv.1])
  refine hjudge.bind fun verdict => ?_
  exact Meets.bind (Q := fun _ => Settled env o u settings verdict)
    (fun w hw => hw.of_same (trans_of Idle
      (w.idle_calling (c := .closeContext viewerContext) rfl)
      (World.idle_calling _ (c := .closeContext publisherContext) rfl)) rfl)
    fun _ => .pure fun _ hv => hv

theorem meets_conclude {env : Environment} {o : Options} {settings : Poll.Settings}
    {verdict : Verdict} :
    Meets (Settled env o u settings verdict) (conclude settings verdict)
      (fun exit v => exit = 0 ∧ Settled env o u settings verdict v ∧ verdict.failures settings = [])
      (fun h v => h.isReported = true →
        Settled env o u settings verdict v ∧ verdict.failures settings ≠ []) := by
  refine (Meets.ofFault fun _ _ _ => nofun).bind fun complaints => Meets.known fun hcomplaints => ?_
  cases complaints with
  | nil =>
    have hpassed := (Verdict.complaints_eq_nil_iff verdict settings).mp hcomplaints
    refine Meets.bind (Q := fun _ => Settled env o u settings verdict) ?_ fun _ =>
      .pure fun v hv => ⟨rfl, hv, hpassed⟩
    refine Check.meets_get.bind fun w => (Meets.ofFault fun _ _ _ => nofun).bind fun line =>
      Meets.known fun _ => .modify fun v hv => ?_
    exact hv.of_same (.of_calls rfl rfl rfl rfl rfl) rfl
  | cons complaint more =>
    refine .throw fun v hv _ => ⟨hv, fun hpassed => ?_⟩
    rw [(Verdict.complaints_eq_nil_iff verdict settings).mpr hpassed] at hcomplaints
    cases hcomplaints

omit [Timeline τ] in
theorem idle_closePair (viewer publisher : Nat) (v : World τ) :
    Idle v { v with
      calls := v.calls ++ [.closeBrowser viewer] ++ [.closeBrowser publisher] } :=
  trans_of Idle (v.idle_calling (c := .closeBrowser viewer) rfl)
    (World.idle_calling _ (c := .closeBrowser publisher) rfl)

theorem meets_run (env : Environment) (o : Options) :
    Meets (· = u) (run env o)
      (fun exit v => exit = 0 ∧ ∃ settings verdict,
        Settled env o u settings verdict v ∧ verdict.failures settings = [])
      (fun h v => h.isReported = true → (Failing env o u v ∧ Unwritten u v) ∨
        ∃ settings verdict, Settled env o u settings verdict v ∧
          verdict.failures settings ≠ []) := by
  have hlaunched := (meets_launched (u := u) env o).confined (advances_launched env o).unwritten u
  rw [run_eq]
  refine (hlaunched.mono (fun _ hw => hw) (fun _ _ hv => hv) fun h v hv hreported => ?_).bind_run
    ⟨refl_of Unwritten u, refl_of Idle u⟩
    fun (c, settings, publisherBrowser, viewerBrowser) x hlaunch
      ⟨hunwritten, hsettings, hlaunches, hx⟩ => ?_
  · obtain ⟨engine, message, hfails⟩ := hv.2 hreported
    exact .inl ⟨.launch hfails, hv.1⟩
  · have hinspect := (meets_inspect hsettings hlaunch hlaunches hx hunwritten).ensuring
      (Check.closePair_run viewerBrowser publisherBrowser)
      (fun verdict v hv => hv.of_same (idle_closePair viewerBrowser publisherBrowser v) rfl)
      fun h v hv hreported =>
        ⟨(hv hreported).1.idle (idle_closePair viewerBrowser publisherBrowser v),
          (hv hreported).2⟩
    refine (hinspect.mono (fun _ hw => hw) (fun _ _ hv => hv) fun h v hv hreported =>
      .inl (hv hreported)).bind fun verdict => ?_
    exact meets_conclude.mono (fun _ hv => hv) (fun exit v ⟨hexit, hv, hpassed⟩ =>
      ⟨hexit, settings, verdict, hv, hpassed⟩) fun h v hv hreported =>
      .inr ⟨settings, verdict, hv hreported⟩

end

end Runner.CrossBrowser

end StreamWatch
