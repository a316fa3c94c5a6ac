import StreamWatch.Proofs.Runner.Shortfall
import StreamWatch.Proofs.Scenario.Discipline
import StreamWatch.Runner.CrossBrowser
import StreamWatch.Runner.Link
import StreamWatch.Runner.Matrix
import StreamWatch.Runner.Publish

/-! Every check is disciplined, whatever comes of its calls: the collector is in place before a page
is sent to its address, which happens once, and no page is evaluated before that. Only a scenario
reloads, if it was asked to, and only viewers that were live and had no failures before. -/
namespace StreamWatch.Runner

open Browser (Call Check Disciplined Standing Timeline World)
open Browser.Check (Confined Meets Obeys Roams)
open Sample (Snapshot)

variable {τ : Type} {base : List Call} {reloads : List Call → Nat → Prop}

namespace Link

theorem roams_takePicture (page : Nat) (path : Option String) {opened : List Nat} :
    Roams (τ := τ) opened (takePicture page path) := by
  rw [takePicture]
  split
  · exact .pure none
  · exact (Session.roams_takeScreenshot page _).bind fun _ => .pure _

theorem obeys_inspect (o : Options) (settings : Poll.Settings) (browser : Nat) :
    Obeys (τ := τ) base reloads [] {} (inspect o settings browser) fun _ => {} := by
  refine (Session.obeys_openPage browser false (List.nil_subset _)).bind fun (context, page) =>
    (Session.obeys_openLink rfl (List.nil_subset _) _).bind fun _ => Check.Obeys.weaken
      (Roams.obeys_nil ?_) fun _ => {}
  exact (Check.roams_wait page _).bind fun _ => (Session.roams_nudge page).bind fun _ =>
    (Check.roams_wait page _).bind fun _ =>
    (Session.roams_collect List.mem_cons_self).bind fun _ => Check.roams_timestamp.bind fun _ =>
    Report.roams_host.bind fun _ => (roams_takePicture page _).bind fun _ =>
    (Check.roams_record (by trivial)).bind fun _ => .pure _

theorem roams_conclude (o : Options) (r : Findings) {opened : List Nat} :
    Roams (τ := τ) opened (conclude o r) := by
  have hstrict (failed : Bool) (message : String) : Roams (τ := τ) opened (if failed then do
      Check.say .failure message
      pure 1
    else pure 0) := by
    split
    · exact (Check.roams_say _ _).bind fun _ => .pure 1
    · exact .pure 0
  refine (Check.roams_given _).bind fun _ => (Report.roams_write _ _ _).bind fun _ => ?_
  dsimp only
  split
  · exact (Check.roams_say _ _).bind fun _ => hstrict _ _
  · exact hstrict _ _

theorem obeys_run (env : Environment) (o : Options) :
    Obeys (τ := τ) base reloads [] {} (run env o) fun _ => {} :=
  ((Check.roams_ofFault _).obeys_nil).bind fun settings =>
    ((Session.roams_launchChromium _ _).obeys_nil).bind fun browser =>
    (Check.stands_closing (obeys_inspect o settings browser) browser).bind fun findings =>
    (roams_conclude o findings).obeys_nil

end Link

namespace Matrix

theorem roams_trySample {page : Nat} {opened : List Nat} (hpage : page ∈ opened) (link : String)
    (halfWaitMs : Int) (sampleGapMs : Option Int) :
    Roams (τ := τ) opened (trySample page link halfWaitMs sampleGapMs) := by
  have hsample : Roams (τ := τ) opened (sample page halfWaitMs sampleGapMs) :=
    (Check.roams_wait page _).bind fun _ => (Session.roams_nudge page).bind fun _ =>
      (Check.roams_wait page _).bind fun _ => Session.roams_collectPair hpage _
  refine hsample.attempt.bind fun r => ?_
  split
  · exact .pure _
  · exact (Check.roams_log _ _ _).bind fun _ => .pure _
  · exact .throw trivial

theorem obeys_checkLink (browser : Nat) (link : String) (index : Int)
    (perLinkWaitMs sampleGapMs : Option Int) (outputDir : String) :
    Obeys (τ := τ) base reloads [] {}
      (checkLink browser link index perLinkWaitMs sampleGapMs outputDir) fun _ => {} := by
  refine (Session.obeys_openPage browser false (List.nil_subset _)).bind fun (context, page) =>
    (Session.obeys_navigate rfl (List.nil_subset _) _ _).bind fun _ => Check.Obeys.weaken
      (Roams.obeys_nil ?_) fun _ => {}
  exact (Check.roams_given _).bind fun _ =>
    (roams_trySample List.mem_cons_self _ _ _).bind fun _ => (Check.roams_ofFault _).bind fun _ =>
    (Session.roams_takeScreenshot page _).bind fun _ =>
    (Check.roams_record (by trivial)).bind fun _ => .pure _

theorem obeys_checkLinks (o : Options) (outputDir : String) (browser total index : Nat)
    (links : List String) :
    Obeys (τ := τ) base reloads [] {} (checkLinks o outputDir browser total index links)
      fun _ => {} := by
  induction links generalizing index with
  | nil => exact Check.obeys_pure rfl
  | cons link rest ih =>
    refine ((Check.roams_say _ _).obeys_nil).bind fun _ =>
      (obeys_checkLink browser link index _ _ outputDir).bind fun result => ?_
    have hrest (tone : Console.Tone) (message : String) :
        Obeys (τ := τ) base reloads [] {} (do
          Check.say tone message
          pure (result :: (← checkLinks o outputDir browser total (index + 1) rest)))
          fun _ => {} :=
      ((Check.roams_say _ _).obeys_nil).bind fun _ =>
        (ih (index + 1)).bind fun _ => Check.obeys_pure rfl
    dsimp only
    split
    · exact hrest .success "    media active"
    · exact hrest .warning "    no active media"

theorem obeys_run (o : Options) :
    Obeys (τ := τ) base reloads [] {} (run o) fun _ => {} := by
  have hgather (links : List String) :
      Obeys (τ := τ) base reloads [] {} (gather o links) fun _ => {} :=
    ((Check.roams_given _).obeys_nil).bind fun outputDir =>
      ((Check.roams_makeDirectory _).obeys_nil).bind fun _ =>
      (Check.roams_timestamp.obeys_nil).bind fun _ =>
      ((Session.roams_launchChromium _ _).obeys_nil).bind fun browser =>
      (Check.stands_closing (obeys_checkLinks o outputDir browser _ 1 links) browser).bind fun _ =>
      (Check.roams_timestamp.obeys_nil).bind fun _ =>
      (Report.roams_host.obeys_nil).bind fun _ => Check.obeys_pure rfl
  exact (hgather _).bind fun _ => ((Check.roams_given _).obeys_nil).bind fun _ =>
    ((Report.roams_write _ _ _).obeys_nil).bind fun _ => Check.obeys_pure rfl

end Matrix

namespace Publish

theorem obeys_session (o : Options) (pushLink viewLink : String) (browser : Nat) :
    Obeys (τ := τ) base reloads [] {} (session o pushLink viewLink browser) fun _ => {} := by
  have hlast (context page : Nat) {opened : List Nat} : Roams (τ := τ) opened (do
      Check.wait page o.durationMs
      Check.closeContext context) :=
    (Check.roams_wait page _).bind fun _ => Check.roams_record (by trivial)
  refine (Check.roams_newContext browser true).obeys_nil.bind fun context =>
    (Check.obeys_collectInContext context (List.nil_subset _)).bind fun _ =>
    (Check.obeys_newPage List.mem_cons_self (List.nil_subset _)).bind fun publisher =>
    (Session.obeys_startPublisher rfl (List.nil_subset _) _ _ _).bind fun click =>
    (Check.roams_wait publisher _).obeys_nil.bind fun _ =>
    (Session.roams_collect List.mem_cons_self).obeys_nil.bind fun _ =>
    (Check.obeys_newPage List.mem_cons_self (List.nil_subset _)).bind fun viewer =>
    (Session.obeys_openLink rfl (List.nil_subset _) _).bind fun _ =>
    Check.Obeys.weaken (Roams.obeys_nil ?_) fun _ => {}
  refine (Check.roams_wait viewer _).bind fun _ =>
    (Session.roams_collectPair List.mem_cons_self _).bind fun (first, second) =>
    Check.roams_timestamp.bind fun _ => Report.roams_host.bind fun _ =>
    (Check.roams_given _).bind fun _ => (Report.roams_write _ _ _).bind fun _ =>
    (Check.roams_record (by trivial)).bind fun _ => ?_
  dsimp only
  split
  · exact (Check.roams_say _ _).bind fun _ => hlast context publisher
  · exact (Check.roams_say _ _).bind fun _ => hlast context publisher

theorem obeys_run (o : Options) :
    Obeys (τ := τ) base reloads [] {} (run o) fun _ => {} :=
  ((Check.roams_ofFault _).obeys_nil).bind fun (push, view) =>
    ((Check.roams_say _ _).obeys_nil).bind fun _ =>
    ((Check.roams_say _ _).obeys_nil).bind fun _ =>
    ((Session.roams_launchChromium _ _).obeys_nil).bind fun browser =>
    (Check.stands_closing (obeys_session o push view browser) browser).bind fun _ =>
    Check.obeys_pure rfl

end Publish

namespace CrossBrowser

variable [Timeline τ]

theorem obeys_inspect (o : Options) (c : Stream.Config) (settings : Poll.Settings)
    (publisherBrowser viewerBrowser : Nat) :
    Obeys (τ := τ) base reloads [] {} (inspect o c settings publisherBrowser viewerBrowser)
      fun _ => {} := by
  refine (Session.obeys_openPage _ true (List.nil_subset _)).bind fun (_, publisher) =>
    (Session.obeys_openPage _ false (List.nil_subset _)).bind fun (_, viewer) =>
    (Session.obeys_startPublisher rfl (List.nil_subset _) _ _ _).bind fun _ =>
    (Session.obeys_openViewer rfl (List.nil_subset _) _).bind fun _ =>
    Check.Obeys.weaken (Roams.obeys_nil ?_) fun _ => {}
  have hfirst : Roams (τ := τ) [viewer, publisher] (firstLive o.limits settings viewer) := by
    refine (Poll.roams_untilLiveWithin (by simp) _ _ _).bind fun snapshots => ?_
    split
    · exact .pure _
    · exact .throw trivial
  exact hfirst.bind fun _ => (Check.roams_wait viewer _).bind fun _ =>
    (Session.roams_collect List.mem_cons_self).bind fun _ => (Check.roams_ofFault _).bind fun _ =>
    Report.roams_host.bind fun _ => (Check.roams_given _).bind fun _ =>
    (Report.roams_write _ _ _).bind fun _ => (Check.roams_record (by trivial)).bind fun _ =>
    (Check.roams_record (by trivial)).bind fun _ => .pure _

theorem obeys_run (env : Environment) (o : Options) :
    Obeys (τ := τ) base reloads [] {} (run env o) fun _ => {} := by
  refine (Stream.roams_announce env).obeys_nil.bind fun c =>
    (Check.roams_ofFault _).obeys_nil.bind fun settings =>
    (Check.roams_say _ _).obeys_nil.bind fun _ => (Check.roams_say _ _).obeys_nil.bind fun _ =>
    (Session.roams_launchChromium _ _).obeys_nil.bind fun publisherBrowser =>
    (Session.roams_launchFirefox _).obeys_nil.bind fun viewerBrowser =>
    (Check.stands_ensuring (obeys_inspect o c settings publisherBrowser viewerBrowser)
      (fun _ => (Check.roams_record (by trivial)).bind fun _ => Check.roams_record (by trivial))
      fun _ => List.nil_subset _).bind fun verdict => Roams.obeys_nil ?_
  refine (Check.roams_ofFault _).bind fun complaints => ?_
  split
  · exact (Check.roams_say _ _).bind fun _ => .pure 0
  · exact .throw trivial

end CrossBrowser

namespace Scenario

open StreamWatch.Scenario (Round Staged)

theorem obeys_openViewers (browser n : Nat) {s : Standing} :
    Obeys (τ := τ) base reloads [] s (openViewers browser n) fun (viewers, opening) =>
      match opening with
      | .ok _ => { s with ready := s.ready ++ viewers.map (·.2) }
      | .error _ => {} := by
  induction n generalizing s with
  | zero => exact Check.obeys_pure (by simp)
  | succ n ih =>
    refine (Session.obeys_openPage browser false (List.nil_subset _)).attempt.bind fun r => ?_
    cases r with
    | error h => exact Check.obeys_pure rfl
    | ok opened =>
      refine ih.bind fun (rest, opening) => ?_
      cases opening with
      | error h => exact Check.obeys_pure rfl
      | ok _ => exact Check.obeys_pure (by simp)

theorem obeys_opened (o : Options) (c : Stream.Config) (settings : Poll.Settings)
    (browser : Nat) :
    Obeys (τ := τ) base reloads [] {} (opened o c settings browser) fun (_, opening) =>
      match opening with
      | .ok s => s.unopened
      | .error _ => {} := by
  refine (Session.obeys_openPage browser true (List.nil_subset _)).bind fun (_, _) =>
    (obeys_openViewers browser _).bind fun (viewers, opening) => ?_
  cases opening with
  | error h => exact Check.obeys_pure rfl
  | ok _ => exact Check.obeys_pure rfl

theorem roams_settle {s : StreamWatch.Scenario} {opened : List Nat} (hs : s.publisher ∈ opened)
    (outcome : Except Halt Snapshot) : Roams (τ := τ) opened (settle s outcome) := by
  cases outcome with
  | ok publisherAfter => exact .pure _
  | error h =>
    rw [settle]
    split
    · exact (Check.roams_log _ _ _).bind fun _ => (Check.roams_say _ _).bind fun _ =>
        (Session.roams_collect hs).bind fun _ => .pure _
    · exact .throw trivial

theorem roams_takePictures (s : StreamWatch.Scenario) (directory : Report.Path)
    {opened : List Nat} : Roams (τ := τ) opened (takePictures s directory) := by
  refine (Session.roams_takeScreenshot s.publisher _).bind fun _ => ?_
  generalize 0 = i
  induction s.viewers generalizing i with
  | nil => exact .pure ()
  | cons viewer rest ih =>
    exact (Check.roams_ofFault _).bind fun _ =>
      (Session.roams_takeScreenshot viewer _).bind fun _ => ih (i + 1)

theorem obeys_launched (env : Environment) (o : Options) :
    Obeys (τ := τ) base reloads [] {} (launched env o) fun _ => {} :=
  (Stream.roams_announce env).obeys_nil.bind fun _ => (Check.roams_ofFault _).obeys_nil.bind
    fun _ => (Check.roams_say _ _).obeys_nil.bind fun _ =>
    (Check.roams_say _ _).obeys_nil.bind fun _ => (Check.roams_given _).obeys_nil.bind fun _ =>
    (Session.roams_launchChromium _ _).obeys_nil.bind fun _ => Check.obeys_pure rfl

variable [Timeline τ]

def firstRound (o : Options) (s : StreamWatch.Scenario) : Staged τ (List Snapshot × Round) := do
  s.start o.startupWaitMs o.settleMs
  let snapshots ← s.poll
  let round ← s.verify "initial"
  pure (snapshots, round)

/-- The check that started in `w` was asked to reload its viewers, `k` is one of them, and before
the calls so far were made a poll had found all viewers live, and a round no failures. -/
structure Rechecks (env : Environment) (o : Options) (w : World τ) (made : List Call) (k : Nat) :
    Prop where
  asked : o.reload = true
  verified : ∃ output s snapshots round p, ∃ u v : World τ,
    staged env o w = (.ok (output, s), u) ∧ k ∈ s.viewers ∧
    firstRound o s {} u = ((.ok (snapshots, round), p), v) ∧
    Poll.Live s.settings s.viewers snapshots ∧ round.Passed s ∧
    v.calls <+: w.calls ++ made

theorem passed_of_firstRound {o : Options} {s : StreamWatch.Scenario}
    {snapshots : List Snapshot} {round : Round} {p q : StreamWatch.Scenario.Progress}
    {u v : World τ} (h : firstRound o s p u = ((.ok (snapshots, round), q), v)) :
    Poll.Live s.settings s.viewers snapshots ∧ round.Passed s := by
  obtain ⟨_, p₁, w₁, -, h⟩ := Staged.bind_ok h
  obtain ⟨found, p₂, w₂, hpoll, h⟩ := Staged.bind_ok h
  obtain ⟨judged, p₃, w₃, hverify, h⟩ := Staged.bind_ok h
  cases h
  exact ⟨StreamWatch.Scenario.live_of_poll hpoll, (StreamWatch.Scenario.verify_ok hverify).1⟩

def furtherSteps (o : Options) (s : StreamWatch.Scenario) : Staged τ Snapshot := do
  if o.reload then
    s.reloadViewers
    let _ ← s.poll
    let _ ← s.verify "after-reload"
  finish s

theorem steps_eq (o : Options) (s : StreamWatch.Scenario) :
    steps (τ := τ) o s = firstRound o s >>= fun _ => furtherSteps o s := by
  simp only [steps, firstRound, furtherSteps, finish, bind_assoc, pure_bind]

theorem obeys_firstRound (o : Options) (s : StreamWatch.Scenario) :
    Staged.Obeys (τ := τ) base reloads [s.publisher] s.unopened (firstRound o s)
      fun _ => s.started := by
  have hviewers : s.viewers ⊆ s.started.opened := List.subset_cons_self _ _
  have hkept : [s.publisher] ⊆ s.started.opened := List.cons_subset_cons _ (List.nil_subset _)
  exact (StreamWatch.Scenario.obeys_start s _ _).bind fun _ =>
    (StreamWatch.Scenario.obeys_poll hviewers hkept).bind fun _ =>
    (StreamWatch.Scenario.obeys_verify hviewers hkept "initial").bind fun _ =>
    Staged.Obeys.pure rfl

theorem obeys_furtherSteps {o : Options} {s : StreamWatch.Scenario} {past : List Call}
    (hdistinct : s.viewers.Nodup)
    (hr : o.reload = true → ∀ k ∈ s.viewers, ∀ made, past <+: made → reloads made k) :
    Staged.Obeys (τ := τ) base reloads [s.publisher] { s.started with past } (furtherSteps o s)
      fun _ => { opened := [s.publisher] } := by
  have hviewers : s.viewers ⊆ s.started.opened := List.subset_cons_self _ _
  have hkept : [s.publisher] ⊆ s.started.opened := List.cons_subset_cons _ (List.nil_subset _)
  have hlast {st : Standing} (hpublisher : s.publisher ∈ st.opened) :
      Staged.Obeys (τ := τ) base reloads [s.publisher] st (finish s)
        fun _ => { opened := [s.publisher] } := by
    have hk : [s.publisher] ⊆ st.opened := List.cons_subset.mpr ⟨hpublisher, List.nil_subset _⟩
    refine (Staged.Obeys.roams (Session.roams_collect hpublisher) hk).bind fun publisherAfter => ?_
    have hpure : Staged.Obeys (τ := τ) base reloads [s.publisher] st (pure publisherAfter)
        fun _ => { opened := [s.publisher] } := fun _ _ hw => World.Stands.forget hw hk
    dsimp only
    split
    · exact (Staged.Obeys.throw hk).bind fun _ => hpure
    · exact hpure
  rw [furtherSteps]
  split
  · next hasked =>
    have hall : s.viewers ⊆ ({ s.started with past } : Standing).opened := hviewers
    have hreload : Obeys (τ := τ) base reloads [s.publisher] { s.started with past }
        (Check.forEach StreamWatch.Scenario.reloadViewer s.viewers)
        fun _ => Standing.reloading { s.started with past } [] :=
      StreamWatch.Scenario.obeys_reloadViewers hdistinct rfl hall hkept (hr hasked)
    have hall : s.viewers ⊆ (Standing.reloading { s.started with past } []).opened := hviewers
    exact ((Staged.Obeys.onWorld hreload).bind fun _ => Staged.Obeys.enter s .reloaded).bind
      fun _ => (StreamWatch.Scenario.obeys_poll hall hkept).bind fun _ =>
      (StreamWatch.Scenario.obeys_verify hall hkept "after-reload").bind fun _ =>
      hlast List.mem_cons_self
  · exact hlast List.mem_cons_self

theorem stands_of_steps {env : Environment} {o : Options} {output : String}
    {s : StreamWatch.Scenario} {w u : World τ} (hstaged : staged env o w = (.ok (output, s), u))
    (hu : u.Stands w.calls (Rechecks env o w) s.unopened) :
    (steps o s {} u).2.Stands w.calls (Rechecks env o w) { opened := [s.publisher] } := by
  have hdistinct : s.viewers.Nodup := by
    obtain ⟨made, -, htrail⟩ := hu
    exact htrail.distinct.of_cons
  have hfirst := obeys_firstRound o s {} u hu
  rw [steps_eq, Staged.bind_run]
  rcases hround : firstRound o s {} u with ⟨⟨h | ⟨snapshots, round⟩, p⟩, v⟩
  · rw [hround] at hfirst
    exact hfirst
  · rw [hround] at hfirst
    obtain ⟨past, hpast, hv⟩ := World.Stands.remember hfirst
    obtain ⟨hlive, hpassed⟩ := passed_of_firstRound hround
    have hfurther := obeys_furtherSteps (o := o) hdistinct (fun hasked k hk made hmade =>
      ⟨hasked, output, s, snapshots, round, p, u, v, hstaged, hk, hround, hlive, hpassed, by
        rw [hpast]
        exact (List.prefix_append_right_inj _).mpr hmade⟩) p v hv
    dsimp only
    generalize furtherSteps o s p v = r at hfurther ⊢
    obtain ⟨⟨h | last, q⟩, x⟩ := r
    · exact hfurther
    · exact hfurther

theorem stands_perform {env : Environment} {o : Options} {output : String}
    {s : StreamWatch.Scenario} {w u : World τ} (hstaged : staged env o w = (.ok (output, s), u))
    (hu : u.Stands w.calls (Rechecks env o w) s.unopened) :
    Meets (· = u) (perform o (.ofText output) s)
      (fun _ => World.Stands w.calls (Rechecks env o w) {})
      fun _ => World.Stands w.calls (Rechecks env o w) {} := by
  have hsteps : Meets (· = u) (StreamWatch.Scenario.carry {} (steps o s))
      (fun _ => World.Stands w.calls (Rechecks env o w) { opened := [s.publisher] })
      fun _ => World.Stands w.calls (Rechecks env o w) {} := by
    rintro _ rfl
    exact stands_of_steps hstaged hu
  refine hsteps.bind fun (outcome, progress) =>
    Check.Obeys.weaken (Roams.obeys_nil ?_) fun _ => {}
  refine (roams_settle List.mem_cons_self outcome).bind fun (exit, publisherAfter) => ?_
  have hsummary : Roams (τ := τ) [s.publisher] (s.summary progress) :=
    (Check.roams_ofFault _).bind fun _ => Check.roams_timestamp.bind fun _ => .pure _
  refine hsummary.bind fun _ => Report.roams_host.bind fun _ => ?_
  dsimp only
  split
  · exact (roams_takePictures s _).bind fun _ => .pure _
  · exact .pure _

theorem stands_run (env : Environment) (o : Options) (w : World τ) :
    (run env o w).2.Stands w.calls (Rechecks env o w) {} := by
  -- The pages that may be reloaded are told by this very run, so it is followed from `w` on.
  have hrun : Meets (· = w) (run env o) (fun _ => World.Stands w.calls (Rechecks env o w) {})
      fun _ => World.Stands w.calls (Rechecks env o w) {} := by
    rw [run_eq]
    refine (obeys_launched env o).bind_run (.start _ w) fun (c, settings, output, browser) u
      hlaunch hu => ?_
    have hpages : Meets (· = u) (do
        let (contexts, opening) ← opened o c settings browser
        Check.ensuring (do perform o (.ofText output) (← Check.ofExcept opening))
          (Check.forEach Check.closeContext contexts))
        (fun _ => World.Stands w.calls (Rechecks env o w) {})
        fun _ => World.Stands w.calls (Rechecks env o w) {} := by
      refine (obeys_opened o c settings browser).bind_run hu fun (contexts, opening) v hopen hv =>
        Check.stands_ensuring ?_ (fun _ => .forEach (fun _ => Check.roams_record (by trivial)) _)
          fun _ => List.nil_subset _
      refine (Meets.ofExcept ?_).bind fun s => Meets.known fun hs => ?_
      · rintro h rfl
        exact hv
      · subst hs
        have hstaged : staged env o w = (.ok (output, s), v) := by
          rw [staged, Check.bind_of_ok hlaunch]
          exact Check.bind_of_ok hopen
        exact stands_perform hstaged hv
    refine (Check.stands_closing hpages browser).bind ?_
    rintro ⟨exit, findings⟩
    refine Roams.obeys_nil ?_
    refine (Report.roams_write _ _ _).bind fun _ => ?_
    dsimp only
    split
    · exact (Check.roams_say _ _).bind fun _ => .pure _
    · exact .pure _
  exact hrun.always rfl

end Scenario

/-- Whatever comes of its calls, every check opens a page only once and with the collector in place,
and evaluates it only after that; none reloads but a scenario, where that was asked for, and then
every viewer once at most, and only after a poll and a round that went well. -/
theorem run_behaves [Timeline τ] (w : World τ) :
    (∀ env o, World.Behaves (fun _ _ => False) w (Link.run env o w).2) ∧
    (∀ o, World.Behaves (fun _ _ => False) w (Matrix.run o w).2) ∧
    (∀ o, World.Behaves (fun _ _ => False) w (Publish.run o w).2) ∧
    (∀ env o, World.Behaves (fun _ _ => False) w (CrossBrowser.run env o w).2) ∧
    ∀ env o, World.Behaves (Scenario.Rechecks env o w) w (Scenario.run env o w).2 :=
  ⟨fun env o => ((Link.obeys_run env o).always (.start _ w)).behaves,
    fun o => ((Matrix.obeys_run o).always (.start _ w)).behaves,
    fun o => ((Publish.obeys_run o).always (.start _ w)).behaves,
    fun env o => ((CrossBrowser.obeys_run env o).always (.start _ w)).behaves,
    fun env o => (Scenario.stands_run env o w).behaves⟩

end StreamWatch.Runner
