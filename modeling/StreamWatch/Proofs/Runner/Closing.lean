import StreamWatch.Proofs.Browser.Lifetime
import StreamWatch.Proofs.Runner.Course
import StreamWatch.Runner.Link
import StreamWatch.Runner.Matrix
import StreamWatch.Runner.Publish

/-! No check leaves its browser open. Whatever a check finds, and whatever halts it, the browser
that it launched is closed, and that is its last call; a scenario closes all of its contexts
before. -/
namespace StreamWatch.Runner

open Browser (Call Check Closed Opens Timeline World)
open Browser.Check (Confined Inside)

variable {τ : Type}

theorem Link.inside_takePicture (page : Nat) (path : Option String) :
    Inside (τ := τ) (Link.takePicture page path) := by
  rw [Link.takePicture]
  cases path.filter (· ≠ "") with
  | none => exact .pure none
  | some path => exact (Session.stays_takeScreenshot page path).inside.bind fun _ => .pure _

theorem Link.inside_inspect (o : Link.Options) (settings : Poll.Settings) (browser : Nat) :
    Inside (τ := τ) (Link.inspect o settings browser) := by
  apply (Check.inside_openPage browser false true).bind
  rintro ⟨context, page⟩
  apply (Session.works_openLink page _).inside.bind
  intro _
  apply (Check.stays_wait page _).inside.bind
  intro _
  apply (Session.stays_nudge page).inside.bind
  intro _
  apply (Check.stays_wait page _).inside.bind
  intro _
  apply (Session.stays_collect page).inside.bind
  intro snapshot
  apply Check.stays_timestamp.inside.bind
  intro checkedAt
  apply (Confined.get.bind fun _ => .pure _).bind
  intro host
  apply (Link.inside_takePicture page _).bind
  intro picture
  apply (Check.inside_record (c := .closeContext context) rfl).bind
  intro _
  exact .pure _

theorem Link.uncalled_conclude (o : Link.Options) (r : Link.Findings) :
    Confined (τ := τ) World.Uncalled Halt.Abrupt (Link.conclude o r) := by
  have hstrict (failed : Bool) (message : String) :
      Confined (τ := τ) World.Uncalled Halt.Abrupt (if failed then do
        Check.say .failure message
        pure 1
      else pure 0) := by
    split
    · exact (Check.uncalled_say _ _).bind fun _ => .pure 1
    · exact .pure 0
  refine (Check.uncalled_given _).bind fun output => (Report.uncalled_write _ _ _).bind fun _ => ?_
  dsimp only
  split
  · exact (Check.uncalled_say _ _).bind fun _ => hstrict _ _
  · exact hstrict _ _

theorem Link.run_closes (env : Environment) (o : Link.Options) (w : World τ) :
    Closed (fun _ _ => True) w (Link.run env o w).2 :=
  Check.closed_bind (Check.uncalled_ofFault _) (fun settings =>
    Check.closed_session (fun browser => (Link.inside_inspect o settings browser).calls)
      (Link.uncalled_conclude o) _ _) w

namespace Matrix

theorem stays_sample (page : Nat) (halfWaitMs : Int) (sampleGapMs : Option Int) :
    Check.Stays (τ := τ) (sample page halfWaitMs sampleGapMs) :=
  (Check.stays_wait page _).bind fun _ => (Session.stays_nudge page).bind fun _ =>
    (Check.stays_wait page _).bind fun _ => Session.stays_collectPair page _

theorem stays_trySample (page : Nat) (link : String) (halfWaitMs : Int)
    (sampleGapMs : Option Int) :
    Check.Stays (τ := τ) (trySample page link halfWaitMs sampleGapMs) := by
  refine (stays_sample page halfWaitMs sampleGapMs).attempt_bind fun r hr => ?_
  split
  · exact .pure _
  · exact (Check.stays_log _ _ _).bind fun _ => .pure _
  · exact .throw (hr _ rfl)

theorem inside_checkLink (browser : Nat) (link : String) (index : Int)
    (perLinkWaitMs sampleGapMs : Option Int) (outputDir : String) :
    Inside (τ := τ) (checkLink browser link index perLinkWaitMs sampleGapMs outputDir) := by
  apply (Check.inside_openPage browser false true).bind
  rintro ⟨context, page⟩
  apply (Session.works_navigate page _ _).inside.bind
  intro opened
  apply (Check.stays_given _).inside.bind
  intro waitMs
  apply (stays_trySample page _ _ _).inside.bind
  intro samples
  apply (Check.stays_ofFault _).inside.bind
  intro path
  apply (Session.stays_takeScreenshot page _).inside.bind
  intro pictured
  apply (Check.inside_record (c := .closeContext context) rfl).bind
  intro _
  exact .pure _

theorem inside_checkLinks (o : Options) (outputDir : String) (browser total index : Nat)
    (links : List String) :
    Inside (τ := τ) (checkLinks o outputDir browser total index links) := by
  induction links generalizing index with
  | nil => exact .pure []
  | cons link rest ih =>
    refine (Check.stays_say _ _).inside.bind fun _ =>
      (inside_checkLink browser link index _ _ _).bind fun result => ?_
    dsimp only
    split
    · exact (Check.stays_say _ _).inside.bind fun _ => (ih (index + 1)).bind fun _ => .pure _
    · exact (Check.stays_say _ _).inside.bind fun _ => (ih (index + 1)).bind fun _ => .pure _

theorem gather_closes (o : Options) (links : List String) (w : World τ) :
    Closed (fun _ _ => True) w (gather o links w).2 := by
  refine Check.closed_bind (Check.uncalled_given _) (fun outputDir =>
    Check.closed_bind (Check.uncalled_makeDirectory _) fun _ =>
    Check.closed_bind Check.uncalled_timestamp fun _ =>
    Check.closed_session
      (fun browser => (inside_checkLinks o outputDir browser _ 1 links).calls) ?_ _ _) w
  exact fun _ => Check.uncalled_timestamp.bind fun _ =>
    (Confined.get.bind fun _ => .pure _).bind fun _ => .pure _

theorem run_closes (o : Options) (w : World τ) : Closed (fun _ _ => True) w (run o w).2 :=
  Check.closed_then (gather_closes o _ w) fun _ => (Check.uncalled_given _).bind fun _ =>
    (Report.uncalled_write _ _ _).bind fun _ => .pure _

end Matrix

namespace Publish

theorem inside_session (o : Options) (pushLink viewLink : String) (browser : Nat) :
    Inside (τ := τ) (session o pushLink viewLink browser) := by
  have hend (context page : Nat) : Inside (τ := τ) (do
      Check.wait page o.durationMs
      Check.closeContext context) :=
    (Check.stays_wait page _).inside.bind fun _ => Check.inside_record rfl
  apply (Check.inside_newContext browser true).bind
  intro context
  apply (Check.inside_collectInContext context).bind
  intro _
  apply (Check.inside_newPage context).bind
  intro publisherPage
  apply (Session.works_startPublisher publisherPage _ _ _).inside.bind
  intro click
  apply (Check.stays_wait publisherPage _).inside.bind
  intro _
  apply (Session.stays_collect publisherPage).inside.bind
  intro publisher
  apply (Check.inside_newPage context).bind
  intro viewerPage
  apply (Session.works_openLink viewerPage _).inside.bind
  intro _
  apply (Check.stays_wait viewerPage _).inside.bind
  intro _
  apply (Session.stays_collectPair viewerPage _).inside.bind
  rintro ⟨first, second⟩
  apply Check.stays_timestamp.inside.bind
  intro checkedAt
  apply (Confined.get.bind fun _ => .pure _).bind
  intro host
  apply (Check.stays_given _).inside.bind
  intro output
  apply (Check.inside_of_uncalled (Report.uncalled_write _ _ _)).bind
  intro _
  apply (Check.inside_record (c := .closePage viewerPage) rfl).bind
  intro _
  dsimp only
  split
  · exact (Check.stays_say _ _).inside.bind fun _ => hend context publisherPage
  · exact (Check.stays_say _ _).inside.bind fun _ => hend context publisherPage

theorem run_closes (o : Options) (w : World τ) : Closed (fun _ _ => True) w (run o w).2 :=
  Check.closed_bind (Check.uncalled_ofFault _) (fun (push, view) =>
    Check.closed_bind (Check.uncalled_say _ _) fun _ =>
    Check.closed_bind (Check.uncalled_say _ _) fun _ =>
    Check.closed_session (fun browser => (inside_session o push view browser).calls)
      (fun _ => .pure 0) _ _) w

end Publish

namespace Scenario

theorem openViewers_opens (browser n : Nat) (w : World τ) :
    ∃ viewers opening v, openViewers browser n w = (.ok (viewers, opening), v) ∧
      Opens (viewers.map (·.1)) w v := by
  induction n generalizing w with
  | zero => exact ⟨[], .ok (), w, rfl, .nil w⟩
  | succ n ih =>
    have hopens := Browser.openPage_opens browser false w
    rw [openViewers, Check.bind_of_ok (Check.attempt_run _ w)]
    generalize Session.openPage browser false true w = r at hopens ⊢
    obtain ⟨e | ⟨context, page⟩, u⟩ := r
    · exact ⟨[], .error e, u, rfl, hopens⟩
    · obtain ⟨viewers, opening, v, hrest, hmore⟩ := ih u
      refine ⟨(context, page) :: viewers, opening, v, ?_, hopens.trans hmore⟩
      exact Check.bind_of_ok hrest

variable [Timeline τ]

theorem onPages_closes (o : Options) (output : Report.Path) (c : Stream.Config)
    (settings : Poll.Settings) (browser : Nat) (u : World τ) :
    ∃ inside, (onPages o output c settings browser u).2.calls = u.calls ++ inside ∧
      (∀ c ∈ inside, c.isBoundary = false) ∧ Browser.ClosesContexts u.openings inside := by
  have hpublisher := Browser.openPage_opens browser true u
  rw [onPages, Check.bind_run]
  generalize Session.openPage browser true true u = r at hpublisher ⊢
  obtain ⟨e | ⟨context, publisher⟩, v₁⟩ := r
  · have hclosed := Browser.closesContexts_of_opens hpublisher (refl_of World.Works v₁)
    rwa [World.closing_nil] at hclosed
  · obtain ⟨viewers, opening, v₂, hviewers, hmore⟩ :=
      openViewers_opens browser o.viewers.toNat v₁
    have hopened : Opens (context :: viewers.map (·.1)) u v₂ := hpublisher.trans hmore
    dsimp only
    rw [Check.bind_of_ok hviewers]
    dsimp only
    rw [Check.ensuring_run (Browser.closeContexts_run (context :: viewers.map (·.1))),
      Check.bind_run, Check.ofExcept_run]
    cases opening with
    | error e => exact Browser.closesContexts_of_opens hopened (refl_of World.Works v₂)
    | ok _ => exact Browser.closesContexts_of_opens hopened ((works_perform o output _).world v₂)

theorem run_closes (env : Environment) (o : Options) (w : World τ) :
    Closed Browser.ClosesContexts w (run env o w).2 := by
  refine Check.closed_bind (Stream.uncalled_announce env) (fun c =>
    Check.closed_bind (Check.uncalled_ofFault _) fun settings =>
    Check.closed_bind (Check.uncalled_say _ _) fun _ =>
    Check.closed_bind (Check.uncalled_say _ _) fun _ =>
    Check.closed_bind (Check.uncalled_given _) fun output =>
    Check.closed_session (onPages_closes o _ c settings)
      (fun (exit, findings) => uncalled_conclude output exit findings) _ _) w

end Scenario

/-- Whatever halts a check on Chromium, and even if nothing does, its browser does not stay open; in
a scenario neither does any context. -/
theorem run_leaves_no_browser [Timeline τ] (w : World τ) :
    (∀ env o, Closed (fun _ _ => True) w (Link.run env o w).2) ∧
    (∀ o, Closed (fun _ _ => True) w (Matrix.run o w).2) ∧
    (∀ o, Closed (fun _ _ => True) w (Publish.run o w).2) ∧
    ∀ env o, Closed Browser.ClosesContexts w (Scenario.run env o w).2 :=
  ⟨fun env o => Link.run_closes env o w, fun o => Matrix.run_closes o w,
    fun o => Publish.run_closes o w, fun env o => Scenario.run_closes env o w⟩

end StreamWatch.Runner
