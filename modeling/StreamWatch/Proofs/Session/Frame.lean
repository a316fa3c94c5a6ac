import StreamWatch.Proofs.Browser.Visits
import StreamWatch.Proofs.Session.Sampling
import StreamWatch.Session.Page

/-! What working a page leaves as it is, and which navigations and clicks went well where a page was
opened without a halt. -/
namespace StreamWatch.Session

open Browser (Call Check Finder Page World)
open Browser.Check (Advances Confined Stays Works)
open Browser.World (Called Visited)

variable {τ : Type}

theorem stays_nudge (page : Nat) : Stays (τ := τ) (nudge page) :=
  (Confined.page page).bind fun _ => (Check.stays_ofFault _).bind fun (x, y) =>
    Check.stays_clickAt page x y

theorem stays_seesCameraButton (page : Nat) (finder : Finder) :
    Stays (τ := τ) (seesCameraButton page finder) :=
  (Check.stays_record rfl).bind fun _ => (Confined.page page).bind fun _ => .pure _

theorem stays_clickButton (page : Nat) (finder : Finder) (timeoutMs : Int) :
    Stays (τ := τ) (clickButton page finder timeoutMs) :=
  (Check.stays_record rfl).bind fun _ => (Confined.page page).bind fun _ => Check.stays_failWith _

theorem stays_clickFound (page : Nat) (finder : Finder) (timeoutMs : Int) :
    Stays (τ := τ) (clickFound page finder timeoutMs) := by
  refine (stays_clickButton page finder timeoutMs).refusal?.bind fun failure => ?_
  cases failure with
  | some message => exact (Check.stays_log _ _ _).bind fun _ => .pure _
  | none => exact (Check.stays_log _ _ _).bind fun _ => .pure _

theorem stays_clickShareCamera (page : Nat) (timeoutMs : Int) :
    Stays (τ := τ) (clickShareCamera page timeoutMs) := by
  refine (stays_seesCameraButton page .role).bind fun byRole => ?_
  split
  · exact stays_clickFound page .role timeoutMs
  · refine (stays_seesCameraButton page .text).bind fun byText => ?_
    split
    · exact stays_clickFound page .text timeoutMs
    · exact (Check.stays_log _ _ _).bind fun _ => .pure _

theorem stays_takeScreenshot (page : Nat) (path : String) :
    Stays (τ := τ) (takeScreenshot page path) := by
  refine (Check.stays_screenshot page path).refusal?.bind fun failure => ?_
  cases failure with
  | some message => exact (Check.stays_log _ _ _).bind fun _ => .pure _
  | none => exact (Check.stays_log _ _ _).bind fun _ => .pure _

theorem stays_collect (page : Nat) : Stays (τ := τ) (collect page) :=
  (Check.stays_evaluate page).bind fun _ => (Check.stays_ofFault _).bind fun _ =>
    ((Check.stays_ofFault _).bind fun _ =>
      (Confined.forEach (fun _ => Check.stays_log _ _ _) _).bind fun _ =>
      Check.stays_log _ _ _).bind fun _ => .pure _

theorem stays_collectPair (page : Nat) (gapMs : Option Int) :
    Stays (τ := τ) (collectPair page gapMs) :=
  (stays_collect page).bind fun _ => (Check.stays_wait page gapMs).bind fun _ =>
    (stays_collect page).bind fun _ => .pure _

theorem works_navigate (page : Nat) (address : String) (timeoutMs : Int) :
    Works (τ := τ) (navigate page address timeoutMs) := by
  refine (Check.works_goto page address timeoutMs).refusal?.bind fun failure => ?_
  cases failure with
  | some message => exact (Check.stays_log _ _ _).works.bind fun _ => .pure _
  | none => exact (Check.stays_log _ _ _).works.bind fun _ => .pure _

theorem works_reload (page : Nat) (timeoutMs : Int) :
    Works (τ := τ) (reload page timeoutMs) := by
  refine (Check.works_reload page timeoutMs).refusal?.bind fun failure =>
    (Confined.page page).bind fun _ => ?_
  cases failure with
  | some message => exact (Check.stays_log _ _ _).works.bind fun _ => .pure _
  | none => exact (Check.stays_log _ _ _).works.bind fun _ => .pure _

theorem works_openLink (page : Nat) (address : String) :
    Works (τ := τ) (openLink page address) := by
  refine (works_navigate page address navigationTimeoutMs).bind fun failure => ?_
  cases failure with
  | some reason => exact .throw rfl
  | none => exact .pure ()

theorem works_startPublisher (page : Nat) (address : String)
    (startupWaitMs settleMs : Option Int) :
    Works (τ := τ) (startPublisher page address startupWaitMs settleMs) :=
  (works_openLink page address).bind fun _ => (Check.stays_wait page _).works.bind fun _ =>
    (stays_clickShareCamera page _).works.bind fun _ => (stays_nudge page).works.bind fun _ =>
    (Check.stays_wait page _).works.bind fun _ => .pure _

theorem works_openViewer (page : Nat) (address : String) :
    Works (τ := τ) (openViewer page address) :=
  (works_openLink page address).bind fun _ => (stays_nudge page).works

theorem advances_openPage (browser : Nat) (publisher collectPeers : Bool) :
    Advances (τ := τ) (openPage browser publisher collectPeers) := by
  refine (Check.advances_newContext browser publisher).bind fun context =>
    (Check.advances_newPage context).bind fun page => ?_
  split
  · exact (Check.advances_collectInPage page).bind fun _ => .pure _
  · exact .pure _

theorem openPage_run (browser : Nat) (publisher : Bool) (w : World τ) :
    openPage browser publisher true w =
      match w.openings.context w.contexts, w.openings.page w.pages.length,
        w.openings.collectInPage w.pages.length with
      | some message, _, _ =>
        (.error (.browser message), w.calling (.newContext browser w.contexts publisher))
      | none, some message, _ =>
        (.error (.browser message), (w.addingContext browser publisher).calling
          (.newPage w.contexts w.pages.length))
      | none, none, some message =>
        (.error (.browser message), ((w.addingContext browser publisher).addingPage
          w.contexts).calling (.collectInPage w.pages.length))
      | none, none, none =>
        (.ok (w.contexts, w.pages.length), ((w.addingContext browser publisher).addingPage
          w.contexts).calling (.collectInPage w.pages.length)) := by
  have hcontext := Check.newContext_run browser publisher w
  have hpage := Check.newPage_run w.contexts (w.addingContext browser publisher)
  have hcollect := Check.collectInPage_run w.pages.length
    ((w.addingContext browser publisher).addingPage w.contexts)
  rw [World.openings_addingContext, World.pages_addingContext] at hpage
  rw [World.openings_addingPage, World.openings_addingContext] at hcollect
  rw [openPage]
  cases hc : w.openings.context w.contexts with
  | some message =>
    rw [hc] at hcontext
    rw [Check.bind_of_error hcontext]
  | none =>
    rw [hc] at hcontext
    rw [Check.bind_of_ok hcontext]
    cases hp : w.openings.page w.pages.length with
    | some message =>
      rw [hp] at hpage
      rw [Check.bind_of_error hpage]
    | none =>
      rw [hp] at hpage
      rw [Check.bind_of_ok hpage]
      dsimp only
      rw [if_pos rfl]
      cases hx : w.openings.collectInPage w.pages.length with
      | some message =>
        rw [hx] at hcollect
        exact Check.bind_of_error hcollect
      | none =>
        rw [hx] at hcollect
        exact Check.bind_of_ok hcollect

theorem advances_launchChromium (headless fakeMedia : Bool) :
    Advances (τ := τ) (launchChromium headless fakeMedia) :=
  (Check.stays_log _ _ _).advances.bind fun _ => Check.advances_launch _ _ _

variable {w v : World τ} {page : Nat} {address : String} {timeoutMs : Int}

theorem visited_of_navigate (h : navigate page address timeoutMs w = (.ok none, v)) :
    Visited Page.lastOpening (.goto page address timeoutMs) page w v := by
  obtain ⟨failure, u, hu, hv⟩ := Check.bind_ok h
  cases failure with
  | some message =>
    obtain ⟨_, _, -, hv⟩ := Check.bind_ok hv
    cases hv
  | none =>
    obtain ⟨_, _, hl, hv⟩ := Check.bind_ok hv
    have hq := (Check.stays_log .info .session s!"Navigated to {address}").of_run hl
    cases hv
    exact (Check.visited_of_goto (Check.ok_of_refusal? hu)).quiet Page.lastOpening_of_visits hq

theorem visited_of_openLink (h : openLink page address w = (.ok (), v)) :
    Visited Page.lastOpening (.goto page address navigationTimeoutMs) page w v := by
  obtain ⟨failure, u, hu, hv⟩ := Check.bind_ok h
  cases failure with
  | some reason => cases hv
  | none =>
    cases hv
    exact visited_of_navigate hu

theorem visited_of_openViewer (h : openViewer page address w = (.ok (), v)) :
    Visited Page.lastOpening (.goto page address navigationTimeoutMs) page w v := by
  obtain ⟨_, u, hu, hv⟩ := Check.bind_ok h
  have hq := (stays_nudge page).of_run hv
  exact (visited_of_openLink hu).quiet Page.lastOpening_of_visits hq

theorem visited_of_reload (h : reload page timeoutMs w = (.ok none, v)) :
    Visited Page.lastReload (.reload page timeoutMs) page w v := by
  obtain ⟨failure, u, hu, hv⟩ := Check.bind_ok h
  obtain ⟨p, u', hp, hv⟩ := Check.bind_ok hv
  cases hp
  cases failure with
  | some message =>
    obtain ⟨_, _, -, hv⟩ := Check.bind_ok hv
    cases hv
  | none =>
    obtain ⟨_, _, hl, hv⟩ := Check.bind_ok hv
    have hq := (Check.stays_log .info .session s!"Reloaded {(u.page page).address}").of_run hl
    cases hv
    exact (Check.visited_of_reload (Check.ok_of_refusal? hu)).quiet Page.lastReload_of_visits hq

theorem calls_clickButton (page : Nat) (finder : Finder) (timeoutMs : Int) (w : World τ) :
    Called w (.clickButton page finder timeoutMs) (clickButton page finder timeoutMs w).2 := by
  refine ⟨[.clickButton page finder timeoutMs], ?_, List.mem_singleton_self _⟩
  have h : clickButton page finder timeoutMs w =
      Check.failWith ((w.page page).script.button finder).clickFailure
        { w with calls := w.calls ++ [.clickButton page finder timeoutMs] } := rfl
  rw [h]
  cases ((w.page page).script.button finder).clickFailure with
  | none => rfl
  | some message => rfl

theorem called_of_clickFound {finder : Finder} {click : Click}
    (h : clickFound page finder timeoutMs w = (.ok click, v)) :
    Called w (.clickButton page finder timeoutMs) v := by
  obtain ⟨failure, u, hu, hv⟩ := Check.bind_ok h
  have hw : u = (clickButton page finder timeoutMs w).2 := by
    rw [← Check.refusal?_world, hu]
  have hc : Called w (.clickButton page finder timeoutMs) u := by
    rw [hw]
    exact calls_clickButton page finder timeoutMs w
  cases failure with
  | some message =>
    obtain ⟨_, _, hl, hv⟩ := Check.bind_ok hv
    have hq := (Check.stays_log .warning .session
      s!"Could not click 'share your camera': {message}").of_run hl
    cases hv
    exact hc.later hq.calls
  | none =>
    obtain ⟨_, _, hl, hv⟩ := Check.bind_ok hv
    have hq := (Check.stays_log .info .session "Clicked 'share your camera'").of_run hl
    cases hv
    exact hc.later hq.calls

theorem called_of_clickShareCamera {click : Click}
    (h : clickShareCamera page timeoutMs w = (.ok click, v)) (ha : click.attempted = true) :
    ∃ finder, Called w (.clickButton page finder timeoutMs) v := by
  obtain ⟨byRole, u, hu, hv⟩ := Check.bind_ok h
  have hq := (stays_seesCameraButton page .role).of_run hu
  cases byRole with
  | true => exact ⟨.role, (called_of_clickFound hv).earlier hq.calls⟩
  | false =>
    obtain ⟨byText, u', hu', hv⟩ := Check.bind_ok hv
    have hq' := (stays_seesCameraButton page .text).of_run hu'
    cases byText with
    | true => exact ⟨.text, (called_of_clickFound hv).earlier (hq.calls.trans hq'.calls)⟩
    | false =>
      obtain ⟨_, _, -, hv⟩ := Check.bind_ok hv
      cases hv
      cases ha

theorem visited_of_startPublisher {startupWaitMs settleMs : Option Int} {click : Click}
    (h : startPublisher page address startupWaitMs settleMs w = (.ok click, v)) :
    Visited Page.lastOpening (.goto page address navigationTimeoutMs) page w v ∧
      (click.attempted = true →
        ∃ finder, Called w (.clickButton page finder clickTimeoutMs) v) := by
  obtain ⟨_, u₁, h₁, h⟩ := Check.bind_ok h
  obtain ⟨_, u₂, h₂, h⟩ := Check.bind_ok h
  obtain ⟨_, u₃, h₃, h⟩ := Check.bind_ok h
  obtain ⟨_, u₄, h₄, h⟩ := Check.bind_ok h
  obtain ⟨_, u₅, h₅, h⟩ := Check.bind_ok h
  cases h
  have hv := visited_of_openLink h₁
  have q₂ := (Check.stays_wait page startupWaitMs).of_run h₂
  have q₃ := (stays_clickShareCamera page clickTimeoutMs).of_run h₃
  have q₄ := (stays_nudge page).of_run h₄
  have q₅ := (Check.stays_wait page settleMs).of_run h₅
  have settled := trans_of World.Quiet q₄ q₅
  refine ⟨hv.quiet Page.lastOpening_of_visits (trans_of World.Quiet q₂
    (trans_of World.Quiet q₃ settled)), fun ha => ?_⟩
  obtain ⟨finder, hc⟩ := called_of_clickShareCamera h₃ ha
  exact ⟨finder, (hc.earlier (hv.called.calls.trans q₂.calls)).later settled.calls⟩

end StreamWatch.Session
