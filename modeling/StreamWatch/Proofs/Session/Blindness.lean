import StreamWatch.Poll.Loop
import StreamWatch.Proofs.Browser.Blindness

/-! Working and polling a page is blind to pictures. Taking one leaves two worlds alike that were
alike before, whatever came of it in either. -/
namespace StreamWatch

open Browser (Check Finder Timeline)
open Browser.Check (Blind Twin)

variable {τ : Type}

namespace Session

theorem blind_launchChromium (headless fakeMedia : Bool) :
    Blind (τ := τ) (launchChromium headless fakeMedia) :=
  (Check.blind_log _ _ _).bind fun _ => Check.blind_launch _ _ _

theorem blind_openPage (browser : Nat) (publisher collectPeers : Bool) :
    Blind (τ := τ) (openPage browser publisher collectPeers) := by
  refine (Check.blind_newContext _ _).bind fun context =>
    (Check.blind_newPage _).bind fun page => ?_
  cases collectPeers with
  | true => exact (Check.blind_collectInPage _).bind fun _ => .pure rfl
  | false => exact .pure rfl

theorem blind_navigate (page : Nat) (address : String) (timeoutMs : Int) :
    Blind (τ := τ) (navigate page address timeoutMs) := by
  refine (Check.blind_goto _ _ _).refusal?.bind fun failure => ?_
  cases failure with
  | some message => exact (Check.blind_log _ _ _).bind fun _ => .pure rfl
  | none => exact (Check.blind_log _ _ _).bind fun _ => .pure rfl

theorem blind_reload (page : Nat) (timeoutMs : Int) :
    Blind (τ := τ) (reload page timeoutMs) := by
  refine (Check.blind_reload _ _).refusal?.bind fun failure =>
    (Check.twin_page page).bind fun p q hp => ?_
  rw [hp.asked Browser.Page.address fun _ => rfl]
  cases failure with
  | some message => exact (Check.blind_log _ _ _).bind fun _ => .pure rfl
  | none => exact (Check.blind_log _ _ _).bind fun _ => .pure rfl

theorem blind_nudge (page : Nat) : Blind (τ := τ) (nudge page) :=
  (Check.twin_page page).bind fun p q hp => by
    rw [hp.asked (fun p => p.script.viewport) fun _ => rfl]
    exact (Blind.ofFault _).bind fun _ => Check.blind_clickAt _ _ _

theorem blind_seesCameraButton (page : Nat) (finder : Finder) :
    Blind (τ := τ) (seesCameraButton page finder) :=
  (Check.blind_record _).bind fun _ => (Check.twin_page page).bind fun p q hp => by
    rw [hp.asked (fun p => p.script.button) fun _ => rfl]
    exact .pure rfl

theorem blind_clickFound (page : Nat) (finder : Finder) (timeoutMs : Int) :
    Blind (τ := τ) (clickFound page finder timeoutMs) := by
  have hclick : Blind (τ := τ) (clickButton page finder timeoutMs) :=
    (Check.blind_record _).bind fun _ => (Check.twin_page page).bind fun p q hp => by
      rw [hp.asked (fun p => p.script.button) fun _ => rfl]
      exact Check.blind_failWith _
  refine hclick.refusal?.bind fun failure => ?_
  cases failure with
  | some message => exact (Check.blind_log _ _ _).bind fun _ => .pure rfl
  | none => exact (Check.blind_log _ _ _).bind fun _ => .pure rfl

theorem blind_clickShareCamera (page : Nat) (timeoutMs : Int) :
    Blind (τ := τ) (clickShareCamera page timeoutMs) := by
  refine (blind_seesCameraButton page .role).bind fun byRole => ?_
  split
  · exact blind_clickFound _ _ _
  · refine (blind_seesCameraButton page .text).bind fun byText => ?_
    split
    · exact blind_clickFound _ _ _
    · exact (Check.blind_log _ _ _).bind fun _ => .pure rfl

theorem twin_takeScreenshot (page : Nat) (path : String) :
    Twin (τ := τ) (fun _ _ => True) (takeScreenshot page path) (takeScreenshot page path) := by
  refine (Check.twin_refusal?_screenshot _ _).bind fun failure failure' _ => ?_
  cases failure <;> cases failure' <;>
    exact (Check.twin_log _ _ _ _ _ _).bind fun _ _ _ => .pure trivial

theorem blind_openLink (page : Nat) (address : String) :
    Blind (τ := τ) (openLink page address) := by
  refine (blind_navigate _ _ _).bind fun failure => ?_
  cases failure with
  | some reason => exact .throw _
  | none => exact .pure rfl

theorem blind_startPublisher (page : Nat) (address : String) (startupWaitMs settleMs : Option Int) :
    Blind (τ := τ) (startPublisher page address startupWaitMs settleMs) :=
  (blind_openLink _ _).bind fun _ => (Check.blind_wait _ _).bind fun _ =>
    (blind_clickShareCamera _ _).bind fun _ => (blind_nudge _).bind fun _ =>
    (Check.blind_wait _ _).bind fun _ => .pure rfl

theorem blind_openViewer (page : Nat) (address : String) :
    Blind (τ := τ) (openViewer page address) :=
  (blind_openLink _ _).bind fun _ => blind_nudge _

theorem blind_collect (page : Nat) : Blind (τ := τ) (collect page) :=
  (Check.blind_evaluate _).bind fun _ => (Blind.ofFault _).bind fun snapshot => by
    have hlog : Blind (τ := τ) (logSnapshot snapshot) :=
      (Blind.ofFault _).bind fun _ =>
        (Blind.forEach (fun _ => Check.blind_log _ _ _) _).bind fun _ => Check.blind_log _ _ _
    exact hlog.bind fun _ => .pure rfl

theorem blind_collectPair (page : Nat) (gapMs : Option Int) :
    Blind (τ := τ) (collectPair page gapMs) :=
  (blind_collect _).bind fun _ => (Check.blind_wait _ _).bind fun _ =>
    (blind_collect _).bind fun _ => .pure rfl

end Session

namespace Poll

theorem blind_waitOnFirst (pages : List Nat) (ms : Int) :
    Blind (τ := τ) (waitOnFirst pages ms) := by
  cases pages with
  | nil => exact .pure ()
  | cons first more => exact Check.blind_wait _ _

theorem blind_waitsLeft (pages : List Nat) : Blind (τ := τ) (waitsLeft pages) := by
  cases pages with
  | nil => exact .pure 0
  | cons first more =>
    exact (Check.twin_page first).bind fun _ _ hp =>
      .pure (hp.asked Browser.Page.waitsLeft fun _ => rfl)

variable [Timeline τ]

theorem blind_elapsed (started : τ) : Blind (elapsed started) :=
  .get fun u v hw => by
    rw [hw.eq Browser.World.clock fun _ => rfl]
    exact .pure rfl

theorem blind_round (settings : Settings) (limits : Limits) (label : String) (pages : List Nat)
    (started : τ) (attempt : Nat) :
    Blind (round settings limits label pages started attempt) := by
  refine (Blind.each Session.blind_collect _).bind fun snapshots => ?_
  split
  · exact (blind_elapsed _).bind fun _ => (Blind.ofFault _).bind fun _ =>
      (Check.blind_log _ _ _).bind fun _ => .pure rfl
  · refine (Blind.ofFault _).bind fun _ => (Check.blind_log _ _ _).bind fun _ =>
      (blind_elapsed _).bind fun _ => (Blind.given _).bind fun _ => ?_
    split
    · exact (Blind.ofFault _).bind fun _ => (Check.blind_log _ _ _).bind fun _ => .throw _
    · exact (Blind.ofFault _).bind fun _ => (Blind.given _).bind fun _ =>
        (blind_waitOnFirst _ _).bind fun _ => .pure rfl

theorem blind_rounds (settings : Settings) (limits : Limits) (label : String) (pages : List Nat)
    (started : τ) (waits attempt : Nat) :
    Blind (rounds settings limits label pages started waits attempt) := by
  induction waits generalizing attempt with
  | zero =>
    refine (blind_round _ _ _ _ _ _).bind fun answer => ?_
    cases answer with
    | some snapshots => exact .pure rfl
    | none => exact .throw _
  | succ waits ih =>
    refine (blind_round _ _ _ _ _ _).bind fun answer => ?_
    cases answer with
    | some snapshots => exact .pure rfl
    | none => exact ih _

theorem blind_untilLiveWithin (limits : Limits) (settings : Settings) (label : String)
    (pages : List Nat) : Blind (τ := τ) (untilLiveWithin limits settings label pages) :=
  .get fun u v hw => by
    rw [hw.eq Browser.World.clock fun _ => rfl]
    exact (blind_waitsLeft _).bind fun _ => blind_rounds _ _ _ _ _ _ _

end Poll
end StreamWatch
