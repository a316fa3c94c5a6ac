import StreamWatch.Poll.Loop
import StreamWatch.Proofs.Browser.Discipline
import StreamWatch.Runner.Common

/-! Sessions are disciplined. Work on open pages, polls and reports leave the pages standing as they
are, and a page that was opened by a session is ready to be sent to its address. -/
namespace StreamWatch

open Browser (Call Check Finder Standing Timeline)
open Browser.Check (Confined Obeys Roams)

variable {τ : Type}

namespace Session

section

variable {opened : List Nat}

theorem roams_nudge (page : Nat) : Roams (τ := τ) opened (nudge page) :=
  (Check.roams_page page).bind fun _ => (Check.roams_ofFault _).bind fun (x, y) =>
    Check.roams_clickAt page x y

theorem roams_seesCameraButton (page : Nat) (finder : Finder) :
    Roams (τ := τ) opened (seesCameraButton page finder) :=
  (Check.roams_record (by trivial)).bind fun _ => (Check.roams_page page).bind fun _ => .pure _

theorem roams_clickFound (page : Nat) (finder : Finder) (timeoutMs : Int) :
    Roams (τ := τ) opened (clickFound page finder timeoutMs) := by
  have hclick : Roams (τ := τ) opened (clickButton page finder timeoutMs) :=
    (Check.roams_record (by trivial)).bind fun _ => (Check.roams_page page).bind fun _ =>
      Check.roams_failWith _
  refine hclick.refusal?.bind fun failure => ?_
  cases failure with
  | some message => exact (Check.roams_log _ _ _).bind fun _ => .pure _
  | none => exact (Check.roams_log _ _ _).bind fun _ => .pure _

theorem roams_clickShareCamera (page : Nat) (timeoutMs : Int) :
    Roams (τ := τ) opened (clickShareCamera page timeoutMs) := by
  refine (roams_seesCameraButton page .role).bind fun byRole => ?_
  split
  · exact roams_clickFound page .role timeoutMs
  · refine (roams_seesCameraButton page .text).bind fun byText => ?_
    split
    · exact roams_clickFound page .text timeoutMs
    · exact (Check.roams_log _ _ _).bind fun _ => .pure _

theorem roams_takeScreenshot (page : Nat) (path : String) :
    Roams (τ := τ) opened (takeScreenshot page path) := by
  refine (Check.roams_screenshot page path).refusal?.bind fun failure => ?_
  cases failure with
  | some message => exact (Check.roams_log _ _ _).bind fun _ => .pure _
  | none => exact (Check.roams_log _ _ _).bind fun _ => .pure _

theorem roams_collect {page : Nat} (hpage : page ∈ opened) :
    Roams (τ := τ) opened (collect page) :=
  (Check.roams_evaluate hpage).bind fun _ => (Check.roams_ofFault _).bind fun _ =>
    ((Check.roams_ofFault _).bind fun _ =>
      (Confined.forEach (fun _ => Check.roams_log _ _ _) _).bind fun _ =>
      Check.roams_log _ _ _).bind fun _ => .pure _

theorem roams_collectPair {page : Nat} (hpage : page ∈ opened) (gapMs : Option Int) :
    Roams (τ := τ) opened (collectPair page gapMs) :=
  (roams_collect hpage).bind fun _ => (Check.roams_wait page gapMs).bind fun _ =>
    (roams_collect hpage).bind fun _ => .pure _

theorem roams_collects {pages : List Nat} (hpages : pages ⊆ opened) :
    Roams (τ := τ) opened (Check.each collect pages) :=
  .each_mem fun _ hk => roams_collect (hpages hk)

theorem roams_launchChromium (headless fakeMedia : Bool) :
    Roams (τ := τ) opened (launchChromium headless fakeMedia) :=
  (Check.roams_log _ _ _).bind fun _ => Check.roams_launch _ _ _

theorem roams_launchFirefox (headless : Bool) :
    Roams (τ := τ) opened (launchFirefox headless) :=
  (Check.roams_log _ _ _).bind fun _ => Check.roams_launch _ _ _

end

section

variable {base : List Call} {reloads : List Call → Nat → Prop} {kept : List Nat} {s : Standing}
  {page : Nat}

theorem obeys_openPage (browser : Nat) (publisher : Bool) (hk : kept ⊆ s.opened) :
    Obeys (τ := τ) base reloads kept s (openPage browser publisher true)
      fun opened => { s with ready := s.ready ++ [opened.2] } := by
  intro w hw
  have hcontext := hw.roaming (v := w.calling (.newContext browser w.contexts publisher))
    ⟨.record w trivial, Nat.le_refl _⟩
  have hpage := hcontext.roaming (v := (w.addingContext browser publisher).calling
    (.newPage w.contexts w.pages.length)) ⟨.record _ trivial, Nat.le_refl _⟩
  rw [openPage_run]
  split
  · exact hcontext.forget hk
  · exact hpage.forget hk
  · have hcollect := hpage.roaming (v := ((w.addingContext browser publisher).addingPage
      w.contexts).calling (.collectInPage w.pages.length)) ⟨.record _ trivial, by
        simp [Browser.World.calling, Browser.World.addingPage, Browser.World.addPage]⟩
    exact hcollect.forget hk
  · exact hpage.create [.collectInPage w.pages.length] rfl (List.length_append ..)
      (fun c hc => List.mem_singleton.mp hc ▸ trivial) fun made _ =>
        .inPage (List.mem_append_right made List.mem_cons_self)

section

variable {ready : List Nat} (hs : s.ready = page :: ready) (hk : kept ⊆ page :: s.opened)

include hs hk

theorem obeys_navigate (address : String) (timeoutMs : Int) :
    Obeys (τ := τ) base reloads kept s (navigate page address timeoutMs)
      fun _ => s.opening page ready := by
  refine (Check.obeys_refusal? (Check.attempted_goto hs address timeoutMs) hk).bind
    fun failure => ?_
  cases failure with
  | some message => exact ((Check.roams_log _ _ _).obeys hk).bind fun _ => Check.obeys_pure rfl
  | none => exact ((Check.roams_log _ _ _).obeys hk).bind fun _ => Check.obeys_pure rfl

theorem obeys_openLink (address : String) :
    Obeys (τ := τ) base reloads kept s (openLink page address)
      fun _ => s.opening page ready := by
  refine (obeys_navigate hs hk address navigationTimeoutMs).bind fun failure => ?_
  cases failure with
  | some reason => exact Check.obeys_throw hk
  | none => exact Check.obeys_pure rfl

theorem obeys_openViewer (address : String) :
    Obeys (τ := τ) base reloads kept s (openViewer page address)
      fun _ => s.opening page ready :=
  (obeys_openLink hs hk address).bind fun _ => (roams_nudge page).obeys hk

theorem obeys_startPublisher (address : String) (startupWaitMs settleMs : Option Int) :
    Obeys (τ := τ) base reloads kept s (startPublisher page address startupWaitMs settleMs)
      fun _ => s.opening page ready :=
  (obeys_openLink hs hk address).bind fun _ => ((Check.roams_wait page _).obeys hk).bind fun _ =>
    ((roams_clickShareCamera page _).obeys hk).bind fun _ =>
    ((roams_nudge page).obeys hk).bind fun _ =>
    ((Check.roams_wait page _).obeys hk).bind fun _ => Check.obeys_pure rfl

end

theorem obeys_reload {rest : List Nat} (hs : s.original = page :: rest) (hrest : page ∉ rest)
    (ho : page ∈ s.opened) (hr : ∀ history, s.past <+: history → reloads history page)
    (hk : kept ⊆ s.opened) (timeoutMs : Int) :
    Obeys (τ := τ) base reloads kept s (reload page timeoutMs)
      fun _ => s.reloading rest := by
  have hk : kept ⊆ (s.reloading rest).opened := hk
  refine (Check.obeys_refusal? (Check.attempted_reload hs hrest ho hr timeoutMs) hk).bind
    fun failure => ((Check.roams_page page).obeys hk).bind fun _ => ?_
  cases failure with
  | some message => exact ((Check.roams_log _ _ _).obeys hk).bind fun _ => Check.obeys_pure rfl
  | none => exact ((Check.roams_log _ _ _).obeys hk).bind fun _ => Check.obeys_pure rfl

end

end Session

namespace Poll

open Session (roams_collects)

variable {opened pages : List Nat}

theorem roams_waitOnFirst (pages : List Nat) (ms : Int) :
    Roams (τ := τ) opened (waitOnFirst pages ms) := by
  cases pages with
  | nil => exact .pure ()
  | cons first more => exact Check.roams_wait first ms

variable [Timeline τ] (hpages : pages ⊆ opened)

include hpages

theorem roams_round (settings : Settings) (limits : Limits) (label : String) (started : τ)
    (attempt : Nat) : Roams opened (round settings limits label pages started attempt) := by
  refine (roams_collects hpages).bind fun snapshots => ?_
  split
  · exact (Confined.get.bind fun _ => .pure _).bind fun _ => (Check.roams_ofFault _).bind fun _ =>
      (Check.roams_log _ _ _).bind fun _ => .pure _
  · refine (Check.roams_ofFault _).bind fun _ => (Check.roams_log _ _ _).bind fun _ =>
      (Confined.get.bind fun _ => .pure _).bind fun span =>
      (Check.roams_given limits.timeoutMs).bind fun timeoutMs => ?_
    split
    · exact (Check.roams_ofFault _).bind fun _ => (Check.roams_log _ _ _).bind fun _ =>
        .throw trivial
    · exact (Check.roams_ofFault _).bind fun _ => (Check.roams_given _).bind fun _ =>
        (roams_waitOnFirst pages _).bind fun _ => .pure _

theorem roams_rounds (settings : Settings) (limits : Limits) (label : String) (started : τ)
    (left attempt : Nat) :
    Roams opened (rounds settings limits label pages started left attempt) := by
  induction left generalizing attempt with
  | zero =>
    refine (roams_round hpages settings limits label started attempt).bind fun answer => ?_
    cases answer with
    | some snapshots => exact .pure snapshots
    | none => exact .throw trivial
  | succ left ih =>
    refine (roams_round hpages settings limits label started attempt).bind fun answer => ?_
    cases answer with
    | some snapshots => exact .pure snapshots
    | none => exact ih (attempt + 1)

theorem roams_untilLiveWithin (limits : Limits) (settings : Settings) (label : String) :
    Roams (τ := τ) opened (untilLiveWithin limits settings label pages) := by
  have hleft : Roams (τ := τ) opened (waitsLeft pages) := by
    cases pages with
    | nil => exact .pure 0
    | cons first more => exact (Check.roams_page first).bind fun _ => .pure _
  exact Confined.get.bind fun _ => hleft.bind fun left => roams_rounds hpages _ _ _ _ left 0

end Poll

theorem Report.roams_write (payload : Json.Value) (path : Report.Path) (echo : Bool)
    {opened : List Nat} : Roams (τ := τ) opened (Report.write payload path echo) := by
  refine (Check.roams_makeDirectory _).bind fun _ => (Check.roams_ofFault _).bind fun _ =>
    (Check.roams_writeFile _ _).bind fun _ => (Check.roams_log _ _ _).bind fun _ => ?_
  split
  · exact Check.roams_print _
  · exact .pure ()

theorem Report.roams_host {opened : List Nat} : Roams (τ := τ) opened Report.host :=
  Confined.get.bind fun _ => .pure _

theorem Stream.roams_announce (env : Environment) {opened : List Nat} :
    Roams (τ := τ) opened (Stream.announce env) :=
  (Check.roams_log _ _ _).bind fun _ => (Check.roams_log _ _ _).bind fun _ => .pure _

end StreamWatch
