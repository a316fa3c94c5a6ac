import StreamWatch.Proofs.Browser.Lifetime
import StreamWatch.Proofs.Poll.Frame
import StreamWatch.Proofs.Report.Writing
import StreamWatch.Runner.CrossBrowser

/-! The lifetimes of two browsers. The check across browsers launches Chromium and then Firefox, and
closes both after its work, whatever comes of it. Between the two launches nothing is bound to be
closed: if Firefox does not start, Chromium stays open. -/
namespace StreamWatch

open Browser (Call Check Timeline World)

namespace Browser

variable {τ α β : Type}

/-- How a run with two browsers went from `u` to `v`. None was launched, or Chromium did not start,
or Firefox did not and Chromium was abandoned, or both were closed by the last two calls. -/
inductive ClosedBoth (u v : World τ) : Prop
  | unlaunched : v.calls = u.calls → ClosedBoth u v
  | refused {headless : Bool} {message : String} :
      u.launchFailure .chromium = some message →
      v.calls = u.calls ++ [.launch .chromium headless true] →
      ClosedBoth u v
  | abandoned {headless : Bool} {message : String} :
      u.launchFailure .chromium = none →
      u.launchFailure .firefox = some message →
      v.calls = u.calls ++ [.launch .chromium headless true, .launch .firefox headless true] →
      ClosedBoth u v
  | closed {headless : Bool} {inside : List Call} :
      u.launchFailure .chromium = none →
      u.launchFailure .firefox = none →
      (∀ c ∈ inside, c.isBoundary = false) →
      v.calls = u.calls ++
        (.launch .chromium headless true :: .launch .firefox headless true :: inside ++
          [.closeBrowser (u.browsers + 1), .closeBrowser u.browsers]) →
      ClosedBoth u v

section

variable {u v w : World τ}

theorem ClosedBoth.after (huv : World.Uncalled u v) (h : ClosedBoth v w) : ClosedBoth u w := by
  obtain ⟨hcalls, hbrowsers, hlaunch⟩ := huv
  cases h with
  | unlaunched h => exact .unlaunched (h.trans hcalls)
  | refused hchromium h =>
    rw [hlaunch] at hchromium
    rw [hcalls] at h
    exact .refused hchromium h
  | abandoned hchromium hfirefox h =>
    rw [hlaunch] at hchromium hfirefox
    rw [hcalls] at h
    exact .abandoned hchromium hfirefox h
  | closed hchromium hfirefox hinside h =>
    rw [hlaunch] at hchromium hfirefox
    rw [hcalls, hbrowsers] at h
    exact .closed hchromium hfirefox hinside h

theorem ClosedBoth.before (h : ClosedBoth u v) (hvw : World.Uncalled v w) : ClosedBoth u w := by
  cases h with
  | unlaunched h => exact .unlaunched (hvw.calls.trans h)
  | refused hchromium h => exact .refused hchromium (hvw.calls.trans h)
  | abandoned hchromium hfirefox h => exact .abandoned hchromium hfirefox (hvw.calls.trans h)
  | closed hchromium hfirefox hinside h =>
    exact .closed hchromium hfirefox hinside (hvw.calls.trans h)

end

namespace Check

theorem closedBoth_bind {act : Check τ α} {k : α → Check τ β}
    (ha : Confined World.Uncalled Halt.Abrupt act) (hk : ∀ a w, ClosedBoth w (k a w).2)
    (w : World τ) : ClosedBoth w ((act >>= k) w).2 :=
  ha.leads_bind ClosedBoth (fun huv => .unlaunched huv.calls) ClosedBoth.after hk w

theorem closedBoth_then {act : Check τ α} {k : α → Check τ β} {u w : World τ}
    (ha : ClosedBoth u (act w).2) (hk : ∀ a, Confined World.Uncalled (fun _ => True) (k a)) :
    ClosedBoth u ((act >>= k) w).2 :=
  Confined.trails_bind ClosedBoth hk ClosedBoth.before ha

theorem launchFirefox_run (headless : Bool) (w : World τ) :
    ∃ lines, Session.launchFirefox headless w =
      match w.launchFailure .firefox with
      | some message => (.error (.browser message),
          { w with log := lines, calls := w.calls ++ [.launch .firefox headless true] })
      | none => (.ok w.browsers,
          { w with
            log := lines
            calls := w.calls ++ [.launch .firefox headless true]
            browsers := w.browsers + 1 }) :=
  launch_run _ .firefox headless true w

abbrev Within (act : Check τ α) : Prop :=
  Confined (World.Calling (·.isBoundary = false)) (fun _ => True) act

theorem Inside.within {act : Check τ α} (ha : Inside act) : Within act :=
  ha.mono (fun _ _ h => h) fun _ _ => trivial

def closePair (viewer publisher : Nat) : Check τ Unit := do
  closeBrowser viewer
  closeBrowser publisher

theorem closePair_run (viewer publisher : Nat) (w : World τ) :
    closePair viewer publisher w = (.ok (),
      { w with calls := w.calls ++ [.closeBrowser viewer] ++ [.closeBrowser publisher] }) := rfl

theorem closedBoth_session {act : Nat → Nat → Check τ α} {k : α → Check τ β}
    (hact : ∀ publisher viewer, Within (act publisher viewer))
    (hk : ∀ a, Confined World.Uncalled (fun _ => True) (k a)) (headless : Bool) (w : World τ) :
    ClosedBoth w ((Session.launchChromium headless true >>= fun publisher =>
      Session.launchFirefox headless >>= fun viewer =>
      ensuring (act publisher viewer) (closePair viewer publisher) >>= k) w).2 := by
  obtain ⟨lines, hl⟩ := launchChromium_run headless true w
  cases hchromium : w.launchFailure .chromium with
  | some message =>
    rw [hchromium] at hl
    rw [bind_of_error hl]
    exact .refused hchromium rfl
  | none =>
    rw [hchromium] at hl
    rw [bind_of_ok hl]
    obtain ⟨more, hm⟩ := launchFirefox_run headless { w with
      log := lines
      calls := w.calls ++ [.launch .chromium headless true]
      browsers := w.browsers + 1 }
    cases hfirefox : w.launchFailure .firefox with
    | some message =>
      rw [hfirefox] at hm
      rw [bind_of_error hm]
      exact .abandoned hchromium hfirefox (List.append_assoc ..)
    | none =>
      rw [hfirefox] at hm
      rw [bind_of_ok hm]
      refine closedBoth_then ?_ hk
      obtain ⟨inside, hcalls, hinside⟩ := (hact w.browsers (w.browsers + 1)).world { w with
        log := more
        calls := w.calls ++ [.launch .chromium headless true] ++ [.launch .firefox headless true]
        browsers := w.browsers + 1 + 1 }
      rw [ensuring_run (closePair_run (w.browsers + 1) w.browsers)]
      refine @ClosedBoth.closed _ _ _ headless inside hchromium hfirefox hinside ?_
      dsimp only
      rw [hcalls]
      simp

end Check
end Browser

namespace Runner.CrossBrowser

open Browser (ClosedBoth)
open Browser.Check (Confined Within)

variable {τ : Type}

theorem uncalled_conclude (settings : Poll.Settings) (verdict : Verdict) :
    Confined (τ := τ) World.Uncalled (fun _ => True) (conclude settings verdict) := by
  have hany {α : Type} {act : Check τ α} (ha : Confined World.Uncalled Halt.Abrupt act) :
      Confined World.Uncalled (fun _ => True) act :=
    ha.mono (fun _ _ h => h) fun _ _ => trivial
  refine (hany (Check.uncalled_ofFault _)).bind fun complaints => ?_
  split
  · exact (hany (Check.uncalled_say _ _)).bind fun _ => .pure 0
  · exact .throw trivial

variable [Timeline τ]

theorem within_firstLive (limits : Poll.Limits) (settings : Poll.Settings) (page : Nat) :
    Within (τ := τ) (firstLive limits settings page) := by
  have hpoll : Within (τ := τ) (Poll.untilLiveWithin limits settings label [page]) :=
    (Poll.quiet_untilLiveWithin limits settings label [page]).mono
      (fun _ _ h => h.made.mono fun _ => Call.inside_of_isWork) fun _ _ => trivial
  refine hpoll.bind fun snapshots => ?_
  split
  · exact .pure _
  · exact .throw trivial

theorem within_inspect (o : Options) (c : Stream.Config) (settings : Poll.Settings)
    (publisherBrowser viewerBrowser : Nat) :
    Within (τ := τ) (inspect o c settings publisherBrowser viewerBrowser) := by
  apply (Check.inside_openPage publisherBrowser true true).within.bind
  rintro ⟨publisherContext, publisher⟩
  apply (Check.inside_openPage viewerBrowser false true).within.bind
  rintro ⟨viewerContext, viewer⟩
  apply (Session.works_startPublisher publisher _ _ _).inside.within.bind
  intro click
  apply (Session.works_openViewer viewer _).inside.within.bind
  intro _
  apply (within_firstLive o.limits settings viewer).bind
  intro first
  apply (Check.stays_wait viewer _).inside.within.bind
  intro _
  apply (Session.stays_collect viewer).inside.within.bind
  intro second
  apply (Check.stays_ofFault _).inside.within.bind
  intro stream
  apply (Confined.get.bind fun _ => .pure _).bind
  intro host
  apply (Check.stays_given _).inside.within.bind
  intro output
  apply (Check.inside_of_uncalled (Report.uncalled_write _ _ _)).within.bind
  intro _
  apply (Check.inside_record (c := .closeContext viewerContext) rfl).within.bind
  intro _
  apply (Check.inside_record (c := .closeContext publisherContext) rfl).within.bind
  intro _
  exact .pure _

/-- Whatever halts the check, both browsers are closed, once each and last, if both were launched;
only a Firefox that does not start leaves Chromium open. -/
theorem run_closes_launched_pair (env : Environment) (o : Options) (w : World τ) :
    ClosedBoth w (run env o w).2 :=
  Check.closedBoth_bind (Stream.uncalled_announce env) (fun c =>
    Check.closedBoth_bind (Check.uncalled_ofFault _) fun settings =>
    Check.closedBoth_bind (Check.uncalled_say _ _) fun _ =>
    Check.closedBoth_bind (Check.uncalled_say _ _) fun _ =>
    Check.closedBoth_session (within_inspect o c settings) (uncalled_conclude settings) _) w

def withoutFirefox : World Rat :=
  { World.start 0 [] with
    launchFailure := fun
      | .chromium => none
      | .firefox => some "Executable doesn't exist" }

/-- Chromium is launched and Firefox refused; nothing closes Chromium. -/
theorem run_leaves_chromium_open :
    (run [] {} withoutFirefox).1.toOption = none ∧
      withoutFirefox.launchFailure .chromium = none ∧
      (run [] {} withoutFirefox).2.calls =
        [.launch .chromium true true, .launch .firefox true true] ∧
      .closeBrowser 0 ∉ (run [] {} withoutFirefox).2.calls := by
  decide +kernel

end Runner.CrossBrowser
end StreamWatch
