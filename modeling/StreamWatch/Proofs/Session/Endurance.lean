import StreamWatch.Json.Printer
import StreamWatch.Proofs.Session.Sampling
import StreamWatch.Session.Page

/-! What a check endures. On an orderly page every step that fails is refused by the browser, with a
message; so a step that is allowed to be refused never halts. Each check here comes with what is
known of its answer and of the halts that are left to it. -/
namespace StreamWatch.Browser

open Sample (Snapshot)

variable {τ α β : Type}

/-- Nothing but the browser refuses a step of the page: time passes, no wait is interrupted, the
page has a middle, and a sample that does not fail can be read and written. -/
structure PageScript.Orderly (s : PageScript τ) : Prop where
  sampled : ∀ n t, ∃ t', s.sampled n t = .ok t'
  waited : ∀ n ms t, ∃ t', s.waited n ms t = .ok t'
  uninterrupted : ∀ n, s.wait n ≠ .interrupted
  middle : ∃ point, Session.middle s.viewport = .ok point
  sample : ∀ n value, s.sample n = .ok value →
    ∃ x, Snapshot.ofAnswer value = .ok x ∧ x.toJson.isWritable = true

theorem orderly_ofPlan {plan : PageScript.Plan} (hinterrupt : plan.interruptAt = none)
    (hmiddle : ∃ point, Session.middle plan.viewport = .ok point)
    (hsample : ∀ n value, PageScript.sampleOf plan.samples n = .ok value →
      ∃ x, Snapshot.ofAnswer value = .ok x ∧ x.toJson.isWritable = true) :
    (PageScript.ofPlan plan : PageScript Rat).Orderly where
  sampled _ t := ⟨t + plan.latencyMs, rfl⟩
  waited _ ms t := ⟨t + ms, rfl⟩
  uninterrupted n := by
    simp only [PageScript.ofPlan, hinterrupt, reduceCtorEq, if_false]
    split <;> exact nofun
  middle := hmiddle
  sample := hsample

namespace World

structure Orderly (w : World τ) : Prop where
  pages : ∀ k, (w.page k).script.Orderly
  upcoming : ∀ s ∈ w.upcoming, s.Orderly
  blank : w.blank.Orderly
  openings : w.openings = {}

structure Steady (u v : World τ) : Prop where
  orderly : v.Orderly
  files : v.files = u.files
  now : v.now = u.now
  host : v.host = u.host

variable {u v w : World τ}

theorem Steady.trans (h : Steady u v) (h' : Steady v w) : Steady u w :=
  ⟨h'.orderly, h'.files.trans h.files, h'.now.trans h.now, h'.host.trans h.host⟩

theorem Orderly.steady (h : w.Orderly) : Steady w w := ⟨h, rfl, rfl, rfl⟩

theorem Orderly.of_same (h : u.Orderly) (hpages : v.pages = u.pages)
    (hupcoming : v.upcoming = u.upcoming) (hblank : v.blank = u.blank)
    (hopenings : v.openings = u.openings) : v.Orderly := by
  refine ⟨fun k => ?_, ?_, ?_, hopenings.trans h.openings⟩
  · rw [World.page, hpages, hblank]
    exact h.pages k
  · rw [hupcoming]
    exact h.upcoming
  · rw [hblank]
    exact h.blank

theorem Orderly.updatePage (h : w.Orderly) (k : Nat) {f : Page τ → Page τ}
    (hf : ∀ p, (f p).script = p.script) : (w.updatePage k f).Orderly := by
  refine ⟨fun j => ?_, h.upcoming, h.blank, h.openings⟩
  rw [script_updatePage w k j hf]
  exact h.pages j

theorem page_addPage (w : World τ) (k : Nat) :
    (w.addPage.page k).script =
      if k = w.pages.length then w.upcoming.headD w.blank else (w.page k).script := by
  simp only [page, addPage, List.getD_eq_getElem?_getD]
  rcases Nat.lt_trichotomy k w.pages.length with hk | rfl | hk
  · rw [List.getElem?_append_left hk, if_neg (by omega)]
  · simp [Page.fresh]
  · rw [List.getElem?_eq_none (by simp; omega), List.getElem?_eq_none (by omega),
      if_neg (by omega)]

theorem Orderly.addPage (h : w.Orderly) : w.addPage.Orderly := by
  refine ⟨fun k => ?_, fun s hs => h.upcoming s (List.mem_of_mem_tail hs), h.blank,
    h.openings⟩
  rw [page_addPage]
  split
  · cases hu : w.upcoming with
    | nil => exact h.blank
    | cons s rest => exact h.upcoming s (hu ▸ List.mem_cons_self)
  · exact h.pages k

end World

def Ends (Q : α → Prop) (E : Halt → Prop) : Except Halt α → Prop
  | .ok a => Q a
  | .error h => E h

theorem Ends.mono {Q Q' : α → Prop} {E E' : Halt → Prop} {r : Except Halt α} (hr : Ends Q E r)
    (hQ : ∀ a, Q a → Q' a) (hE : ∀ h, E h → E' h) : Ends Q' E' r := by
  cases r with
  | ok a => exact hQ a hr
  | error h => exact hE h hr

def ByBrowser (h : Halt) : Prop := ∃ message, h = .browser message

namespace Check

/-- Run from an orderly world, the check keeps it so; it answers with `Q` or halts with `E`. -/
def Endures (act : Check τ α) (Q : α → Prop) (E : Halt → Prop) : Prop :=
  ∀ w, w.Orderly → World.Steady w (act w).2 ∧ Ends Q E (act w).1

section

variable {act : Check τ α} {k : α → Check τ β} {P : α → Prop} {Q : β → Prop} {E E' : Halt → Prop}

theorem Endures.mono {P' : α → Prop} (ha : Endures act P E) (hP : ∀ a, P a → P' a)
    (hE : ∀ h, E h → E' h) : Endures act P' E' :=
  fun w hw => ⟨(ha w hw).1, (ha w hw).2.mono hP hE⟩

theorem Endures.bind (ha : Endures act P E) (hk : ∀ a, P a → Endures (k a) Q E) :
    Endures (act >>= k) Q E := by
  intro w hw
  obtain ⟨hsteady, hend⟩ := ha w hw
  rw [bind_run]
  generalize act w = r at hsteady hend ⊢
  obtain ⟨h | a, v⟩ := r
  · exact ⟨hsteady, hend⟩
  · obtain ⟨hmore, hlast⟩ := hk a hend v hsteady.orderly
    exact ⟨hsteady.trans hmore, hlast⟩

theorem Endures.pure {a : α} (ha : P a) : Endures (τ := τ) (Pure.pure a) P E :=
  fun _ hw => ⟨hw.steady, ha⟩

theorem Endures.throw {h : Halt} (hh : E h) :
    Endures (MonadExcept.throw h : Check τ α) P E :=
  fun _ hw => ⟨hw.steady, hh⟩

theorem Endures.modify {f : World τ → World τ} (hf : ∀ w, w.Orderly → World.Steady w (f w)) :
    Endures (modify f : Check τ Unit) (fun _ => True) E :=
  fun w hw => ⟨hf w hw, trivial⟩

theorem Endures.refusal? {act : Check τ Unit} {P : Unit → Prop} (ha : Endures act P ByBrowser) :
    Endures (refusal? act) (fun _ => True) E := by
  intro w hw
  obtain ⟨hsteady, hend⟩ := ha w hw
  rw [Check.refusal?, bind_of_ok (attempt_run act w)]
  generalize act w = r at hsteady hend ⊢
  obtain ⟨h | a, v⟩ := r
  · obtain ⟨message, rfl⟩ := hend
    exact ⟨hsteady, trivial⟩
  · exact ⟨hsteady, trivial⟩

theorem Endures.attempt (ha : Endures act P E) :
    Endures (Check.attempt act) (Ends P E) E' := ha

end

section

variable {E : Halt → Prop}

theorem endures_ofFault {r : Except Fault α} {a : α} (hr : r = .ok a) :
    Endures (τ := τ) (ofFault r) (· = a) E := by
  subst hr
  exact .pure rfl

theorem endures_failWith (failure : Option String) :
    Endures (τ := τ) (failWith failure) (fun _ => True) ByBrowser := by
  cases failure with
  | none => exact .pure trivial
  | some message => exact .throw ⟨message, rfl⟩

theorem endures_log (level : Console.Level) (channel : Console.Channel) (message : String) :
    Endures (τ := τ) (log level channel message) (fun _ => True) E := by
  refine .modify fun w hw => ?_
  split
  · exact ⟨hw.of_same rfl rfl rfl rfl, rfl, rfl, rfl⟩
  · exact hw.steady

theorem endures_record (c : Call) : Endures (τ := τ) (record c) (fun _ => True) E :=
  .modify fun _ hw => ⟨hw.of_same rfl rfl rfl rfl, rfl, rfl, rfl⟩

theorem endures_page (k : Nat) : Endures (page k) (fun p : Page τ => p.script.Orderly) E :=
  fun _ hw => ⟨hw.steady, hw.pages k⟩

theorem endures_updatePage (k : Nat) {f : Page τ → Page τ} (hf : ∀ p, (f p).script = p.script) :
    Endures (updatePage k f) (fun _ => True) E :=
  .modify fun _ hw => ⟨hw.updatePage k hf, rfl, rfl, rfl⟩

theorem toneLine_ok (terminal : Bool) (tone : Console.Tone) (message : String) :
    ∃ line, Console.toneLine terminal tone message = .ok line := by
  have hcode : ∃ start, Console.code tone.colour = .ok start := by
    cases tone <;> exact ⟨_, rfl⟩
  obtain ⟨start, hstart⟩ := hcode
  cases terminal with
  | false => exact ⟨_, rfl⟩
  | true =>
    refine ⟨.ofList (start ++ (tone.dressed message).toList ++ Console.reset), ?_⟩
    change (Console.code tone.colour).map _ = _
    rw [hstart]
    rfl

theorem endures_say (tone : Console.Tone) (message : String) :
    Endures (τ := τ) (say tone message) (fun _ => True) E := by
  intro w hw
  obtain ⟨line, hline⟩ := toneLine_ok w.terminal tone message
  rw [say_run, hline, bind_of_ok (ofFault_ok line w)]
  exact ⟨⟨hw.of_same rfl rfl rfl rfl, rfl, rfl, rfl⟩, trivial⟩

theorem endures_goto (k : Nat) (address : String) (timeoutMs : Int) :
    Endures (τ := τ) (goto k address timeoutMs) (fun _ => True) ByBrowser := by
  apply (endures_record _).bind
  intro _ _
  apply (endures_page k).bind
  intro p _
  apply (endures_updatePage k fun _ => by rfl).bind
  intro _ _
  apply (endures_failWith _).bind
  intro _ _
  exact endures_updatePage k fun _ => by rfl

theorem endures_clickAt (k : Nat) (x y : Coordinate) :
    Endures (τ := τ) (clickAt k x y) (fun _ => True) ByBrowser := by
  apply (endures_record _).bind
  intro _ _
  apply (endures_page k).bind
  intro p _
  apply (endures_updatePage k fun _ => by rfl).bind
  intro _ _
  exact endures_failWith _

theorem endures_screenshot (k : Nat) (path : String) :
    Endures (τ := τ) (screenshot k path) (fun _ => True) ByBrowser := by
  apply (endures_record _).bind
  intro _ _
  apply (endures_page k).bind
  intro p _
  apply (endures_updatePage k fun _ => by rfl).bind
  intro _ _
  exact endures_failWith _

theorem endures_newContext (browser : Nat) (publisher : Bool) :
    Endures (τ := τ) (newContext browser publisher) (fun _ => True) E := by
  intro w hw
  rw [newContext_run, congrArg Openings.context hw.openings]
  exact ⟨⟨hw.of_same rfl rfl rfl rfl, rfl, rfl, rfl⟩, trivial⟩

theorem endures_newPage (context : Nat) :
    Endures (τ := τ) (newPage context) (fun _ => True) E := by
  intro w hw
  have hcalled : (w.calling (.newPage context w.pages.length)).Orderly :=
    hw.of_same rfl rfl rfl rfl
  rw [newPage_run, congrArg Openings.page hw.openings]
  exact ⟨⟨hcalled.addPage, rfl, rfl, rfl⟩, trivial⟩

theorem endures_collectInPage (page : Nat) :
    Endures (τ := τ) (collectInPage page) (fun _ => True) E := by
  intro w hw
  rw [collectInPage_run, congrArg Openings.collectInPage hw.openings]
  exact ⟨⟨hw.of_same rfl rfl rfl rfl, rfl, rfl, rfl⟩, trivial⟩

theorem endures_evaluate (k : Nat) :
    Endures (τ := τ) (evaluate k)
      (fun value => ∃ x, Snapshot.ofAnswer value = .ok x ∧ x.toJson.isWritable = true)
      ByBrowser := by
  intro w hw
  have hevaluating : (w.evaluating k).Orderly := by
    have hcalled : World.Orderly { w with calls := w.calls ++ [.evaluate k] } :=
      hw.of_same rfl rfl rfl rfl
    exact hcalled.updatePage k fun _ => rfl
  obtain ⟨t, ht⟩ := (hw.pages k).sampled (w.page k).evaluated w.clock
  rw [evaluate_run, ht]
  cases hs : (w.page k).script.sample (w.page k).evaluated with
  | error message =>
    exact ⟨⟨hevaluating.of_same rfl rfl rfl rfl, rfl, rfl, rfl⟩, message, rfl⟩
  | ok value =>
    exact ⟨⟨hevaluating.of_same rfl rfl rfl rfl, rfl, rfl, rfl⟩,
      (hw.pages k).sample (w.page k).evaluated value hs⟩

theorem endures_wait (k : Nat) (ms : Int) :
    Endures (τ := τ) (wait k (some ms)) (fun _ => True) ByBrowser := by
  intro w hw
  have hwaiting : (w.waiting k (some ms)).Orderly := by
    have hcalled : World.Orderly { w with calls := w.calls ++ [.wait k (some ms)] } :=
      hw.of_same rfl rfl rfl rfl
    exact hcalled.updatePage k fun _ => rfl
  have hsteady : World.Steady w (w.waiting k (some ms)) := ⟨hwaiting, rfl, rfl, rfl⟩
  rw [wait_run]
  cases hk : (w.page k).script.wait (w.page k).waited with
  | interrupted => exact absurd hk ((hw.pages k).uninterrupted _)
  | fails message => exact ⟨hsteady, message, rfl⟩
  | passes =>
    by_cases hl : (w.page k).waitsLeft = 0
    · simp only [if_pos hl]
      exact ⟨hsteady, _, rfl⟩
    · simp only [if_neg hl]
      obtain ⟨t, ht⟩ := (hw.pages k).waited (w.page k).waited ms w.clock
      rw [ht]
      exact ⟨⟨hwaiting.of_same rfl rfl rfl rfl, rfl, rfl, rfl⟩, trivial⟩

end

end Check

namespace Check

open Session (collect collectPair navigate nudge openPage takeScreenshot)

variable {E : Halt → Prop}

theorem endures_nudge (page : Nat) :
    Endures (τ := τ) (nudge page) (fun _ => True) ByBrowser := by
  refine (endures_page page).bind fun p hp => ?_
  obtain ⟨point, hpoint⟩ := hp.middle
  exact (endures_ofFault hpoint).bind fun (x, y) _ => endures_clickAt page x y

theorem endures_collect (page : Nat) :
    Endures (τ := τ) (collect page) (·.toJson.isWritable = true) ByBrowser := by
  refine (endures_evaluate page).bind fun value ⟨x, hread, hx⟩ =>
    (endures_ofFault hread).bind fun s hs => ?_
  subst hs
  refine Endures.bind (P := fun _ => True) ?_ fun _ _ => .pure hx
  intro w hw
  obtain ⟨lines, hl⟩ := Session.logSnapshot_run (Snapshot.isWritable_address hx) w
  rw [hl]
  exact ⟨⟨hw.of_same rfl rfl rfl rfl, rfl, rfl, rfl⟩, trivial⟩

theorem endures_collectPair (page : Nat) (gapMs : Int) :
    Endures (τ := τ) (collectPair page (some gapMs))
      (fun pair => pair.1.toJson.isWritable = true ∧ pair.2.toJson.isWritable = true)
      ByBrowser := by
  apply (endures_collect page).bind
  intro first hfirst
  apply (endures_wait page gapMs).bind
  intro _ _
  apply (endures_collect page).bind
  intro second hsecond
  exact .pure ⟨hfirst, hsecond⟩

theorem endures_openPage (browser : Nat) (publisher collectPeers : Bool) :
    Endures (τ := τ) (openPage browser publisher collectPeers) (fun _ => True) E := by
  refine (endures_newContext browser publisher).bind fun context _ =>
    (endures_newPage context).bind fun page _ => ?_
  split
  · exact (endures_collectInPage page).bind fun _ _ => .pure trivial
  · exact .pure trivial

theorem endures_navigate (page : Nat) (address : String) (timeoutMs : Int) :
    Endures (τ := τ) (navigate page address timeoutMs) (fun _ => True) E := by
  refine (endures_goto page address timeoutMs).refusal?.bind fun failure _ => ?_
  cases failure with
  | some message => exact (endures_log _ _ _).bind fun _ _ => .pure trivial
  | none => exact (endures_log _ _ _).bind fun _ _ => .pure trivial

theorem endures_takeScreenshot (page : Nat) (path : String) :
    Endures (τ := τ) (takeScreenshot page path) (fun _ => True) E := by
  refine (endures_screenshot page path).refusal?.bind fun failure _ => ?_
  cases failure with
  | some message => exact (endures_log _ _ _).bind fun _ _ => .pure trivial
  | none => exact (endures_log _ _ _).bind fun _ _ => .pure trivial

end Check
end StreamWatch.Browser
