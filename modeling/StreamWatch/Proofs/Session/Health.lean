import Mathlib.Tactic.MkIffOfInductiveProp
import StreamWatch.Proofs.Browser.Visits
import StreamWatch.Proofs.Poll.Rounds
import StreamWatch.Proofs.Session.Usage
import StreamWatch.Runner.Common

/-! Whether the calls of a check went well. A check takes its pages through calls that the browser
can refuse, and it goes on only while none is refused; the camera button is the exception, since it
may well be missing. So where a check halts with something to report, one of its pages tells why,
unless a poll ran out of time. -/
namespace StreamWatch

namespace Browser

variable {τ α β : Type}

@[mk_iff]
structure Page.Well (p : Page τ) : Prop where
  openings : ∀ n < p.opened, p.script.openFailure n = none
  reloads : ∀ n < p.reloaded, p.script.reloadFailure n = none
  samples : ∀ n < p.evaluated, ∃ value, p.script.sample n = .ok value
  waits : ∀ n < p.waited, p.script.wait n = .passes ∧ n < p.script.waitLimit
  clicks : ∀ n < p.clicked, p.script.clickFailure n = none
  pictures : ∀ n < p.pictured, p.script.screenshotFailure n = none

namespace Page

theorem well_fresh (script : PageScript τ) : (Page.fresh script).Well :=
  ⟨nofun, nofun, nofun, nofun, nofun, nofun⟩

theorem well_opened (p : Page τ) :
    Page.Well { p with opened := p.opened + 1 } ↔
      p.Well ∧ p.script.openFailure p.opened = none := by
  simp only [well_iff, Nat.forall_lt_succ_right, and_assoc, and_comm]

theorem well_evaluated (p : Page τ) :
    Page.Well { p with evaluated := p.evaluated + 1 } ↔
      p.Well ∧ ∃ value, p.script.sample p.evaluated = .ok value := by
  simp only [well_iff, Nat.forall_lt_succ_right, and_assoc, and_left_comm, and_comm]

theorem well_waited (p : Page τ) :
    Page.Well { p with waited := p.waited + 1 } ↔
      p.Well ∧ p.script.wait p.waited = .passes ∧ p.waited < p.script.waitLimit := by
  simp only [well_iff, Nat.forall_lt_succ_right, and_assoc, and_left_comm, and_comm]

theorem well_clicked (p : Page τ) :
    Page.Well { p with clicked := p.clicked + 1 } ↔
      p.Well ∧ p.script.clickFailure p.clicked = none := by
  simp only [well_iff, Nat.forall_lt_succ_right, and_assoc, and_left_comm, and_comm]

theorem well_address (p : Page τ) (address : String) :
    Page.Well { p with address } ↔ p.Well := by
  simp only [well_iff]

end Page

def Openings.refusal (openings : Openings) : Call → Option String
  | .newContext _ context _ => openings.context context
  | .newPage _ page => openings.page page
  | .collectInContext context => openings.collectInContext context
  | .collectInPage page => openings.collectInPage page
  | _ => none

namespace World

/-- The pages are as they were, a launch would go as before, and nothing was refused to be
opened. -/
structure Idle (u v : World τ) : Prop where
  pages : v.pages = u.pages
  blank : v.blank = u.blank
  launchFailure : v.launchFailure = u.launchFailure
  openings : v.openings = u.openings
  made : Calling (u.openings.refusal · = none) u v

theorem Idle.of_calls {u v : World τ} (hpages : v.pages = u.pages) (hblank : v.blank = u.blank)
    (hlaunch : v.launchFailure = u.launchFailure) (hopenings : v.openings = u.openings)
    (hcalls : v.calls = u.calls) : Idle u v :=
  ⟨hpages, hblank, hlaunch, hopenings, .of_eq hcalls⟩

instance : IsPreorder (World τ) Idle where
  refl _ := .of_calls rfl rfl rfl rfl rfl
  trans _ _ _ h h' := ⟨h'.pages.trans h.pages, h'.blank.trans h.blank,
    h'.launchFailure.trans h.launchFailure, h'.openings.trans h.openings,
    h.made.trans (h.openings ▸ h'.made)⟩

theorem idle_calling (w : World τ) {c : Call} (hc : w.openings.refusal c = none) :
    Idle w (w.calling c) :=
  ⟨rfl, rfl, rfl, rfl, .record w hc⟩

theorem Idle.page {u v : World τ} (h : Idle u v) (k : Nat) : v.page k = u.page k := by
  rw [World.page, h.pages, h.blank, World.page]

/-- Since `u` every call went well on the pages that were opened since, and those in `used` are
among them. -/
structure Sound (u : World τ) (used : List Nat) (w : World τ) : Prop where
  grown : u.pages.length ≤ w.pages.length
  used : ∀ k ∈ used, u.pages.length ≤ k ∧ k < w.pages.length
  well : ∀ k, u.pages.length ≤ k → (w.page k).Well
  openings : w.openings = u.openings
  made : Calling (u.openings.refusal · = none) u w

inductive Spoilt (u w : World τ) : Prop
  | page {k : Nat} (hk : u.pages.length ≤ k) (hill : ¬ (w.page k).Well) : Spoilt u w
  | opening {made : List Call} {c : Call} {message : String} (hmade : w.calls = u.calls ++ made)
      (hc : c ∈ made) (hrefused : u.openings.refusal c = some message) : Spoilt u w

section

variable {u v w : World τ} {used : List Nat}

theorem Sound.start (w : World τ) : Sound w [] w where
  grown := Nat.le_refl _
  used := nofun
  well k hk := by
    rw [page_of_closed (Nat.not_lt.mpr hk)]
    exact Page.well_fresh _
  openings := rfl
  made := .of_eq rfl

theorem Sound.not_spoilt (h : Sound u used w) : ¬ Spoilt u w := by
  rintro (⟨hk, hill⟩ | ⟨hmade, hc, hrefused⟩)
  · exact hill (h.well _ hk)
  · obtain ⟨made, hcalls, hgranted⟩ := h.made
    obtain rfl := List.append_cancel_left (hcalls.symm.trans hmade)
    rw [hgranted _ hc] at hrefused
    cases hrefused

theorem Sound.idle (h : Sound u used v) (hw : Idle v w) : Sound u used w where
  grown := hw.pages ▸ h.grown
  used := hw.pages ▸ h.used
  well k hk := hw.page k ▸ h.well k hk
  openings := hw.openings.trans h.openings
  made := h.made.trans (h.openings ▸ hw.made)

theorem Spoilt.idle (h : Spoilt u v) (hw : Idle v w) : Spoilt u w := by
  cases h with
  | page hk hill => exact .page hk (hw.page _ ▸ hill)
  | opening hmade hc hrefused =>
    obtain ⟨more, hcalls, -⟩ := hw.made
    exact .opening (by rw [hcalls, hmade, List.append_assoc]) (List.mem_append_left more hc)
      hrefused

theorem Sound.weaken (h : Sound u used w) {kept : List Nat} (hk : kept ⊆ used) : Sound u kept w :=
  { h with used := fun k hkept => h.used k (hk hkept) }

theorem Sound.calling (h : Sound u used w) {c : Call} (hc : w.openings.refusal c = none) :
    Sound u used (w.calling c) :=
  { h with made := h.made.trans (.record w (h.openings ▸ hc)) }

theorem Sound.refused (h : Sound u used w) {c : Call} {message : String}
    (hc : w.openings.refusal c = some message) : Spoilt u (w.calling c) := by
  obtain ⟨made, hmade, -⟩ := h.made
  have hcalls : (w.calling c).calls = u.calls ++ (made ++ [c]) := by
    rw [World.calling, hmade, List.append_assoc]
  exact .opening hcalls (List.mem_append_right made List.mem_cons_self) (h.openings ▸ hc)

theorem Sound.addPage (h : Sound u used w) : Sound u (w.pages.length :: used) w.addPage := by
  have hlength : w.addPage.pages.length = w.pages.length + 1 := by simp [World.addPage]
  refine ⟨?_, ?_, fun k hk => ?_, h.openings, h.made⟩
  · rw [hlength]
    exact Nat.le_succ_of_le h.grown
  · rw [hlength]
    rintro k (_ | ⟨_, hk⟩)
    · exact ⟨h.grown, Nat.lt_succ_self _⟩
    · exact ⟨(h.used k hk).1, Nat.lt_succ_of_lt (h.used k hk).2⟩
  · have hpage := h.well k hk
    simp only [page, World.addPage, List.getD_eq_getElem?_getD] at hpage ⊢
    rcases Nat.lt_trichotomy k w.pages.length with hlt | rfl | hlt
    · rwa [List.getElem?_append_left hlt]
    · simpa using Page.well_fresh _
    · rw [List.getElem?_eq_none (by simp; omega)]
      exact Page.well_fresh _

theorem Sound.updatePage {k : Nat} {f : Page τ → Page τ} {good : Prop} (h : Sound u used w)
    (hk : k ∈ used) (hf : (f (w.page k)).Well ↔ (w.page k).Well ∧ good) :
    (good → Sound u used (w.updatePage k f)) ∧ (¬ good → Spoilt u (w.updatePage k f)) := by
  have hpage (j : Nat) := page_modify w k j f
  constructor
  · intro hgood
    refine ⟨?_, ?_, fun j hj => ?_, h.openings, h.made⟩
    · rw [World.updatePage, List.length_modify]
      exact h.grown
    · rw [World.updatePage, List.length_modify]
      exact h.used
    · rw [hpage j]
      split
      · next hjk =>
        rw [hjk.1]
        exact hf.mpr ⟨h.well k (hjk.1 ▸ hj), hgood⟩
      · exact h.well j hj
  · intro hbad
    refine .page (h.used k hk).1 ?_
    rw [hpage k, if_pos ⟨rfl, (h.used k hk).2⟩]
    exact fun hwell => hbad (hf.mp hwell).2

end

def Blames (u : World τ) (h : Halt) (v : World τ) : Prop := h.isReported = true → Spoilt u v

end World

namespace Check

open World (Blames Idle Sound Spoilt)

abbrev Passive (act : Check τ α) : Prop := Confined Idle (fun h => h.isReported = false) act

section

variable {u : World τ} {used : List Nat}

theorem blames_of_unreported {h : Halt} {v : World τ} (hh : h.isReported = false) :
    Blames u h v := fun hreported => by
  rw [hh] at hreported
  cases hreported

theorem Passive.keeps {act : Check τ α} {P : World τ → Prop} (ha : Passive act)
    (hP : ∀ v w, P v → Idle v w → P w) :
    Meets P act (fun _ => P) (fun h v => h.isReported = false ∧ P v) := by
  intro w hw
  have hv := hP _ _ hw (ha.world w)
  have hhalt := ha.halt w
  generalize act w = r at hv hhalt ⊢
  obtain ⟨h | a, v⟩ := r
  · exact ⟨hhalt h rfl, hv⟩
  · exact hv

theorem Passive.sound {act : Check τ α} (ha : Passive act) :
    Meets (Sound u used) act (fun _ => Sound u used) (Blames u) :=
  (ha.keeps fun _ _ => Sound.idle).mono (fun _ hw => hw) (fun _ _ hv => hv)
    fun _ _ hv => blames_of_unreported hv.1

theorem Passive.spoilt {act : Check τ α} (ha : Passive act) :
    Meets (Spoilt u) act (fun _ => Spoilt u) (Blames u) :=
  (ha.keeps fun _ _ => Spoilt.idle).mono (fun _ hw => hw) (fun _ _ hv => hv)
    fun _ _ hv => blames_of_unreported hv.1

theorem Confined.excused {R : World τ → World τ → Prop} {E : Halt → Prop} {act : Check τ Unit}
    (ha : Confined R ByBrowser act) : Confined R E (Check.refusal? act) := by
  constructor
  · intro w
    rw [refusal?_world]
    exact ha.world w
  · intro w h he
    have hw := ha.halt w
    rw [Check.refusal?, bind_of_ok (attempt_run act w)] at he
    generalize act w = r at hw he
    obtain ⟨h' | a, v⟩ := r
    · obtain ⟨message, rfl⟩ := hw h' rfl
      cases he
    · cases he

theorem passive_ofFault (r : Except Fault α) : Passive (τ := τ) (ofFault r) :=
  .ofFault (fun _ => rfl) r

theorem passive_given (a : Option α) : Passive (τ := τ) (given a) := passive_ofFault _

theorem passive_log (level : Console.Level) (channel : Console.Channel) (message : String) :
    Passive (τ := τ) (log level channel message) := by
  refine .modify fun w => ?_
  split <;> exact .of_calls rfl rfl rfl rfl rfl

theorem passive_print (line : String) : Passive (τ := τ) (print line) :=
  .modify fun _ => .of_calls rfl rfl rfl rfl rfl

theorem passive_say (tone : Console.Tone) (message : String) :
    Passive (τ := τ) (say tone message) :=
  Confined.get.bind fun _ => (passive_ofFault _).bind fun _ => passive_print _

theorem passive_record {c : Call} (hc : ∀ openings : Openings, openings.refusal c = none) :
    Passive (τ := τ) (record c) :=
  .modify fun w => World.idle_calling w (hc w.openings)

theorem passive_setClock (t : τ) : Passive (setClock t) :=
  .modify fun _ => .of_calls rfl rfl rfl rfl rfl

theorem passive_makeDirectory (p : Report.Path) : Passive (τ := τ) (makeDirectory p) := by
  refine Confined.get.bind fun w =>
    (Confined.modify fun _ => .of_calls rfl rfl rfl rfl rfl).bind fun _ => ?_
  split
  · exact .throw rfl
  · exact .pure ()

theorem passive_writeFile (p : Report.Path) (text : String) :
    Passive (τ := τ) (writeFile p text) :=
  Confined.get.bind fun _ => (passive_ofFault _).bind fun _ =>
    .modify fun _ => .of_calls rfl rfl rfl rfl rfl

theorem sound_newContext (browser : Nat) (publisher : Bool) :
    Meets (Sound (τ := τ) u used) (newContext browser publisher) (fun _ => Sound u used)
      (Blames u) := by
  intro w hw
  rw [newContext_run]
  cases h : w.openings.context w.contexts with
  | some message => exact fun _ => hw.refused (c := .newContext browser w.contexts publisher) h
  | none =>
    exact (hw.calling (c := .newContext browser w.contexts publisher) h).idle
      (.of_calls rfl rfl rfl rfl rfl)

theorem sound_newPage (context : Nat) :
    Meets (Sound (τ := τ) u used) (newPage context) (fun page => Sound u (page :: used))
      (Blames u) := by
  intro w hw
  rw [newPage_run]
  cases h : w.openings.page w.pages.length with
  | some message => exact fun _ => hw.refused (c := .newPage context w.pages.length) h
  | none => exact (hw.calling (c := .newPage context w.pages.length) h).addPage

theorem sound_collectInPage (page : Nat) :
    Meets (Sound (τ := τ) u used) (collectInPage page) (fun _ => Sound u used) (Blames u) := by
  intro w hw
  rw [collectInPage_run]
  cases h : w.openings.collectInPage page with
  | some message => exact fun _ => hw.refused (c := .collectInPage page) h
  | none => exact hw.calling (c := .collectInPage page) h

/-- A step that uses a page is counted before its script answers; the page stays well exactly if
that answer is good. -/
theorem sound_use {k : Nat} (hk : k ∈ used) {call : Call}
    (hcall : ∀ openings : Openings, openings.refusal call = none) {f : Page τ → Page τ}
    {good : Page τ → Prop} (hf : ∀ p, (f p).Well ↔ p.Well ∧ good p) {answer : Page τ → Check τ α}
    (hgood : ∀ p, good p → Meets (Sound u used) (answer p) (fun _ => Sound u used) (Blames u))
    (hbad : ∀ p, ¬ good p → Meets (Spoilt u) (answer p) (fun _ => Sound u used) (Blames u)) :
    Meets (Sound u used)
      (record call >>= fun _ => page k >>= fun p => updatePage k f >>= fun _ => answer p)
      (fun _ => Sound u used) (Blames u) := by
  refine (passive_record hcall).sound.bind fun _ w hw => ?_
  obtain ⟨hsound, hspoilt⟩ := hw.updatePage hk (hf (w.page k))
  by_cases hanswer : good (w.page k)
  · exact hgood _ hanswer _ (hsound hanswer)
  · exact hbad _ hanswer _ (hspoilt hanswer)

theorem meets_blamed {h : Halt} {Q : α → World τ → Prop} :
    Meets (Spoilt u) (throw h) Q (Blames u) := .throw fun _ hw _ => hw

theorem spoilt_failWith {failure : Option String} (hfails : failure ≠ none)
    {Q : Unit → World τ → Prop} : Meets (Spoilt u) (failWith failure) Q (Blames u) := by
  cases failure with
  | none => exact absurd rfl hfails
  | some message => exact meets_blamed

theorem sound_goto {k : Nat} (hk : k ∈ used) (address : String) (timeoutMs : Int) :
    Meets (Sound (τ := τ) u used) (goto k address timeoutMs) (fun _ => Sound u used)
      (Blames u) := by
  refine sound_use hk (fun _ => rfl) Page.well_opened (fun p hopens => ?_) fun p hrefused => ?_
  · rw [hopens]
    refine (Passive.sound (.pure ())).bind fun _ => .modify fun w hw => ?_
    have hwell : (Page.Well { w.page k with address }) ↔ (w.page k).Well ∧ True := by
      rw [Page.well_address, and_true]
    exact (hw.updatePage hk hwell).1 trivial
  · exact (spoilt_failWith hrefused (Q := fun _ _ => False)).bind fun _ _ hnone => hnone.elim

theorem sound_clickAt {k : Nat} (hk : k ∈ used) (x y : Coordinate) :
    Meets (Sound (τ := τ) u used) (clickAt k x y) (fun _ => Sound u used) (Blames u) := by
  refine sound_use hk (fun _ => rfl) Page.well_clicked (fun p hclicks => ?_) fun p hrefused => ?_
  · rw [hclicks]
    exact Passive.sound (.pure ())
  · exact spoilt_failWith hrefused

theorem sound_evaluate {k : Nat} (hk : k ∈ used) :
    Meets (Sound (τ := τ) u used) (evaluate k) (fun _ => Sound u used) (Blames u) := by
  refine sound_use hk (fun _ => rfl) Page.well_evaluated ?_ fun p hfails => ?_
  · rintro p ⟨value, hvalue⟩
    rw [hvalue]
    exact Passive.sound (Confined.get.bind fun _ => (passive_ofFault _).bind fun t =>
      (passive_setClock t).bind fun _ => .pure value)
  · refine meets_get.bind fun w => (passive_ofFault _).spoilt.bind fun t =>
      (passive_setClock t).spoilt.bind fun _ => ?_
    cases hsample : p.script.sample p.evaluated with
    | ok value => exact absurd ⟨value, hsample⟩ hfails
    | error message => exact meets_blamed

theorem sound_wait {k : Nat} (hk : k ∈ used) (ms : Option Int) :
    Meets (Sound (τ := τ) u used) (wait k ms) (fun _ => Sound u used) (Blames u) := by
  refine sound_use hk (fun _ => rfl) Page.well_waited ?_ fun p hhindered => ?_
  · rintro p ⟨hpasses, hleft⟩
    have hsome : p.waitsLeft ≠ 0 := Nat.sub_ne_zero_iff_lt.mpr hleft
    rw [hpasses]
    simp only [if_neg hsome]
    exact Passive.sound ((passive_given ms).bind fun _ => Confined.get.bind fun _ =>
      (passive_ofFault _).bind passive_setClock)
  · cases hanswer : p.script.wait p.waited with
    | interrupted => exact meets_blamed
    | fails message => exact meets_blamed
    | passes =>
      have hnone : p.waitsLeft = 0 :=
        Nat.sub_eq_zero_of_le (Nat.le_of_not_lt fun hleft => hhindered ⟨hanswer, hleft⟩)
      simp only [if_pos hnone]
      exact meets_blamed

end

end Check
end Browser

open Browser (Check Finder World)
open Browser.Check (Confined Meets Passive)
open Browser.World (Blames Sound Spoilt)

variable {τ : Type}

namespace Session

section

variable {u : World τ} {used : List Nat} {page : Nat}

theorem sound_openPage (browser : Nat) (publisher collectPeers : Bool) :
    Meets (Sound (τ := τ) u used) (openPage browser publisher collectPeers)
      (fun opened => Sound u (opened.2 :: used)) (Blames u) := by
  refine (Check.sound_newContext browser publisher).bind fun context =>
    (Check.sound_newPage context).bind fun page => ?_
  split
  · exact (Check.sound_collectInPage page).bind fun _ => .pure fun _ hw => hw
  · exact .pure fun _ hw => hw

theorem meets_navigate (hpage : page ∈ used) (address : String) (timeoutMs : Int) :
    Meets (Sound (τ := τ) u used) (navigate page address timeoutMs)
      (fun failure v => if failure.isSome then Spoilt u v else Sound u used v) (Blames u) := by
  have hgoto : Meets (Sound (τ := τ) u used)
      (Check.refusal? (Check.goto page address timeoutMs))
      (fun failure v => if failure.isSome then Spoilt u v else Sound u used v) (Blames u) :=
    (Check.sound_goto hpage address timeoutMs).refusal? (fun _ hv => hv) (fun _ _ hv => hv rfl)
      fun _ _ _ hv => hv
  refine hgoto.bind fun failure => ?_
  cases failure with
  | some message =>
    exact (Check.passive_log _ _ _).spoilt.bind fun _ => .pure fun _ hw => hw
  | none => exact (Check.passive_log _ _ _).sound.bind fun _ => .pure fun _ hw => hw

theorem sound_openLink (hpage : page ∈ used) (address : String) :
    Meets (Sound (τ := τ) u used) (openLink page address) (fun _ => Sound u used) (Blames u) := by
  refine (meets_navigate hpage address navigationTimeoutMs).bind fun failure => ?_
  cases failure with
  | some reason => exact Check.meets_blamed
  | none => exact .pure fun _ hw => hw

theorem sound_nudge (hpage : page ∈ used) :
    Meets (Sound (τ := τ) u used) (nudge page) (fun _ => Sound u used) (Blames u) :=
  (Passive.sound (.page page)).bind fun _ => (Check.passive_ofFault _).sound.bind fun (x, y) =>
    Check.sound_clickAt hpage x y

theorem passive_seesCameraButton (page : Nat) (finder : Finder) :
    Passive (τ := τ) (seesCameraButton page finder) :=
  (Check.passive_record fun _ => rfl).bind fun _ => (Confined.page page).bind fun _ => .pure _

theorem passive_clickFound (page : Nat) (finder : Finder) (timeoutMs : Int) :
    Passive (τ := τ) (clickFound page finder timeoutMs) := by
  have hclick : Confined World.Idle Browser.ByBrowser
      (clickButton (τ := τ) page finder timeoutMs) :=
    (Confined.modify fun w => World.idle_calling w rfl).bind fun _ =>
      (Confined.page page).bind fun _ => .failWith (fun message => ⟨message, rfl⟩) _
  refine hclick.excused.bind fun failure => ?_
  cases failure with
  | some message => exact (Check.passive_log _ _ _).bind fun _ => .pure _
  | none => exact (Check.passive_log _ _ _).bind fun _ => .pure _

theorem passive_clickShareCamera (page : Nat) (timeoutMs : Int) :
    Passive (τ := τ) (clickShareCamera page timeoutMs) := by
  refine (passive_seesCameraButton page .role).bind fun byRole => ?_
  split
  · exact passive_clickFound page .role timeoutMs
  · refine (passive_seesCameraButton page .text).bind fun byText => ?_
    split
    · exact passive_clickFound page .text timeoutMs
    · exact (Check.passive_log _ _ _).bind fun _ => .pure _

theorem sound_startPublisher (hpage : page ∈ used) (address : String)
    (startupWaitMs settleMs : Option Int) :
    Meets (Sound (τ := τ) u used) (startPublisher page address startupWaitMs settleMs)
      (fun _ => Sound u used) (Blames u) :=
  (sound_openLink hpage address).bind fun _ => (Check.sound_wait hpage startupWaitMs).bind
    fun _ => (passive_clickShareCamera page clickTimeoutMs).sound.bind fun _ =>
    (sound_nudge hpage).bind fun _ => (Check.sound_wait hpage settleMs).bind fun _ =>
    .pure fun _ hw => hw

theorem sound_openViewer (hpage : page ∈ used) (address : String) :
    Meets (Sound (τ := τ) u used) (openViewer page address) (fun _ => Sound u used) (Blames u) :=
  (sound_openLink hpage address).bind fun _ => sound_nudge hpage

theorem passive_logSnapshot (s : Sample.Snapshot) : Passive (τ := τ) (logSnapshot s) :=
  (Check.passive_ofFault _).bind fun _ =>
    (Confined.forEach (fun _ => Check.passive_log _ _ _) _).bind fun _ => Check.passive_log _ _ _

theorem sound_collect (hpage : page ∈ used) :
    Meets (Sound (τ := τ) u used) (collect page) (fun s v => s.Readable ∧ Sound u used v)
      (Blames u) := by
  refine (Check.sound_evaluate hpage).bind fun value =>
    (Meets.ofFault fun _ _ _ => Check.blames_of_unreported rfl).bind fun s =>
    Meets.known fun hread => ?_
  exact (passive_logSnapshot s).sound.bind fun _ =>
    .pure fun _ hw => ⟨Sample.Snapshot.readable_of_ofJson hread, hw⟩

theorem sound_collects {pages : List Nat} (hpages : pages ⊆ used) :
    Meets (Sound (τ := τ) u used) (Check.each collect pages) (fun _ => Sound u used)
      (Blames u) := by
  induction pages with
  | nil => exact .pure fun _ hw => hw
  | cons page rest ih =>
    obtain ⟨hpage, hrest⟩ := List.cons_subset.mp hpages
    exact (sound_collect hpage).bind fun _ => Meets.known fun _ => (ih hrest).bind fun _ =>
      .pure fun _ hw => hw

end

end Session

namespace Poll

open Browser (Timeline)

def Expires (u : World τ) (h : Halt) (v : World τ) : Prop :=
  (∃ label timeoutMs last, h = .notLive label timeoutMs last) ∨ Blames u h v

theorem expires_of_blames {α : Type} {u : World τ} {P : World τ → Prop} {act : Check τ α}
    {Q : α → World τ → Prop} (ha : Meets P act Q (Blames u)) : Meets P act Q (Expires u) :=
  ha.mono (fun _ hw => hw) (fun _ _ hv => hv) fun _ _ hv => .inr hv

section

variable [Timeline τ] {u : World τ} {used : List Nat} {first : Nat} {more : List Nat}

theorem sound_round (hpages : first :: more ⊆ used) (settings : Settings) (limits : Limits)
    (label : String) (started : τ) (attempt : Nat) :
    Meets (Sound u used) (round settings limits label (first :: more) started attempt)
      (fun _ => Sound u used) (Expires u) := by
  have hpassive {α : Type} {act : Check τ α} (ha : Passive act) :
      Meets (Sound u used) act (fun _ => Sound u used) (Expires u) := expires_of_blames ha.sound
  have helapsed : Passive (elapsed started) := Confined.get.bind fun _ => .pure _
  refine (expires_of_blames (Session.sound_collects hpages)).bind fun snapshots => ?_
  split
  · exact hpassive (helapsed.bind fun _ => (Check.passive_ofFault _).bind fun _ =>
      (Check.passive_log _ _ _).bind fun _ => .pure _)
  · refine (hpassive (Check.passive_ofFault _)).bind fun _ =>
      (hpassive (Check.passive_log _ _ _)).bind fun _ => (hpassive helapsed).bind fun _ =>
      (hpassive (Check.passive_given _)).bind fun timeoutMs => ?_
    split
    · -- What the limit is does not matter, and its digits are not to be counted here.
      generalize Numeral.shown timeoutMs = limit
      exact (hpassive (Check.passive_ofFault _)).bind fun _ =>
        (hpassive (Check.passive_log _ _ _)).bind fun _ => .throw fun _ _ => .inl ⟨_, _, _, rfl⟩
    · exact (hpassive (Check.passive_ofFault _)).bind fun _ =>
        (hpassive (Check.passive_given _)).bind fun _ =>
        (expires_of_blames (Check.sound_wait (hpages List.mem_cons_self) _)).bind fun _ =>
        .pure fun _ hw => hw

theorem sound_round_waits (hpages : first :: more ⊆ used) (settings : Settings) (limits : Limits)
    (label : String) (started : τ) (left attempt : Nat) :
    Meets (fun w => Sound u used w ∧ (w.page first).waitsLeft = left)
      (round settings limits label (first :: more) started attempt)
      (fun answer v => Sound u used v ∧ (answer = none → (v.page first).waitsLeft + 1 = left))
      (Expires u) := by
  rintro w ⟨hw, hleft⟩
  have hround := sound_round hpages settings limits label started attempt w hw
  have hexec := round_executes limits settings label first more started attempt w
  generalize round settings limits label (first :: more) started attempt w = r at hround hexec ⊢
  obtain ⟨h | answer, v⟩ := r
  · exact hround
  · refine ⟨hround, ?_⟩
    rintro rfl
    cases hexec with
    | unready hunready =>
      rw [hunready.waitsLeft (hw.used first (hpages List.mem_cons_self)).2, hleft]

theorem sound_rounds (hpages : first :: more ⊆ used) (settings : Settings) (limits : Limits)
    (label : String) (started : τ) (left attempt : Nat) :
    Meets (fun w => Sound u used w ∧ (w.page first).waitsLeft = left)
      (rounds settings limits label (first :: more) started left attempt)
      (fun _ => Sound u used) (Expires u) := by
  induction left generalizing attempt with
  | zero =>
    refine (sound_round_waits hpages settings limits label started 0 attempt).bind fun answer => ?_
    cases answer with
    | some snapshots => exact .pure fun _ hw => hw.1
    | none => exact .throw fun _ hw => absurd (hw.2 rfl) (Nat.succ_ne_zero _)
  | succ left ih =>
    refine (sound_round_waits hpages settings limits label started _ attempt).bind fun answer => ?_
    cases answer with
    | some snapshots => exact .pure fun _ hw => hw.1
    | none =>
      exact (ih (attempt + 1)).mono (fun _ hw => ⟨hw.1, Nat.succ.inj (hw.2 rfl)⟩)
        (fun _ _ hv => hv) fun _ _ hv => hv

theorem sound_untilLiveWithin (hpages : first :: more ⊆ used) (limits : Limits)
    (settings : Settings) (label : String) :
    Meets (Sound u used) (untilLiveWithin limits settings label (first :: more))
      (fun _ => Sound u used) (Expires u) :=
  fun w hw => sound_rounds hpages settings limits label w.clock (w.page first).waitsLeft 0 w
    ⟨hw, rfl⟩

end

end Poll

theorem Report.passive_write (payload : Json.Value) (path : Report.Path) (echo : Bool) :
    Passive (τ := τ) (Report.write payload path echo) := by
  refine (Check.passive_makeDirectory _).bind fun _ => (Check.passive_ofFault _).bind fun _ =>
    (Check.passive_writeFile _ _).bind fun _ => (Check.passive_log _ _ _).bind fun _ => ?_
  cases echo with
  | true => exact Check.passive_print _
  | false => exact .pure ()

theorem Report.meets_write {P : World τ → Prop} (hP : ∀ v w, P v → World.Idle v w → P w)
    (payload : Json.Value) (path : Report.Path) (echo : Bool) :
    Meets P (Report.write payload path echo)
      (fun _ v => P v ∧ v.files.read? path = some (payload.render ++ "\n"))
      (fun h v => h.isReported = false ∧ P v) := by
  intro w hw
  have hend := (Report.passive_write payload path echo).keeps hP w hw
  rcases h : Report.write payload path echo w with ⟨e | _, v⟩
  · rw [h] at hend
    exact hend
  · rw [h] at hend
    exact ⟨hend, Report.read?_of_write_ok h⟩

theorem Report.passive_host : Passive (τ := τ) Report.host := Confined.get.bind fun _ => .pure _

theorem Stream.passive_announce (env : Environment) : Passive (τ := τ) (Stream.announce env) :=
  (Check.passive_log _ _ _).bind fun _ => (Check.passive_log _ _ _).bind fun _ => .pure _

end StreamWatch
