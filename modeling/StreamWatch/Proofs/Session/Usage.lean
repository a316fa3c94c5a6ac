import StreamWatch.Proofs.Report.Writing
import StreamWatch.Proofs.Session.Endurance
import StreamWatch.Proofs.Session.Frame

/-! How far a page has been used. Its script answers a call by the number of such calls before it,
so what a step comes to is told from the page's usage; and what is still to come, the scripts of
further pages and the files, is the same after it. Steps are specified by what holds before them,
after them, and where they halt. -/
namespace StreamWatch.Browser

open Sample (Snapshot)

variable {τ α β : Type}

namespace Check

/-- From a world with `P` the check answers with `Q`, or halts with `E`. -/
def Meets (P : World τ → Prop) (act : Check τ α) (Q : α → World τ → Prop)
    (E : Halt → World τ → Prop) : Prop :=
  ∀ w, P w → Ends (Q · (act w).2) (E · (act w).2) (act w).1

section

variable {P : World τ → Prop} {Q : α → World τ → Prop} {R : β → World τ → Prop}
  {E E' : Halt → World τ → Prop} {act : Check τ α} {k : α → Check τ β}

theorem Meets.always {S : World τ → Prop} {w : World τ} (ha : Meets P act (fun _ => S) fun _ => S)
    (hw : P w) : S (act w).2 := by
  have hend := ha w hw
  generalize act w = r at hend ⊢
  obtain ⟨e | a, v⟩ := r
  · exact hend
  · exact hend

theorem Meets.mono {P' : World τ → Prop} {Q' : α → World τ → Prop} (ha : Meets P act Q E)
    (hP : ∀ w, P' w → P w) (hQ : ∀ a v, Q a v → Q' a v) (hE : ∀ h v, E h v → E' h v) :
    Meets P' act Q' E' :=
  fun w hw => (ha w (hP w hw)).mono (hQ · _) (hE · _)

theorem Meets.bind (ha : Meets P act Q E) (hk : ∀ a, Meets (Q a) (k a) R E) :
    Meets P (act >>= k) R E := by
  intro w hw
  have hend := ha w hw
  rw [bind_run]
  generalize act w = r at hend ⊢
  obtain ⟨h | a, v⟩ := r
  · exact hend
  · exact hk a v hend

theorem Meets.bind_run {w : World τ} (ha : Meets P act Q E) (hw : P w)
    (hk : ∀ a v, act w = (.ok a, v) → Q a v → Meets (· = v) (k a) R E) :
    Meets (· = w) (act >>= k) R E := by
  rintro _ rfl
  have hend := ha _ hw
  rw [Check.bind_run]
  rcases h : act _ with ⟨e | a, v⟩
  · rw [h] at hend
    exact hend
  · rw [h] at hend
    exact hk a v h hend v rfl

theorem Meets.confined {F : Halt → Prop} {S : World τ → World τ → Prop} [IsPreorder (World τ) S]
    (ha : Meets P act Q E) (hc : Confined S F act) (u : World τ) :
    Meets (fun w => S u w ∧ P w) act (fun a v => S u v ∧ Q a v) (fun h v => S u v ∧ E h v) := by
  rintro w ⟨hu, hw⟩
  have hv := trans_of S hu (hc.world w)
  have hend := ha w hw
  generalize act w = r at hv hend ⊢
  obtain ⟨h | a, v⟩ := r
  · exact ⟨hv, hend⟩
  · exact ⟨hv, hend⟩

theorem Meets.pure {a : α} (hQ : ∀ w, P w → Q a w) : Meets P (Pure.pure a) Q E := hQ

theorem Meets.throw {h : Halt} (hE : ∀ w, P w → E h w) :
    Meets P (MonadExcept.throw h : Check τ α) Q E := hE

theorem Meets.modify {f : World τ → World τ} {Q : Unit → World τ → Prop}
    (hQ : ∀ w, P w → Q () (f w)) : Meets P (modify f : Check τ Unit) Q E := hQ

theorem Meets.known {fact : Prop} (h : fact → Meets P act Q E) :
    Meets (fun w => fact ∧ P w) act Q E := fun w hw => h hw.1 w hw.2

theorem Meets.ofFault {r : Except Fault α} (hE : ∀ f w, P w → E (.fault f) w) :
    Meets P (ofFault r) (fun a v => r = .ok a ∧ P v) E := by
  intro w hw
  cases r with
  | ok a => exact ⟨rfl, hw⟩
  | error f => exact hE f w hw

theorem Meets.given {a : Option α} (hE : ∀ h w, P w → E h w) :
    Meets P (given a) (fun b v => a = some b ∧ P v) E := by
  intro w hw
  cases a with
  | none => exact hE _ w hw
  | some b => exact ⟨rfl, hw⟩

theorem Meets.ensuring {cleanUp : Check τ Unit} {f : World τ → World τ} (ha : Meets P act Q E)
    (hclean : ∀ u, cleanUp u = (.ok (), f u)) (hQ : ∀ a v, Q a v → Q a (f v))
    (hE : ∀ h v, E h v → E h (f v)) : Meets P (ensuring act cleanUp) Q E := by
  intro w hw
  have hend := ha w hw
  rw [ensuring_run hclean]
  generalize act w = r at hend ⊢
  obtain ⟨h | a, v⟩ := r
  · exact hE h v hend
  · exact hQ a v hend

theorem Meets.attempt (ha : Meets P act Q E) :
    Meets P (Check.attempt act) (fun r v => Ends (Q · v) (E · v) r) E' := ha

theorem Meets.ofExcept {r : Except Halt α} {w : World τ} (hE : ∀ h, r = .error h → E h w) :
    Meets (· = w) (Check.ofExcept r) (fun a v => r = .ok a ∧ v = w) E := by
  rintro _ rfl
  rw [ofExcept_run]
  cases r with
  | error h => exact hE h rfl
  | ok a => exact ⟨rfl, rfl⟩

theorem Meets.refusal? {act : Check τ Unit} {Q : Unit → World τ → Prop}
    {R : Option String → World τ → Prop} (ha : Meets P act Q E) (hQ : ∀ v, Q () v → R none v)
    (hrefused : ∀ message v, E (.browser message) v → R (some message) v)
    (hE : ∀ h v, ¬ ByBrowser h → E h v → E' h v) : Meets P (Check.refusal? act) R E' := by
  intro w hw
  have hend := ha w hw
  rw [Check.refusal?, bind_of_ok (attempt_run act w)]
  generalize act w = r at hend ⊢
  obtain ⟨h | a, v⟩ := r
  · cases h with
    | browser message => exact hrefused message v hend
    | _ =>
      refine hE _ v ?_ hend
      rintro ⟨message, h⟩
      cases h
  · exact hQ v hend

end

end Check

def PageScript.Shows (s : PageScript τ) (n : Nat) (x : Snapshot) : Prop :=
  ∃ value, s.sample n = .ok value ∧ Snapshot.ofAnswer value = .ok x

theorem PageScript.Shows.readable {s : PageScript τ} {n : Nat} {x : Snapshot} (h : s.Shows n x) :
    x.Readable := by
  obtain ⟨value, -, hx⟩ := h
  exact Snapshot.readable_of_ofJson hx

structure Usage (τ : Type) where
  script : PageScript τ
  opened : Nat := 0
  waited : Nat := 0
  clicked : Nat := 0
  evaluated : Nat := 0

def Page.usage (p : Page τ) : Usage τ := ⟨p.script, p.opened, p.waited, p.clicked, p.evaluated⟩

structure Prospect (τ : Type) where
  scripts : Nat → PageScript τ
  files : List (String × String)

def Prospect.next (c : Prospect τ) : Prospect τ := { c with scripts := fun i => c.scripts (i + 1) }

namespace World

def prospect (w : World τ) : Prospect τ := ⟨fun i => w.upcoming.getD i w.blank, w.files.files⟩

structure At (k : Nat) (g : Usage τ) (c : Prospect τ) (w : World τ) : Prop where
  opened : k < w.pages.length
  usage : (w.page k).usage = g
  prospect : w.prospect = c

variable {k : Nat} {g g' : Usage τ} {c : Prospect τ} {w : World τ}

theorem At.updatePage (h : At k g c w) {f : Page τ → Page τ}
    (hf : (f (w.page k)).usage = g') : At k g' c (w.updatePage k f) := by
  refine ⟨?_, ?_, h.prospect⟩
  · rw [World.updatePage, List.length_modify]
    exact h.opened
  · rw [page_modify, if_pos ⟨rfl, h.opened⟩, hf]

theorem prospect_addPage (w : World τ) : w.addPage.prospect = w.prospect.next := by
  have hscripts (i : Nat) : w.upcoming.tail.getD i w.blank = w.upcoming.getD (i + 1) w.blank := by
    cases w.upcoming <;> simp
  simp only [prospect, Prospect.next, addPage, hscripts]

theorem at_addPage (w : World τ) :
    At w.pages.length { script := w.prospect.scripts 0 } w.prospect.next w.addPage := by
  refine ⟨by simp [addPage], ?_, prospect_addPage w⟩
  cases hu : w.upcoming <;> simp [page, addPage, Page.fresh, Page.usage, prospect, hu]

end World

structure World.SameProspect (u v : World τ) : Prop where
  prospect : v.prospect = u.prospect

instance : IsPreorder (World τ) World.SameProspect where
  refl _ := ⟨rfl⟩
  trans _ _ _ h h' := ⟨h'.prospect.trans h.prospect⟩

abbrev Prospect.Unwritten (c : Prospect τ) (v : World τ) : Prop := v.prospect.files = c.files

/-- Where a step halts what is to come is as it was, and the browser refuses none that goes well. -/
def Refused (c : Prospect τ) (well : Prop) (h : Halt) (v : World τ) : Prop :=
  v.prospect = c ∧ (ByBrowser h → ¬ well)

theorem Refused.of_fault {c : Prospect τ} {well : Prop} {f : Fault} {v : World τ}
    (hv : v.prospect = c) : Refused c well (.fault f) v := by
  refine ⟨hv, ?_⟩
  rintro ⟨message, h⟩
  cases h

namespace Check

section

variable {k : Nat} {g : Usage τ} {c : Prospect τ} {well : Prop} {P : World τ → Prop}
  {E : Halt → World τ → Prop}

theorem meets_get : Meets P (get : Check τ (World τ)) (fun _ => P) E := fun _ hw => hw

theorem meets_given (a : Option α) :
    Meets (World.At k g c) (given a) (fun _ => World.At k g c) (Refused c well) :=
  (Meets.ofFault fun _ _ hw => .of_fault hw.prospect).mono (fun _ hw => hw) (fun _ _ hv => hv.2)
    fun _ _ hv => hv

theorem meets_refuse {α : Type} {h : Halt} {Q : α → World τ → Prop} (hnot : ¬ well) :
    Meets (World.At k g c) (throw h) Q (Refused c well) :=
  .throw fun _ hw => ⟨hw.prospect, fun _ => hnot⟩

theorem meets_record (call : Call) :
    Meets (World.At k g c) (record call) (fun _ => World.At k g c) E :=
  .modify fun _ hw => ⟨hw.opened, hw.usage, hw.prospect⟩

theorem meets_setClock (t : τ) :
    Meets (World.At k g c) (setClock t) (fun _ => World.At k g c) E :=
  .modify fun _ hw => ⟨hw.opened, hw.usage, hw.prospect⟩

theorem meets_log (level : Console.Level) (channel : Console.Channel) (message : String) :
    Meets (World.At k g c) (log level channel message) (fun _ => World.At k g c) E := by
  intro w hw
  obtain ⟨lines, hl⟩ := log_run level channel message w
  rw [hl]
  exact ⟨hw.opened, hw.usage, hw.prospect⟩

theorem meets_page :
    Meets (World.At k g c) (page k) (fun p v => p.usage = g ∧ World.At k g c v) E :=
  fun _ hw => ⟨hw.usage, hw⟩

theorem meets_updatePage {f : Page τ → Page τ} {g' : Usage τ}
    (hf : ∀ p : Page τ, p.usage = g → (f p).usage = g') :
    Meets (World.At k g c) (updatePage k f) (fun _ => World.At k g' c) E :=
  .modify fun _ hw => hw.updatePage (hf _ hw.usage)

theorem meets_failWith (failure : Option String) :
    Meets P (failWith failure) (fun _ v => failure = none ∧ P v)
      (fun h v => ∃ message, h = .browser message ∧ failure = some message ∧ P v) := by
  cases failure with
  | none => exact .pure fun w hw => ⟨rfl, hw⟩
  | some message => exact .throw fun w hw => ⟨message, rfl, rfl, hw⟩

/-- A step that uses the page is recorded and counted before the script answers. -/
theorem meets_use {α : Type} {call : Call} {f : Page τ → Page τ} (count : Usage τ → Usage τ)
    (hf : ∀ p : Page τ, (f p).usage = count p.usage) {answer : Page τ → Check τ α}
    {Q : α → World τ → Prop}
    (ha : ∀ p : Page τ, p.usage = g → Meets (World.At k (count g) c) (answer p) Q E) :
    Meets (World.At k g c)
      (record call >>= fun _ => page k >>= fun p => updatePage k f >>= fun _ => answer p) Q E := by
  refine (meets_record call).bind fun _ => meets_page.bind fun p => Meets.known fun hp => ?_
  exact (meets_updatePage fun q hq => by rw [hf, hq]).bind fun _ => ha p hp

theorem meets_goto (address : String) (timeoutMs : Int) :
    Meets (World.At k g c) (goto k address timeoutMs)
      (fun _ v => g.script.openFailure g.opened = none ∧
        World.At k { g with opened := g.opened + 1 } c v)
      (fun h v => ∃ message, h = .browser message ∧
        g.script.openFailure g.opened = some message ∧
        World.At k { g with opened := g.opened + 1 } c v) := by
  refine meets_use (fun g => { g with opened := g.opened + 1 }) (fun _ => rfl) ?_
  rintro p rfl
  refine (meets_failWith _).bind fun _ => Meets.known fun hnone => ?_
  refine Meets.mono (meets_updatePage fun q hq => ?_) (fun _ hw => hw) (fun _ _ hv => ⟨hnone, hv⟩)
    fun _ _ hv => hv
  exact hq

theorem meets_wait (ms : Option Int)
    (hwell : well → g.script.wait g.waited = .passes ∧ g.waited < g.script.waitLimit) :
    Meets (World.At k g c) (wait k ms)
      (fun _ v => (g.script.wait g.waited = .passes ∧ g.waited < g.script.waitLimit) ∧
        World.At k { g with waited := g.waited + 1 } c v)
      (Refused c well) := by
  refine meets_use (fun g => { g with waited := g.waited + 1 }) (fun _ => rfl) ?_
  rintro p rfl
  change well → p.script.wait p.waited = .passes ∧ p.waited < p.script.waitLimit at hwell
  cases hpass : p.script.wait p.waited with
  | interrupted => exact .throw fun w hw => ⟨hw.prospect, fun ⟨message, h⟩ => nomatch h⟩
  | fails message =>
    refine meets_refuse fun hgood => ?_
    rw [(hwell hgood).1] at hpass
    cases hpass
  | passes =>
    by_cases hl : p.waitsLeft = 0
    · simp only [if_pos hl]
      refine meets_refuse fun hgood => ?_
      exact absurd (hwell hgood).2 (Nat.not_lt.mpr (Nat.sub_eq_zero_iff_le.mp hl))
    · simp only [if_neg hl]
      refine (meets_given ms).bind fun length => meets_get.bind fun w =>
        (Meets.ofFault fun _ _ hw => .of_fault hw.prospect).bind fun t => Meets.known fun _ => ?_
      refine (meets_setClock t).mono (fun _ hw => hw) (fun _ v hv => ⟨⟨hpass, ?_⟩, hv⟩)
        fun _ _ hv => hv
      exact Nat.sub_ne_zero_iff_lt.mp hl

theorem meets_clickAt (x y : Coordinate)
    (hwell : well → g.script.clickFailure g.clicked = none) :
    Meets (World.At k g c) (clickAt k x y)
      (fun _ v => g.script.clickFailure g.clicked = none ∧
        World.At k { g with clicked := g.clicked + 1 } c v)
      (Refused c well) := by
  refine meets_use (fun g => { g with clicked := g.clicked + 1 }) (fun _ => rfl) ?_
  rintro p rfl
  refine (meets_failWith _).mono (fun _ hw => hw) (fun _ _ hv => hv) ?_
  rintro h v ⟨message, rfl, hfailure, hv⟩
  refine ⟨hv.prospect, fun _ hgood => ?_⟩
  have hnone : p.script.clickFailure p.clicked = none := hwell hgood
  rw [hnone] at hfailure
  cases hfailure

theorem meets_evaluate (hwell : well → ∃ value, g.script.sample g.evaluated = .ok value) :
    Meets (World.At k g c) (evaluate k)
      (fun value v => g.script.sample g.evaluated = .ok value ∧
        World.At k { g with evaluated := g.evaluated + 1 } c v)
      (Refused c well) := by
  refine meets_use (fun g => { g with evaluated := g.evaluated + 1 }) (fun _ => rfl) ?_
  rintro p rfl
  refine meets_get.bind fun w =>
    (Meets.ofFault fun _ _ hw => .of_fault hw.prospect).bind fun t => Meets.known fun _ =>
    (meets_setClock t).bind fun _ => ?_
  change well → ∃ value, p.script.sample p.evaluated = .ok value at hwell
  cases hsample : p.script.sample p.evaluated with
  | ok value => exact .pure fun v hv => ⟨hsample, hv⟩
  | error message =>
    refine meets_refuse fun hgood => ?_
    obtain ⟨value, hvalue⟩ := hwell hgood
    rw [hvalue] at hsample
    cases hsample

end

abbrev Aside (act : Check τ α) : Prop := Confined World.SameProspect (fun _ => True) act

section

variable {act : Check τ α} {c : Prospect τ}

theorem Aside.meets (ha : Aside act) :
    Meets (·.prospect = c) act (fun _ v => v.prospect = c) (fun _ v => c.Unwritten v) := by
  rintro w rfl
  have hv := ha.world w
  generalize act w = r at hv ⊢
  obtain ⟨h | a, v⟩ := r
  · exact congrArg Prospect.files hv.prospect
  · exact hv.prospect

theorem Aside.unwritten (ha : Aside act) :
    Meets c.Unwritten act (fun _ v => c.Unwritten v) (fun _ v => c.Unwritten v) := by
  intro w hw
  have hv := (congrArg Prospect.files (ha.world w).prospect).trans hw
  generalize act w = r at hv ⊢
  obtain ⟨h | a, v⟩ := r
  · exact hv
  · exact hv

theorem aside_ofFault (r : Except Fault α) : Aside (τ := τ) (ofFault r) :=
  .ofFault (fun _ => trivial) r

theorem aside_failWith (failure : Option String) : Aside (τ := τ) (failWith failure) :=
  .failWith (fun _ => trivial) failure

theorem aside_log (level : Console.Level) (channel : Console.Channel) (message : String) :
    Aside (τ := τ) (log level channel message) := by
  refine .modify fun w => ?_
  split <;> exact ⟨rfl⟩

theorem aside_say (tone : Console.Tone) (message : String) : Aside (τ := τ) (say tone message) :=
  Confined.get.bind fun _ => (aside_ofFault _).bind fun _ => .modify fun _ => ⟨rfl⟩

theorem aside_timestamp : Aside (τ := τ) timestamp := by
  refine Confined.get.bind fun w => ?_
  cases w.now with
  | none => exact .throw trivial
  | some now => exact (Confined.modify fun _ => ⟨rfl⟩).bind fun _ => .pure _

theorem aside_makeDirectory (p : Report.Path) : Aside (τ := τ) (makeDirectory p) := by
  refine ⟨fun w => ?_, fun _ _ _ => trivial⟩
  have hfiles : (w.files.makeDirectory p).1.files = w.files.files := w.files.files_makeDirectory p
  rw [makeDirectory_run]
  exact ⟨by simp only [World.prospect, hfiles]⟩

theorem aside_closeContext (context : Nat) : Aside (τ := τ) (closeContext context) :=
  .modify fun _ => ⟨rfl⟩

theorem aside_launchChromium (headless fakeMedia : Bool) :
    Aside (τ := τ) (Session.launchChromium headless fakeMedia) :=
  (aside_log _ _ _).bind fun _ => (Confined.modify fun _ => ⟨rfl⟩).bind fun _ =>
    Confined.get.bind fun _ => (aside_failWith _).bind fun _ => Confined.get.bind fun _ =>
    (Confined.modify fun _ => ⟨rfl⟩).bind fun _ => .pure _

theorem aside_takeScreenshot (page : Nat) (path : String) :
    Aside (τ := τ) (Session.takeScreenshot page path) := by
  have hshot : Aside (τ := τ) (Check.screenshot page path) :=
    (Confined.modify fun _ => ⟨rfl⟩).bind fun _ => (Confined.page page).bind fun _ =>
      (Confined.modify fun _ => ⟨rfl⟩).bind fun _ => aside_failWith _
  refine hshot.refusal?.bind fun failure => ?_
  cases failure with
  | some message => exact (aside_log _ _ _).bind fun _ => .pure _
  | none => exact (aside_log _ _ _).bind fun _ => .pure _

end

section

open Session (collect navigate nudge openPage)

variable {k : Nat} {g : Usage τ} {c : Prospect τ} {well : Prop}

theorem meets_navigate (address : String) (timeoutMs : Int) {E : Halt → World τ → Prop} :
    Meets (World.At k g c) (navigate k address timeoutMs)
      (fun failure v => failure = g.script.openFailure g.opened ∧
        World.At k { g with opened := g.opened + 1 } c v) E := by
  have hgoto : Meets (World.At k g c) (refusal? (goto k address timeoutMs))
      (fun failure v => failure = g.script.openFailure g.opened ∧
        World.At k { g with opened := g.opened + 1 } c v) E := by
    refine (meets_goto address timeoutMs).refusal? (fun v hv => ⟨hv.1.symm, hv.2⟩) ?_ ?_
    · rintro message v ⟨_, hmessage, hfailure, hv⟩
      cases hmessage
      exact ⟨hfailure.symm, hv⟩
    · rintro h v hnot ⟨message, rfl, -⟩
      exact absurd ⟨message, rfl⟩ hnot
  refine hgoto.bind fun failure => Meets.known fun hfailure => ?_
  cases failure with
  | some message =>
    exact (meets_log _ _ _).bind fun _ => .pure fun _ hw => ⟨hfailure, hw⟩
  | none =>
    exact (meets_log _ _ _).bind fun _ => .pure fun _ hw => ⟨hfailure, hw⟩

theorem meets_nudge (hwell : well → g.script.clickFailure g.clicked = none) :
    Meets (World.At k g c) (nudge k)
      (fun _ v => g.script.clickFailure g.clicked = none ∧
        World.At k { g with clicked := g.clicked + 1 } c v)
      (Refused c well) :=
  meets_page.bind fun _ => Meets.known fun _ =>
    (Meets.ofFault fun _ _ hw => .of_fault hw.prospect).bind fun (x, y) => Meets.known fun _ =>
    meets_clickAt x y hwell

theorem meets_collect (hwell : well → ∃ value, g.script.sample g.evaluated = .ok value) :
    Meets (World.At k g c) (collect k)
      (fun s v => g.script.Shows g.evaluated s ∧
        World.At k { g with evaluated := g.evaluated + 1 } c v)
      (Refused c well) := by
  refine (meets_evaluate hwell).bind fun value => Meets.known fun hvalue =>
    (Meets.ofFault fun _ _ hw => .of_fault hw.prospect).bind fun s => Meets.known fun hs => ?_
  have hlog : Meets (World.At k { g with evaluated := g.evaluated + 1 } c) (Session.logSnapshot s)
      (fun _ => World.At k { g with evaluated := g.evaluated + 1 } c) (Refused c well) := by
    intro w hw
    by_cases hshown : s.address.isWritable = true
    · obtain ⟨lines, hl⟩ := Session.logSnapshot_run hshown w
      rw [hl]
      exact ⟨hw.opened, hw.usage, hw.prospect⟩
    · rw [Session.logSnapshot_refused (by simpa using hshown)]
      exact .of_fault hw.prospect
  exact hlog.bind fun _ => .pure fun _ hw => ⟨⟨value, hvalue, hs⟩, hw⟩

theorem meets_openPage (browser : Nat) (publisher : Bool) :
    Meets (·.prospect = c) (openPage browser publisher true)
      (fun opened => World.At opened.2 { script := c.scripts 0 } c.next)
      (fun _ v => c.Unwritten v) := by
  rintro w rfl
  have hadded := World.at_addPage ((w.addingContext browser publisher).calling
    (.newPage w.contexts w.pages.length))
  rw [Session.openPage_run]
  split
  · rfl
  · rfl
  · rfl
  · exact ⟨hadded.opened, hadded.usage, hadded.prospect⟩

end

end Check
end StreamWatch.Browser
