import Mathlib.Order.Defs.Unbundled
import StreamWatch.Proofs.Browser.Outcome

/-! What checks leave as it is. A check is confined by a relation between the worlds before and
after it and by the halts it may end with; a preorder of worlds confines a check if it confines its
steps. Calls are never taken back, and no check but the one that writes the report writes a file;
work on open pages opens and closes nothing. -/
namespace StreamWatch

def Halt.Abrupt (h : Halt) : Prop := h.isShortfall = false

namespace Browser

variable {τ α β : Type}

def Page.visits (p : Page τ) : PageScript τ × Nat × Nat := (p.script, p.opened, p.reloaded)

namespace Call

def isQuiet : Call → Bool
  | .evaluate .. | .wait .. | .clickAt .. | .look .. | .clickButton .. | .screenshot .. => true
  | _ => false

def isWork : Call → Bool
  | .goto .. | .reload .. => true
  | c => c.isQuiet

def opens (k : Nat) : Call → Bool
  | .goto page .. => page == k
  | _ => false

def reloads (k : Nat) : Call → Bool
  | .reload page .. => page == k
  | _ => false

variable {c : Call}

theorem isWork_of_isQuiet (h : c.isQuiet = true) : c.isWork = true := by
  cases c <;> first | rfl | cases h

theorem opens_of_isQuiet (k : Nat) (h : c.isQuiet = true) : c.opens k = false := by
  cases c <;> first | rfl | cases h

theorem reloads_of_isQuiet (k : Nat) (h : c.isQuiet = true) : c.reloads k = false := by
  cases c <;> first | rfl | cases h

end Call

namespace World

def Calling (P : Call → Prop) (u v : World τ) : Prop :=
  ∃ made, v.calls = u.calls ++ made ∧ ∀ c ∈ made, P c

structure Onward (u v : World τ) : Prop where
  calls : u.calls <+: v.calls
  files : v.files = u.files

structure Counts (k : Nat) (u v : World τ) : Prop where
  script : (v.page k).script = (u.page k).script
  opened : (v.page k).opened + u.calls.countP (Call.opens k) =
    (u.page k).opened + v.calls.countP (Call.opens k)
  reloaded : (v.page k).reloaded + u.calls.countP (Call.reloads k) =
    (u.page k).reloaded + v.calls.countP (Call.reloads k)

structure Works (u v : World τ) : Prop where
  made : Calling (·.isWork) u v
  files : v.files = u.files
  contexts : v.contexts = u.contexts
  size : v.pages.length = u.pages.length
  counts : ∀ k < u.pages.length, Counts k u v

structure Quiet (u v : World τ) : Prop extends Works u v where
  visits : ∀ k, (v.page k).visits = (u.page k).visits

structure Uncalled (u v : World τ) : Prop where
  calls : v.calls = u.calls
  browsers : v.browsers = u.browsers
  launchFailure : v.launchFailure = u.launchFailure
  openings : v.openings = u.openings

section

variable {P Q : Call → Prop} {u v w : World τ}

theorem Calling.of_eq (h : v.calls = u.calls) : Calling P u v := ⟨[], by simpa using h, nofun⟩

theorem Calling.record (u : World τ) {c : Call} (hc : P c) :
    Calling P u { u with calls := u.calls ++ [c] } :=
  ⟨[c], rfl, fun _ hd => List.mem_singleton.mp hd ▸ hc⟩

theorem Calling.trans (h : Calling P u v) (h' : Calling P v w) : Calling P u w := by
  obtain ⟨made, hv, hmade⟩ := h
  obtain ⟨more, hw, hmore⟩ := h'
  refine ⟨made ++ more, by rw [hw, hv, List.append_assoc], fun c hc => ?_⟩
  rcases List.mem_append.mp hc with hc | hc
  · exact hmade c hc
  · exact hmore c hc

theorem Calling.mono (h : Calling P u v) (hPQ : ∀ c, P c → Q c) : Calling Q u v := by
  obtain ⟨made, hv, hmade⟩ := h
  exact ⟨made, hv, fun c hc => hPQ c (hmade c hc)⟩

theorem Works.calls (h : Works u v) : u.calls <+: v.calls := by
  obtain ⟨made, hv, -⟩ := h.made
  exact ⟨made, hv.symm⟩

theorem Works.onward (h : Works u v) : Onward u v := ⟨h.calls, h.files⟩

theorem Counts.trans {k : Nat} (h : Counts k u v) (h' : Counts k v w) : Counts k u w where
  script := h'.script.trans h.script
  opened := by
    have hv := h.opened
    have hw := h'.opened
    omega
  reloaded := by
    have hv := h.reloaded
    have hw := h'.reloaded
    omega

theorem Quiet.of_same (hcalls : v.calls = u.calls) (hfiles : v.files = u.files)
    (hcontexts : v.contexts = u.contexts) (hsize : v.pages.length = u.pages.length)
    (hvisits : ∀ k, (v.page k).visits = (u.page k).visits) : Quiet u v := by
  refine ⟨⟨.of_eq hcalls, hfiles, hcontexts, hsize, fun k _ => ?_⟩, hvisits⟩
  have hk := hvisits k
  simp only [Page.visits, Prod.mk.injEq] at hk
  obtain ⟨hscript, hopened, hreloaded⟩ := hk
  exact ⟨hscript, by rw [hopened, hcalls], by rw [hreloaded, hcalls]⟩

end

instance : IsPreorder (World τ) Uncalled where
  refl _ := ⟨rfl, rfl, rfl, rfl⟩
  trans _ _ _ h h' := ⟨h'.calls.trans h.calls, h'.browsers.trans h.browsers,
    h'.launchFailure.trans h.launchFailure, h'.openings.trans h.openings⟩

instance (P : Call → Prop) : IsPreorder (World τ) (Calling P) where
  refl _ := .of_eq rfl
  trans _ _ _ h h' := h.trans h'

instance : IsPreorder (World τ) Onward where
  refl _ := ⟨List.prefix_rfl, rfl⟩
  trans _ _ _ h h' := ⟨h.calls.trans h'.calls, h'.files.trans h.files⟩

instance : IsPreorder (World τ) Works where
  refl _ := (Quiet.of_same rfl rfl rfl rfl fun _ => rfl).toWorks
  trans _ _ _ h h' := ⟨h.made.trans h'.made, h'.files.trans h.files,
    h'.contexts.trans h.contexts, h'.size.trans h.size,
    fun k hk => (h.counts k hk).trans (h'.counts k (h.size ▸ hk))⟩

instance : IsPreorder (World τ) Quiet where
  refl _ := .of_same rfl rfl rfl rfl fun _ => rfl
  trans _ _ _ h h' := ⟨trans_of Works h.toWorks h'.toWorks,
    fun k => (h'.visits k).trans (h.visits k)⟩

theorem quiet_updatePage (w : World τ) (k : Nat) {f : Page τ → Page τ}
    (hf : ∀ p, (f p).visits = p.visits) : Quiet w (w.updatePage k f) := by
  refine .of_same rfl rfl rfl (List.length_modify ..) fun j => ?_
  rw [page_modify]
  split
  · exact hf _
  · rfl

theorem quiet_log (w : World τ) (lines : List Console.LogLine) :
    Quiet w { w with log := lines } :=
  .of_same rfl rfl rfl rfl fun _ => rfl

theorem quiet_record (w : World τ) {c : Call} (hc : c.isQuiet = true) :
    Quiet w { w with calls := w.calls ++ [c] } := by
  refine ⟨⟨.record w (Call.isWork_of_isQuiet hc), rfl, rfl, rfl, fun k _ => ⟨rfl, ?_, ?_⟩⟩,
    fun _ => rfl⟩
  · rw [List.countP_append, List.countP_singleton, Call.opens_of_isQuiet k hc]
    rfl
  · rw [List.countP_append, List.countP_singleton, Call.reloads_of_isQuiet k hc]
    rfl

theorem works_visit (w : World τ) {k : Nat} {c : Call} {f : Page τ → Page τ}
    (hc : c.isWork = true)
    (hf : ∀ p, (f p).visits =
      (p.script, p.opened + (c.opens k).toNat, p.reloaded + (c.reloads k).toNat))
    (hother : ∀ j ≠ k, c.opens j = false ∧ c.reloads j = false) :
    Works w ((w.calling c).updatePage k f) := by
  refine ⟨.record w hc, rfl, rfl, List.length_modify .., fun j hj => ?_⟩
  have hvisits : (((w.calling c).updatePage k f).page j).visits = ((w.page j).script,
      (w.page j).opened + (c.opens j).toNat, (w.page j).reloaded + (c.reloads j).toNat) := by
    rw [page_modify]
    by_cases hjk : j = k
    · subst hjk
      rw [if_pos ⟨rfl, hj⟩]
      exact hf _
    · rw [if_neg fun h => hjk h.1, (hother j hjk).1, (hother j hjk).2]
      rfl
  have hcalls : ((w.calling c).updatePage k f).calls = w.calls ++ [c] := rfl
  simp only [Page.visits, Prod.mk.injEq] at hvisits
  obtain ⟨hscript, hopened, hreloaded⟩ := hvisits
  refine ⟨hscript, ?_, ?_⟩
  · rw [hopened, hcalls, List.countP_append, List.countP_singleton]
    cases c.opens j with
    | false => simp
    | true =>
      simp
      omega
  · rw [hreloaded, hcalls, List.countP_append, List.countP_singleton]
    cases c.reloads j with
    | false => simp
    | true =>
      simp
      omega

theorem works_opening (w : World τ) (k : Nat) (address : String) (timeoutMs : Int) :
    Works w (w.opening k address timeoutMs) :=
  w.works_visit (c := .goto k address timeoutMs) rfl
    (fun p => by simp [Page.visits, Call.opens, Call.reloads])
    fun j hj => ⟨by simpa [Call.opens] using hj.symm, rfl⟩

theorem works_reloading (w : World τ) (k : Nat) (timeoutMs : Int) :
    Works w (w.reloading k timeoutMs) :=
  w.works_visit (c := .reload k timeoutMs) rfl
    (fun p => by simp [Page.visits, Call.opens, Call.reloads])
    fun j hj => ⟨rfl, by simpa [Call.reloads] using hj.symm⟩

end World

namespace Check

/-- Run from any world, the check leaves a related one, and it halts by one of these halts only. -/
structure Confined (R : World τ → World τ → Prop) (E : Halt → Prop) (act : Check τ α) : Prop where
  world : ∀ w, R w (act w).2
  halt : ∀ w h, (act w).1 = .error h → E h

section

variable {R R' : World τ → World τ → Prop} {E E' : Halt → Prop} {act : Check τ α}
  {k : α → Check τ β}

theorem Confined.mono (ha : Confined R E act) (hR : ∀ u v, R u v → R' u v)
    (hE : ∀ h, E h → E' h) : Confined R' E' act :=
  ⟨fun w => hR _ _ (ha.world w), fun w h he => hE h (ha.halt w h he)⟩

theorem Confined.of_run {w v : World τ} {r : Except Halt α} (ha : Confined R E act)
    (h : act w = (r, v)) : R w v := by
  have hw := ha.world w
  rwa [h] at hw

theorem Confined.leads_bind (S : World τ → World τ → Prop) (ha : Confined R E act)
    (hhalt : ∀ {u v}, R u v → S u v) (hlead : ∀ {u v w}, R u v → S v w → S u w)
    (hk : ∀ a w, S w (k a w).2) (w : World τ) : S w ((act >>= k) w).2 := by
  have hw := ha.world w
  rw [bind_run]
  generalize act w = r at hw ⊢
  obtain ⟨h | a, v⟩ := r
  · exact hhalt hw
  · exact hlead hw (hk a v)

theorem Confined.trails_bind (S : World τ → World τ → Prop) (hk : ∀ a, Confined R E (k a))
    (htrail : ∀ {u v w}, S u v → R v w → S u w) {u w : World τ} (ha : S u (act w).2) :
    S u ((act >>= k) w).2 := by
  rw [bind_run]
  generalize act w = r at ha ⊢
  obtain ⟨h | a, v⟩ := r
  · exact ha
  · exact htrail ha ((hk a).world v)

theorem Confined.modify {f : World τ → World τ} (hf : ∀ w, R w (f w)) :
    Confined R E (modify f : Check τ Unit) :=
  ⟨hf, fun _ _ h => nomatch h⟩

theorem Confined.attempt {E' : Halt → Prop} (ha : Confined R E act) :
    Confined R E' (attempt act) :=
  ⟨fun w => ha.world w, fun _ _ h => nomatch h⟩

theorem Confined.refusal? {act : Check τ Unit} (ha : Confined R E act) :
    Confined R E (refusal? act) := by
  constructor
  · intro w
    have hw := ha.world w
    rw [Check.refusal?, bind_of_ok (attempt_run act w)]
    generalize act w = r at hw ⊢
    obtain ⟨h | a, v⟩ := r
    · cases h <;> exact hw
    · exact hw
  · intro w h he
    have hw := ha.halt w h
    rw [Check.refusal?, bind_of_ok (attempt_run act w)] at he
    generalize act w = r at hw he
    obtain ⟨h' | a, v⟩ := r
    · cases h' with
      | browser message => cases he
      | _ =>
        cases he
        exact hw rfl
    · cases he

variable [IsPreorder (World τ) R]

theorem Confined.pure (a : α) : Confined R E (Pure.pure a) :=
  ⟨fun w => refl_of R w, fun _ _ h => nomatch h⟩

theorem Confined.throw {h : Halt} (hh : E h) : Confined R E (MonadExcept.throw h : Check τ α) :=
  ⟨fun w => refl_of R w, fun _ _ he => Except.error.inj he ▸ hh⟩

theorem Confined.get : Confined R E (get : Check τ (World τ)) :=
  ⟨fun w => refl_of R w, fun _ _ h => nomatch h⟩

theorem Confined.bind (ha : Confined R E act) (hk : ∀ a, Confined R E (k a)) :
    Confined R E (act >>= k) := by
  constructor
  · intro w
    have hw := ha.world w
    rw [bind_run]
    generalize act w = r at hw ⊢
    obtain ⟨h | a, v⟩ := r
    · exact hw
    · exact trans_of R hw ((hk a).world v)
  · intro w h he
    have hw := ha.halt w h
    rw [bind_run] at he
    generalize act w = r at hw he
    obtain ⟨h' | a, v⟩ := r
    · cases he
      exact hw rfl
    · exact (hk a).halt v h he

theorem Confined.page (j : Nat) : Confined R E (page j : Check τ (Page τ)) :=
  Confined.get.bind fun _ => .pure _

theorem Confined.ofExcept {r : Except Halt α} (hr : ∀ h, r = .error h → E h) :
    Confined R E (ofExcept r : Check τ α) := by
  cases r with
  | ok a => exact .pure a
  | error h => exact .throw (hr h rfl)

theorem Confined.ofFault (hE : ∀ f, E (.fault f)) (r : Except Fault α) :
    Confined R E (ofFault r : Check τ α) := by
  cases r with
  | ok a => exact .pure a
  | error f => exact .throw (hE f)

theorem Confined.failWith (hE : ∀ message, E (.browser message)) (failure : Option String) :
    Confined R E (failWith failure : Check τ Unit) := by
  cases failure with
  | none => exact .pure ()
  | some message => exact .throw (hE message)

theorem Confined.each {act : α → Check τ β} (ha : ∀ a, Confined R E (act a)) (items : List α) :
    Confined R E (each act items) := by
  induction items with
  | nil => exact .pure []
  | cons a r ih => exact (ha a).bind fun _ => ih.bind fun _ => .pure _

theorem Confined.forEach {act : α → Check τ Unit} (ha : ∀ a, Confined R E (act a))
    (items : List α) : Confined R E (forEach act items) := by
  induction items with
  | nil => exact .pure ()
  | cons a r ih => exact (ha a).bind fun _ => ih

theorem Confined.attempt_bind {k : Except Halt α → Check τ β} (ha : Confined R E act)
    (hk : ∀ r, (∀ h, r = .error h → E h) → Confined R E (k r)) :
    Confined R E (Check.attempt act >>= k) := by
  have hrest (w : World τ) : Confined R E (k (act w).1) := hk _ (ha.halt w)
  constructor
  · intro w
    rw [bind_of_ok (attempt_run act w)]
    exact trans_of R (ha.world w) ((hrest w).world _)
  · intro w h he
    rw [bind_of_ok (attempt_run act w)] at he
    exact (hrest w).halt _ h he

theorem Confined.ensuring {cleanUp : Check τ Unit} (ha : Confined R E act)
    (hc : Confined R E cleanUp) : Confined R E (ensuring act cleanUp) :=
  -- The outcome is kept as a value while the clean-up runs, and is given back after it.
  ha.attempt_bind fun _ hr => hc.bind fun _ => Confined.ofExcept hr

end

abbrev Stays (act : Check τ α) : Prop := Confined World.Quiet Halt.Abrupt act

abbrev Works (act : Check τ α) : Prop := Confined World.Works Halt.Abrupt act

abbrev Advances (act : Check τ α) : Prop := Confined World.Onward Halt.Abrupt act

theorem Stays.works {act : Check τ α} (ha : Stays act) : Works act :=
  ha.mono (fun _ _ h => h.toWorks) fun _ h => h

theorem Works.advances {act : Check τ α} (ha : Works act) : Advances act :=
  ha.mono (fun _ _ h => h.onward) fun _ h => h

theorem Stays.advances {act : Check τ α} (ha : Stays act) : Advances act := ha.works.advances

theorem abrupt_fault (f : Fault) : (Halt.fault f).Abrupt := rfl

theorem abrupt_browser (message : String) : (Halt.browser message).Abrupt := rfl

theorem stays_ofFault (r : Except Fault α) : Stays (τ := τ) (ofFault r) :=
  .ofFault abrupt_fault r

theorem stays_given (a : Option α) : Stays (τ := τ) (given a) := stays_ofFault _

theorem stays_failWith (failure : Option String) : Stays (τ := τ) (failWith failure) :=
  .failWith abrupt_browser failure

theorem stays_log (level : Console.Level) (channel : Console.Channel) (message : String) :
    Stays (τ := τ) (log level channel message) := by
  refine .modify fun w => ?_
  split
  · exact .of_same rfl rfl rfl rfl fun _ => rfl
  · exact refl_of World.Quiet w

theorem stays_print (line : String) : Stays (τ := τ) (print line) :=
  .modify fun _ => .of_same rfl rfl rfl rfl fun _ => rfl

theorem stays_say (tone : Console.Tone) (message : String) : Stays (τ := τ) (say tone message) :=
  Confined.get.bind fun _ => (stays_ofFault _).bind fun _ => stays_print _

theorem stays_timestamp : Stays (τ := τ) timestamp := by
  refine Confined.get.bind fun w => ?_
  cases w.now with
  | none => exact .throw rfl
  | some now =>
    exact (Confined.modify fun _ => .of_same rfl rfl rfl rfl fun _ => rfl).bind fun _ => .pure _

theorem stays_record {c : Call} (hc : c.isQuiet = true) : Stays (τ := τ) (record c) :=
  .modify fun w => w.quiet_record hc

theorem advances_record (c : Call) : Advances (τ := τ) (record c) :=
  .modify fun _ => ⟨List.prefix_append _ _, rfl⟩

theorem stays_updatePage (k : Nat) {f : Page τ → Page τ} (hf : ∀ p, (f p).visits = p.visits) :
    Stays (updatePage k f) :=
  .modify fun w => w.quiet_updatePage k hf

theorem stays_setClock (t : τ) : Stays (setClock t) :=
  .modify fun _ => .of_same rfl rfl rfl rfl fun _ => rfl

theorem stays_evaluate (k : Nat) : Stays (τ := τ) (evaluate k) := by
  refine (stays_record rfl).bind fun _ => (Confined.page k).bind fun p =>
    (stays_updatePage k fun _ => by rfl).bind fun _ => Confined.get.bind fun w =>
    (stays_ofFault _).bind fun t => (stays_setClock t).bind fun _ => ?_
  cases p.script.sample p.evaluated with
  | ok v => exact .pure v
  | error message => exact .throw rfl

theorem stays_wait (k : Nat) (ms : Option Int) : Stays (τ := τ) (wait k ms) := by
  refine (stays_record rfl).bind fun _ => (Confined.page k).bind fun p =>
    (stays_updatePage k fun _ => by rfl).bind fun _ => ?_
  cases p.script.wait p.waited with
  | interrupted => exact .throw rfl
  | fails message => exact .throw rfl
  | passes =>
    by_cases hl : p.waitsLeft = 0
    · simp only [if_pos hl]
      exact .throw rfl
    · simp only [if_neg hl]
      exact (stays_given ms).bind fun _ => Confined.get.bind fun _ =>
        (stays_ofFault _).bind stays_setClock

theorem stays_clickAt (k : Nat) (x y : Coordinate) : Stays (τ := τ) (clickAt k x y) :=
  (stays_record rfl).bind fun _ => (Confined.page k).bind fun _ =>
    (stays_updatePage k fun _ => by rfl).bind fun _ => stays_failWith _

theorem stays_screenshot (k : Nat) (path : String) : Stays (τ := τ) (screenshot k path) :=
  (stays_record rfl).bind fun _ => (Confined.page k).bind fun _ =>
    (stays_updatePage k fun _ => by rfl).bind fun _ => stays_failWith _

theorem works_goto (k : Nat) (address : String) (timeoutMs : Int) :
    Works (τ := τ) (goto k address timeoutMs) := by
  constructor
  · intro w
    have hopening := w.works_opening k address timeoutMs
    rw [goto_run]
    split
    · exact hopening
    · exact trans_of World.Works hopening
        (World.quiet_updatePage (f := fun p => { p with address }) _ k fun _ => rfl).toWorks
  · intro w h he
    rw [goto_run] at he
    split at he
    · cases he
      rfl
    · cases he

theorem works_reload (k : Nat) (timeoutMs : Int) : Works (τ := τ) (reload k timeoutMs) := by
  constructor
  · intro w
    rw [reload_run]
    split
    · exact w.works_reloading k timeoutMs
    · exact w.works_reloading k timeoutMs
  · intro w h he
    rw [reload_run] at he
    split at he
    · cases he
      rfl
    · cases he

theorem advances_launch (engine : Engine) (headless fakeMedia : Bool) :
    Advances (τ := τ) (launch engine headless fakeMedia) :=
  (advances_record _).bind fun _ => Confined.get.bind fun _ =>
    (stays_failWith _).advances.bind fun _ => Confined.get.bind fun _ =>
    (Confined.modify fun _ => ⟨List.prefix_rfl, rfl⟩).bind fun _ => .pure _

theorem advances_newContext (browser : Nat) (publisher : Bool) :
    Advances (τ := τ) (newContext browser publisher) :=
  Confined.get.bind fun _ => (advances_record _).bind fun _ => Confined.get.bind fun _ =>
    (stays_failWith _).advances.bind fun _ =>
    (Confined.modify fun _ => ⟨List.prefix_rfl, rfl⟩).bind fun _ => .pure _

theorem advances_addPage : Advances (τ := τ) addPage :=
  Confined.get.bind fun _ => (Confined.modify fun _ => ⟨List.prefix_rfl, rfl⟩).bind fun _ => .pure _

theorem advances_newPage (context : Nat) : Advances (τ := τ) (newPage context) :=
  Confined.get.bind fun _ => (advances_record _).bind fun _ => Confined.get.bind fun _ =>
    (stays_failWith _).advances.bind fun _ => advances_addPage

theorem advances_collectInPage (page : Nat) : Advances (τ := τ) (collectInPage page) :=
  (advances_record _).bind fun _ => Confined.get.bind fun _ => (stays_failWith _).advances

theorem uncalled_log (level : Console.Level) (channel : Console.Channel) (message : String) :
    Confined (τ := τ) World.Uncalled Halt.Abrupt (log level channel message) := by
  refine .modify fun w => ?_
  split
  · exact ⟨rfl, rfl, rfl, rfl⟩
  · exact refl_of World.Uncalled w

theorem uncalled_print (line : String) :
    Confined (τ := τ) World.Uncalled Halt.Abrupt (print line) :=
  .modify fun _ => ⟨rfl, rfl, rfl, rfl⟩

theorem uncalled_ofFault (r : Except Fault α) :
    Confined (τ := τ) World.Uncalled Halt.Abrupt (ofFault r) :=
  .ofFault abrupt_fault r

theorem uncalled_given (a : Option α) :
    Confined (τ := τ) World.Uncalled Halt.Abrupt (given a) := uncalled_ofFault _

theorem uncalled_say (tone : Console.Tone) (message : String) :
    Confined (τ := τ) World.Uncalled Halt.Abrupt (say tone message) :=
  Confined.get.bind fun _ => (uncalled_ofFault _).bind fun _ => uncalled_print _

theorem uncalled_timestamp : Confined (τ := τ) World.Uncalled Halt.Abrupt timestamp := by
  refine Confined.get.bind fun w => ?_
  cases w.now with
  | none => exact .throw rfl
  | some now => exact (Confined.modify fun _ => ⟨rfl, rfl, rfl, rfl⟩).bind fun _ => .pure _

end Check
end Browser
end StreamWatch
