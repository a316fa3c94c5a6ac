import StreamWatch.Proofs.Browser.Outcome

/-! Two runs side by side, in worlds that differ in what comes of pictures, and in the log. A step
is blind if it answers the same in both and leaves them alike; every step is, but for the picture
itself, whose answer may differ. -/
namespace StreamWatch.Browser

variable {τ α β γ δ : Type}

def PageScript.blind (s : PageScript τ) : PageScript τ :=
  { s with screenshotFailure := fun _ => none }

def Page.blind (p : Page τ) : Page τ := { p with script := p.script.blind }

def Page.Alike (p q : Page τ) : Prop := p.blind = q.blind

theorem Page.Alike.asked {p q : Page τ} (h : p.Alike q) (f : Page τ → α)
    (hf : ∀ p, f p.blind = f p) : f p = f q :=
  (hf p).symm.trans ((congrArg f h).trans (hf q))

namespace World

/-- The world without the outcomes of pictures and without the log, which tells of them. -/
def blind (w : World τ) : World τ :=
  { w with
    blank := w.blank.blind
    upcoming := w.upcoming.map PageScript.blind
    pages := w.pages.map Page.blind
    log := [] }

def Alike (u v : World τ) : Prop := u.blind = v.blind

theorem blind_page (w : World τ) (k : Nat) : w.blind.page k = (w.page k).blind := by
  simp only [page, blind, List.getD_eq_getElem?_getD, List.getElem?_map]
  cases w.pages[k]? <;> rfl

theorem Alike.page {u v : World τ} (h : u.Alike v) (k : Nat) :
    (u.page k).Alike (v.page k) := by
  rw [Page.Alike, ← blind_page, ← blind_page, h]

theorem Alike.eq {u v : World τ} (h : u.Alike v) (f : World τ → α)
    (hf : ∀ w : World τ, f w.blind = f w) : f u = f v :=
  (hf u).symm.trans ((congrArg f h).trans (hf v))

theorem Alike.length_pages {u v : World τ} (h : u.Alike v) : u.pages.length = v.pages.length := by
  exact h.eq (·.pages.length) fun w => by simp [blind]

theorem blind_updatePage (w : World τ) (k : Nat) {f : Page τ → Page τ}
    (hf : ∀ p, (f p).blind = f p.blind) : (w.updatePage k f).blind = w.blind.updatePage k f := by
  have h : (w.pages.modify k f).map Page.blind = (w.pages.map Page.blind).modify k f := by
    apply List.ext_getElem?
    intro j
    simp only [List.getElem?_map, List.getElem?_modify]
    split <;> cases w.pages[j]? <;> simp [hf]
  simp [updatePage, blind, h]

theorem blind_addPage (w : World τ) : w.addPage.blind = w.blind.addPage := by
  cases h : w.upcoming <;> simp [addPage, blind, h, Page.fresh, Page.blind, PageScript.blind]

end World

inductive Both (R : α → β → Prop) : Except Halt α → Except Halt β → Prop
  | ok {a : α} {b : β} (h : R a b) : Both R (.ok a) (.ok b)
  | error (h : Halt) : Both R (.error h) (.error h)

theorem Both.eq {r r' : Except Halt α} (h : Both Eq r r') : r = r' := by
  cases h with
  | ok h => rw [h]
  | error h => rfl

theorem Both.mono {R R' : α → β → Prop} {r : Except Halt α} {r' : Except Halt β}
    (h : Both R r r') (hR : ∀ a b, R a b → R' a b) : Both R' r r' := by
  cases h with
  | ok h => exact .ok (hR _ _ h)
  | error h => exact .error h

namespace Check

/-- From worlds that are alike, the two checks end alike. -/
def Twin (R : α → β → Prop) (act : Check τ α) (act' : Check τ β) : Prop :=
  ∀ u v : World τ, u.Alike v → Both R (act u).1 (act' v).1 ∧ (act u).2.Alike (act' v).2

/-- The check neither sees nor shows what comes of pictures. -/
def Blind (act : Check τ α) : Prop := Twin Eq act act

section

variable {R : α → β → Prop} {S : γ → δ → Prop} {act : Check τ α} {act' : Check τ β}
  {k : α → Check τ γ} {k' : β → Check τ δ}

theorem Twin.pure {a : α} {b : β} (h : R a b) :
    Twin (τ := τ) R (Pure.pure a) (Pure.pure b) :=
  fun _ _ hw => ⟨.ok h, hw⟩

theorem Twin.bind (ha : Twin R act act') (hk : ∀ a b, R a b → Twin S (k a) (k' b)) :
    Twin S (act >>= k) (act' >>= k') := by
  intro u v hw
  obtain ⟨houtcome, hworld⟩ := ha u v hw
  rcases hu : act u with ⟨r, u'⟩
  rcases hv : act' v with ⟨r', v'⟩
  rw [hu, hv] at houtcome hworld
  cases houtcome with
  | ok h =>
    rw [bind_of_ok hu, bind_of_ok hv]
    exact hk _ _ h _ _ hworld
  | error e =>
    rw [bind_of_error hu, bind_of_error hv]
    exact ⟨.error e, hworld⟩

theorem Twin.mono {R' : α → β → Prop} (ha : Twin R act act') (h : ∀ a b, R a b → R' a b) :
    Twin R' act act' :=
  fun u v hw => ⟨(ha u v hw).1.mono h, (ha u v hw).2⟩

theorem Twin.throw (h : Halt) : Twin (τ := τ) R (throw h) (throw h) :=
  fun _ _ hw => ⟨.error h, hw⟩

theorem Twin.get {k : World τ → Check τ γ} {k' : World τ → Check τ δ}
    (hk : ∀ u v : World τ, u.Alike v → Twin S (k u) (k' v)) :
    Twin S (MonadState.get >>= k) (MonadState.get >>= k') :=
  fun u v hw => hk u v hw u v hw

theorem Twin.attempt (ha : Twin R act act') : Twin (Both R) (attempt act) (attempt act') :=
  fun u v hw => ⟨.ok (ha u v hw).1, (ha u v hw).2⟩

theorem Twin.ofExcept {r : Except Halt α} {r' : Except Halt β} (h : Both R r r') :
    Twin (τ := τ) R (ofExcept r) (ofExcept r') := by
  cases h with
  | ok h => exact .pure h
  | error e => exact .throw e

theorem Blind.bind {act : Check τ α} {k : α → Check τ γ} {k' : α → Check τ δ} (ha : Blind act)
    (hk : ∀ a, Twin S (k a) (k' a)) : Twin S (act >>= k) (act >>= k') :=
  Twin.bind ha fun a _ h => h ▸ hk a

theorem Twin.ensuring {cleanUp : Check τ Unit} (ha : Twin R act act') (hc : Blind cleanUp) :
    Twin R (ensuring act cleanUp) (ensuring act' cleanUp) :=
  Twin.bind ha.attempt fun _ _ h => hc.bind fun _ => .ofExcept h

end

theorem Blind.pure (a : α) : Blind (τ := τ) (Pure.pure a) := Twin.pure rfl

theorem Blind.ofExcept (r : Except Halt α) : Blind (τ := τ) (Check.ofExcept r) := by
  cases r with
  | ok a => exact .pure a
  | error h => exact Twin.throw h

theorem Blind.throw (h : Halt) : Blind (τ := τ) (MonadExcept.throw h : Check τ α) := Twin.throw h

theorem blind_modify {f : World τ → World τ}
    (hf : ∀ w, (f w).blind = f w.blind) :
    Blind (modify f : Check τ Unit) :=
  fun u v hw => ⟨.ok rfl, by
    rw [World.Alike] at hw ⊢
    exact (hf u).trans ((congrArg f hw).trans (hf v).symm)⟩

theorem Twin.modify_bind {S : γ → δ → Prop} {f : World τ → World τ} {k : Unit → Check τ γ}
    {k' : Unit → Check τ δ} (hf : ∀ w, (f w).blind = f w.blind)
    (hk : ∀ a, Twin S (k a) (k' a)) :
    Twin S (modify f >>= k) (modify f >>= k') :=
  (blind_modify hf).bind hk

theorem Blind.ofFault (r : Except Fault α) : Blind (τ := τ) (Check.ofFault r) := by
  cases r with
  | ok a => exact .pure a
  | error f => exact .throw (.fault f)

theorem Blind.given (a : Option α) : Blind (τ := τ) (Check.given a) := .ofFault _

theorem Blind.attempt {act : Check τ α} (ha : Blind act) : Blind (attempt act) :=
  Twin.mono (Twin.attempt ha) fun _ _ h => h.eq

theorem Blind.refusal? {act : Check τ Unit} (ha : Blind act) : Blind (refusal? act) :=
  ha.attempt.bind fun r => by
    match r with
    | .ok _ => exact .pure rfl
    | .error (.browser message) => exact .pure rfl
    | .error (.navigation ..) | .error (.notLive ..) | .error (.rejected ..) | .error .interrupted
    | .error (.fault _) => exact .throw _

theorem Blind.each {act : α → Check τ β} (ha : ∀ a, Blind (act a)) (items : List α) :
    Blind (each act items) := by
  induction items with
  | nil => exact .pure []
  | cons a r ih => exact (ha a).bind fun _ => ih.bind fun _ => .pure rfl

theorem Blind.forEach {act : α → Check τ Unit} (ha : ∀ a, Blind (act a)) (items : List α) :
    Blind (forEach act items) := by
  induction items with
  | nil => exact .pure ()
  | cons a r ih => exact (ha a).bind fun _ => ih

theorem alike_log (level : Console.Level) (channel : Console.Channel) (message : String)
    (w : World τ) : (log level channel message w).2.Alike w := by
  obtain ⟨lines, h⟩ := log_run level channel message w
  rw [h]
  rfl

theorem twin_log (level level' : Console.Level) (channel channel' : Console.Channel)
    (message message' : String) :
    Twin (τ := τ) Eq (log level channel message) (log level' channel' message') :=
  fun u v hw => ⟨.ok rfl, (alike_log _ _ _ u).trans (hw.trans (alike_log _ _ _ v).symm)⟩

theorem blind_log (level : Console.Level) (channel : Console.Channel) (message : String) :
    Blind (τ := τ) (log level channel message) := twin_log _ _ _ _ _ _

theorem blind_print (line : String) : Blind (τ := τ) (print line) := blind_modify fun _ => by rfl

theorem blind_say (tone : Console.Tone) (message : String) :
    Blind (τ := τ) (say tone message) :=
  .get fun u v hw => by
    rw [hw.eq World.terminal fun _ => rfl]
    exact (Blind.ofFault _).bind fun line => blind_print line

theorem blind_timestamp : Blind (τ := τ) timestamp := by
  refine .get fun u v hw => ?_
  rw [hw.eq World.now fun _ => rfl]
  cases v.now with
  | none => exact .throw _
  | some now => exact .modify_bind (fun _ => by rfl) fun _ => .pure rfl

theorem blind_makeDirectory (p : Report.Path) : Blind (τ := τ) (makeDirectory p) := by
  refine .get fun u v hw => ?_
  rw [hw.eq World.files fun _ => rfl]
  refine .modify_bind (fun _ => by rfl) fun _ => ?_
  split
  · exact .throw _
  · exact .pure rfl

theorem blind_writeFile (p : Report.Path) (text : String) :
    Blind (τ := τ) (writeFile p text) :=
  .get fun u v hw => by
    rw [hw.eq World.files fun _ => rfl]
    exact (Blind.ofFault _).bind fun _ => blind_modify fun _ => by rfl

theorem blind_record (c : Call) : Blind (τ := τ) (record c) := blind_modify fun _ => by rfl

theorem blind_failWith (failure : Option String) : Blind (τ := τ) (failWith failure) := by
  cases failure with
  | none => exact .pure ()
  | some message => exact .throw _

theorem blind_launch (engine : Engine) (headless fakeMedia : Bool) :
    Blind (τ := τ) (launch engine headless fakeMedia) :=
  (blind_record _).bind fun _ => .get fun u v hw => by
    rw [hw.eq World.launchFailure fun _ => rfl]
    refine (blind_failWith _).bind fun _ => .get fun u v hw => ?_
    rw [hw.eq World.browsers fun _ => rfl]
    exact .modify_bind (fun _ => by rfl) fun _ => .pure rfl

theorem blind_newContext (browser : Nat) (publisher : Bool) :
    Blind (τ := τ) (newContext browser publisher) :=
  .get fun u v hw => by
    rw [hw.eq World.contexts fun _ => rfl]
    refine (blind_record _).bind fun _ => .get fun u v hw => ?_
    rw [hw.eq World.openings fun _ => rfl]
    exact (blind_failWith _).bind fun _ => .modify_bind (fun _ => by rfl) fun _ => .pure rfl

theorem blind_addPage : Blind (τ := τ) addPage :=
  .get fun u v hw => by
    rw [hw.length_pages]
    exact .modify_bind World.blind_addPage fun _ => .pure rfl

theorem blind_newPage (context : Nat) : Blind (τ := τ) (newPage context) :=
  .get fun u v hw => by
    rw [hw.length_pages]
    refine (blind_record _).bind fun _ => .get fun u v hw => ?_
    rw [hw.eq World.openings fun _ => rfl]
    exact (blind_failWith _).bind fun _ => blind_addPage

theorem blind_collectInPage (page : Nat) : Blind (τ := τ) (collectInPage page) :=
  (blind_record _).bind fun _ => .get fun u v hw => by
    rw [hw.eq World.openings fun _ => rfl]
    exact blind_failWith _

theorem twin_page (k : Nat) :
    Twin (τ := τ) Page.Alike (page k) (page k) :=
  .get fun _ _ hw => .pure (hw.page k)

theorem blind_updatePage {k : Nat} {f : Page τ → Page τ}
    (hf : ∀ p, (f p).blind = f p.blind) : Blind (updatePage k f) :=
  blind_modify fun w => w.blind_updatePage k hf

theorem Twin.visit {S : β → γ → Prop} {k : Nat} {f : Page τ → Page τ} {act : Page τ → Check τ β}
    {act' : Page τ → Check τ γ} (hf : ∀ p, (f p).blind = f p.blind)
    (ha : ∀ p q, p.Alike q → Twin S (act p) (act' q)) :
    Twin S (do let p ← page k; updatePage k f; act p) (do let p ← page k; updatePage k f; act' p) :=
  (twin_page k).bind fun p q hp => (blind_updatePage hf).bind fun _ => ha p q hp

theorem blind_goto (k : Nat) (address : String) (timeoutMs : Int) :
    Blind (τ := τ) (goto k address timeoutMs) :=
  (blind_record _).bind fun _ => .visit (fun _ => by rfl) fun p q hp => by
    rw [hp.asked (fun p => p.script.openFailure p.opened) fun _ => rfl]
    exact (blind_failWith _).bind fun _ => blind_updatePage fun _ => by rfl

theorem blind_reload (k : Nat) (timeoutMs : Int) : Blind (τ := τ) (reload k timeoutMs) :=
  (blind_record _).bind fun _ => .visit (fun _ => by rfl) fun p q hp => by
    rw [hp.asked (fun p => p.script.reloadFailure p.reloaded) fun _ => rfl]
    exact blind_failWith _

theorem blind_setClock (t : τ) : Blind (setClock t) := blind_modify fun _ => by rfl

theorem blind_evaluate (k : Nat) : Blind (τ := τ) (evaluate k) :=
  (blind_record _).bind fun _ => .visit (fun _ => by rfl) fun p q hp => .get fun u v hw => by
    rw [hw.eq World.clock fun _ => rfl,
      hp.asked (fun p => p.script.sampled p.evaluated) fun _ => rfl,
      hp.asked (fun p => p.script.sample p.evaluated) fun _ => rfl]
    refine (Blind.ofFault _).bind fun t => (blind_setClock t).bind fun _ => ?_
    cases q.script.sample q.evaluated with
    | ok value => exact .pure rfl
    | error message => exact .throw _

theorem blind_wait (k : Nat) (ms : Option Int) : Blind (τ := τ) (wait k ms) :=
  (blind_record _).bind fun _ => .visit (fun _ => by rfl) fun p q hp => by
    rw [hp.asked (fun p => p.script.wait p.waited) fun _ => rfl,
      hp.asked Page.waitsLeft fun _ => rfl,
      hp.asked (fun p => p.script.waited p.waited) fun _ => rfl]
    cases q.script.wait q.waited with
    | interrupted => exact .throw _
    | fails message => exact .throw _
    | passes =>
      dsimp only
      split
      · exact .throw _
      · refine (Blind.given ms).bind fun ms => .get fun u v hw => ?_
        rw [hw.eq World.clock fun _ => rfl]
        exact (Blind.ofFault _).bind fun t => blind_setClock t

theorem blind_clickAt (k : Nat) (x y : Coordinate) : Blind (τ := τ) (clickAt k x y) :=
  (blind_record _).bind fun _ => .visit (fun _ => by rfl) fun p q hp => by
    rw [hp.asked (fun p => p.script.clickFailure p.clicked) fun _ => rfl]
    exact blind_failWith _

def picturing (k : Nat) (path : String) : Check τ Unit := do
  record (.screenshot k path)
  updatePage k fun p => { p with pictured := p.pictured + 1 }

theorem refusal?_screenshot_run (k : Nat) (path : String) (w : World τ) :
    refusal? (screenshot k path) w =
      (.ok ((w.page k).script.screenshotFailure (w.page k).pictured), (picturing k path w).2) := by
  have h : screenshot k path w =
      failWith ((w.page k).script.screenshotFailure (w.page k).pictured) (picturing k path w).2 :=
    rfl
  rw [refusal?, bind_of_ok (attempt_run _ w), h]
  cases (w.page k).script.screenshotFailure (w.page k).pictured <;> rfl

theorem twin_refusal?_screenshot (k : Nat) (path : String) :
    Twin (τ := τ) (fun _ _ => True) (refusal? (screenshot k path))
      (refusal? (screenshot k path)) := by
  intro u v hw
  have hblind : Blind (τ := τ) (picturing k path) :=
    (blind_record _).bind fun _ => blind_updatePage fun _ => by rfl
  rw [refusal?_screenshot_run, refusal?_screenshot_run]
  exact ⟨.ok trivial, (hblind u v hw).2⟩

end Check
end StreamWatch.Browser
