import StreamWatch.Proofs.Report.Writing
import StreamWatch.Proofs.Session.Usage
import StreamWatch.Proofs.Browser.Blindness

/-! The pictures of a run. Its calls tell which were asked for, and the scripts of the pages what
came of them: a picture is answered by the number of those of its page before it. No step but the
taking of pictures asks for one. -/
namespace StreamWatch.Browser

variable {τ α β : Type}

structure Shot where
  page : Nat
  path : String
  failure : Option String
  deriving DecidableEq

def Call.pictures (k : Nat) : Call → Bool
  | .screenshot j _ => j == k
  | _ => false

/-- What comes of the pictures among `calls`, if of each page so many were asked for before. -/
def shotsAmong (scripts : Nat → PageScript τ) (before : Nat → Nat) : List Call → List Shot
  | [] => []
  | .screenshot k path :: r =>
    ⟨k, path, (scripts k).screenshotFailure (before k)⟩ ::
      shotsAmong scripts (fun j => before j + if k = j then 1 else 0) r
  | _ :: r => shotsAmong scripts before r

def World.shots (u v : World τ) : List Shot :=
  shotsAmong (fun k => (v.page k).script) (fun k => (u.page k).pictured)
    (v.calls.drop u.calls.length)

section

variable {scripts scripts' : Nat → PageScript τ} {before : Nat → Nat} {calls more : List Call}

theorem shotsAmong_append (scripts : Nat → PageScript τ) (before : Nat → Nat)
    (calls more : List Call) :
    shotsAmong scripts before (calls ++ more) = shotsAmong scripts before calls ++
      shotsAmong scripts (fun k => before k + calls.countP (·.pictures k)) more := by
  induction calls generalizing before with
  | nil => rfl
  | cons c r ih =>
    cases c with
    | screenshot j path =>
      have hcount (k : Nat) :
          before k + (Call.screenshot j path :: r).countP (·.pictures k) =
            (before k + if j = k then 1 else 0) + r.countP (·.pictures k) := by
        simp only [List.countP_cons, Call.pictures, beq_iff_eq]
        omega
      simp only [List.cons_append, shotsAmong, ih, hcount]
    | _ => simp [shotsAmong, ih, Call.pictures]

theorem shotsAmong_of_unpictured (h : ∀ c ∈ calls, ∀ k, c.pictures k = false) :
    shotsAmong scripts before calls = [] := by
  induction calls generalizing before with
  | nil => rfl
  | cons c r ih =>
    have hrest := @ih before fun d hd => h d (List.mem_cons_of_mem c hd)
    cases c with
    | screenshot j path => simpa [Call.pictures] using h _ List.mem_cons_self j
    | _ => exact hrest

theorem shotsAmong_congr (h : ∀ c ∈ calls, ∀ k, c.pictures k = true → scripts k = scripts' k) :
    shotsAmong scripts before calls = shotsAmong scripts' before calls := by
  induction calls generalizing before with
  | nil => rfl
  | cons c r ih =>
    have hrest (before : Nat → Nat) :=
      @ih before fun d hd => h d (List.mem_cons_of_mem c hd)
    cases c with
    | screenshot j path =>
      have hj := h _ List.mem_cons_self j (by simp [Call.pictures])
      rw [shotsAmong, shotsAmong, hj, hrest]
    | _ => exact hrest before

end

def Page.album (p : Page τ) : PageScript τ × Nat := (p.script, p.pictured)

namespace World

structure Unpictured (u v : World τ) : Prop where
  made : Calling (fun c => ∀ k, c.pictures k = false) u v
  pages : v.pages.length = u.pages.length
  album : ∀ k, (v.page k).album = (u.page k).album

instance : IsPreorder (World τ) Unpictured where
  refl _ := ⟨.of_eq rfl, rfl, fun _ => rfl⟩
  trans _ _ _ h h' := ⟨h.made.trans h'.made, h'.pages.trans h.pages,
    fun k => (h'.album k).trans (h.album k)⟩

structure Album (u : World τ) (shots : List Shot) (n : Nat) (w : World τ) : Prop where
  pages : w.pages.length = n
  made : ∃ made, w.calls = u.calls ++ made ∧
    shotsAmong (fun k => (w.page k).script) (fun k => (u.page k).pictured) made = shots ∧
    (∀ k, (w.page k).pictured = (u.page k).pictured + made.countP (·.pictures k)) ∧
    ∀ c ∈ made, ∀ k, c.pictures k = true → k < n

section

variable {u v w : World τ} {shots : List Shot} {n : Nat}

theorem Album.start (u : World τ) : Album u [] u.pages.length u :=
  ⟨rfl, [], (List.append_nil _).symm, rfl, fun _ => rfl, nofun⟩

theorem Album.shots_eq (h : Album u shots n w) : u.shots w = shots := by
  obtain ⟨-, made, hcalls, hshots, -, -⟩ := h
  rw [World.shots, hcalls, List.drop_left, hshots]

theorem Album.extend (h : Album u shots n v) {m : Nat} (hnm : n ≤ m) (hpages : w.pages.length = m)
    (hmade : Calling (fun c => ∀ k, c.pictures k = false) v w)
    (hscript : ∀ k < n, (w.page k).script = (v.page k).script)
    (hpictured : ∀ k, (w.page k).pictured = (v.page k).pictured) : Album u shots m w := by
  obtain ⟨-, made, hcalls, hshots, htaken, hopen⟩ := h
  obtain ⟨more, hmore, hnone⟩ := hmade
  have hcount (k : Nat) : more.countP (·.pictures k) = 0 :=
    List.countP_eq_zero.mpr fun c hc => by simp [hnone c hc k]
  refine ⟨hpages, made ++ more, by rw [hmore, hcalls, List.append_assoc], ?_, fun k => ?_,
    fun c hc k hk => ?_⟩
  · rw [shotsAmong_append, shotsAmong_of_unpictured hnone, List.append_nil,
      shotsAmong_congr fun c hc k hk => hscript k (hopen c hc k hk), hshots]
  · rw [hpictured, htaken, List.countP_append, hcount, Nat.add_zero]
  · rcases List.mem_append.mp hc with hc | hc
    · exact Nat.lt_of_lt_of_le (hopen c hc k hk) hnm
    · rw [hnone c hc k] at hk
      cases hk

theorem Album.unpictured (h : Album u shots n v) (hv : Unpictured v w) : Album u shots n w :=
  h.extend (Nat.le_refl n) (hv.pages.trans h.pages) hv.made
    (fun k _ => congrArg Prod.fst (hv.album k)) fun k => congrArg Prod.snd (hv.album k)

theorem pictured_addPage (w : World τ) (k : Nat) :
    (w.addPage.page k).pictured = (w.page k).pictured := by
  simp only [World.page, World.addPage, List.getD_eq_getElem?_getD]
  rcases Nat.lt_trichotomy k w.pages.length with hk | rfl | hk
  · rw [List.getElem?_append_left hk]
  · simp [Page.fresh]
  · rw [List.getElem?_eq_none (by simp; omega), List.getElem?_eq_none (by omega)]

theorem Album.addPage (h : Album u shots n v) : Album u shots (n + 1) v.addPage := by
  refine h.extend (Nat.le_succ n) ?_ (.of_eq rfl) (fun k hk => ?_) (pictured_addPage v)
  · rw [← h.pages]
    exact List.length_append ..
  · rw [page_addPage, if_neg (h.pages.symm ▸ Nat.ne_of_lt hk)]

theorem Album.screenshot (h : Album u shots n w) {k : Nat} (hk : k < n) (path : String) :
    Album u (shots ++ [⟨k, path, (w.page k).script.screenshotFailure (w.page k).pictured⟩]) n
      (Check.picturing k path w).2 := by
  obtain ⟨hpages, made, hcalls, hshots, htaken, hopen⟩ := h
  have hopened : k < w.pages.length := hpages.symm ▸ hk
  have hpage (j : Nat) : (Check.picturing k path w).2.page j =
      if j = k ∧ k < w.pages.length then
        { w.page j with pictured := (w.page j).pictured + 1 } else w.page j :=
    page_modify { w with calls := w.calls ++ [.screenshot k path] } k j _
  have hscript (j : Nat) : ((Check.picturing k path w).2.page j).script = (w.page j).script := by
    rw [hpage]
    split <;> rfl
  refine ⟨?_, made ++ [.screenshot k path], ?_, ?_, fun j => ?_, fun c hc j hj => ?_⟩
  · exact (List.length_modify ..).trans hpages
  · rw [← List.append_assoc, ← hcalls]
    rfl
  · simp only [hscript, shotsAmong_append, hshots, shotsAmong, ← htaken]
  · rw [hpage, List.countP_append, ← Nat.add_assoc, ← htaken]
    by_cases hj : j = k
    · subst hj
      simp [hopened, Call.pictures]
    · simp [hj, Ne.symm hj, Call.pictures]
  · rcases List.mem_append.mp hc with hc | hc
    · exact hopen c hc j hj
    · obtain rfl := List.mem_singleton.mp hc
      exact (beq_iff_eq.mp hj) ▸ hk

end

end World

namespace Check

abbrev Plain (act : Check τ α) : Prop := Confined World.Unpictured (fun _ => True) act

section

variable {u : World τ} {shots : List Shot} {n : Nat} {act : Check τ α}

theorem Plain.keeps {E : Halt → World τ → Prop} (ha : Plain act)
    (hE : ∀ h v, World.Album u shots n v → E h v) :
    Meets (World.Album u shots n) act (fun _ => World.Album u shots n) E := by
  intro w hw
  have hv := hw.unpictured (ha.world w)
  generalize act w = r at hv ⊢
  obtain ⟨h | a, v⟩ := r
  · exact hE h v hv
  · exact hv

theorem Plain.meets (ha : Plain act) :
    Meets (World.Album u shots n) act (fun _ => World.Album u shots n) (fun _ _ => True) :=
  ha.keeps fun _ _ _ => trivial

end

theorem plain_record {c : Call} (hc : ∀ k, c.pictures k = false) : Plain (τ := τ) (record c) :=
  .modify fun w => ⟨.record w hc, rfl, fun _ => rfl⟩

theorem plain_updatePage (k : Nat) {f : Page τ → Page τ} (hf : ∀ p, (f p).album = p.album) :
    Plain (updatePage k f) :=
  .modify fun w => ⟨.of_eq rfl, List.length_modify .., fun j => by
    rw [World.page_modify]
    split
    · exact hf _
    · rfl⟩

theorem plain_ofFault (r : Except Fault α) : Plain (τ := τ) (ofFault r) :=
  .ofFault (fun _ => trivial) r

theorem plain_given (a : Option α) : Plain (τ := τ) (given a) := plain_ofFault _

theorem plain_failWith (failure : Option String) : Plain (τ := τ) (failWith failure) :=
  .failWith (fun _ => trivial) failure

theorem plain_log (level : Console.Level) (channel : Console.Channel) (message : String) :
    Plain (τ := τ) (log level channel message) := by
  refine .modify fun w => ?_
  split
  · exact ⟨.of_eq rfl, rfl, fun _ => rfl⟩
  · exact refl_of World.Unpictured w

theorem plain_print (line : String) : Plain (τ := τ) (print line) :=
  .modify fun _ => ⟨.of_eq rfl, rfl, fun _ => rfl⟩

theorem plain_say (tone : Console.Tone) (message : String) : Plain (τ := τ) (say tone message) :=
  Confined.get.bind fun _ => (plain_ofFault _).bind fun _ => plain_print _

theorem plain_timestamp : Plain (τ := τ) timestamp := by
  refine Confined.get.bind fun w => ?_
  cases w.now with
  | none => exact .throw trivial
  | some now =>
    exact (Confined.modify fun _ => ⟨.of_eq rfl, rfl, fun _ => rfl⟩).bind fun _ => .pure _

theorem plain_makeDirectory (p : Report.Path) : Plain (τ := τ) (makeDirectory p) := by
  refine ⟨fun w => ?_, fun _ _ _ => trivial⟩
  rw [makeDirectory_run]
  exact ⟨.of_eq rfl, rfl, fun _ => rfl⟩

theorem plain_writeFile (p : Report.Path) (text : String) : Plain (τ := τ) (writeFile p text) :=
  Confined.get.bind fun _ => (plain_ofFault _).bind fun _ =>
    .modify fun _ => ⟨.of_eq rfl, rfl, fun _ => rfl⟩

theorem plain_closeContext (context : Nat) : Plain (τ := τ) (closeContext context) :=
  plain_record fun _ => rfl

theorem plain_setClock (t : τ) : Plain (setClock t) :=
  .modify fun _ => ⟨.of_eq rfl, rfl, fun _ => rfl⟩

theorem plain_goto (k : Nat) (address : String) (timeoutMs : Int) :
    Plain (τ := τ) (goto k address timeoutMs) :=
  (plain_record fun _ => rfl).bind fun _ => (Confined.page k).bind fun _ =>
    (plain_updatePage k fun _ => by rfl).bind fun _ => (plain_failWith _).bind fun _ =>
    plain_updatePage k fun _ => by rfl

theorem plain_evaluate (k : Nat) : Plain (τ := τ) (evaluate k) := by
  refine (plain_record fun _ => rfl).bind fun _ => (Confined.page k).bind fun p =>
    (plain_updatePage k fun _ => by rfl).bind fun _ => Confined.get.bind fun w =>
    (plain_ofFault _).bind fun t => (plain_setClock t).bind fun _ => ?_
  cases p.script.sample p.evaluated with
  | ok v => exact .pure v
  | error message => exact .throw trivial

theorem plain_wait (k : Nat) (ms : Option Int) : Plain (τ := τ) (wait k ms) := by
  refine (plain_record fun _ => rfl).bind fun _ => (Confined.page k).bind fun p =>
    (plain_updatePage k fun _ => by rfl).bind fun _ => ?_
  cases p.script.wait p.waited with
  | interrupted => exact .throw trivial
  | fails message => exact .throw trivial
  | passes =>
    by_cases hl : p.waitsLeft = 0
    · simp only [if_pos hl]
      exact .throw trivial
    · simp only [if_neg hl]
      exact (plain_given ms).bind fun _ => Confined.get.bind fun _ =>
        (plain_ofFault _).bind plain_setClock

theorem plain_clickAt (k : Nat) (x y : Coordinate) : Plain (τ := τ) (clickAt k x y) :=
  (plain_record fun _ => rfl).bind fun _ => (Confined.page k).bind fun _ =>
    (plain_updatePage k fun _ => by rfl).bind fun _ => plain_failWith _

end Check
end Browser

namespace Session

open Browser (Check Shot World)
open Browser.Check (Confined Meets Plain)

variable {τ : Type}

theorem plain_launchChromium (headless fakeMedia : Bool) :
    Plain (τ := τ) (launchChromium headless fakeMedia) :=
  (Check.plain_log _ _ _).bind fun _ => (Check.plain_record fun _ => rfl).bind fun _ =>
    Confined.get.bind fun _ => (Check.plain_failWith _).bind fun _ => Confined.get.bind fun _ =>
    (Confined.modify fun _ => ⟨.of_eq rfl, rfl, fun _ => rfl⟩).bind fun _ => .pure _

theorem plain_navigate (page : Nat) (address : String) (timeoutMs : Int) :
    Plain (τ := τ) (navigate page address timeoutMs) := by
  refine (Check.plain_goto page address timeoutMs).refusal?.bind fun failure => ?_
  cases failure with
  | some message => exact (Check.plain_log _ _ _).bind fun _ => .pure _
  | none => exact (Check.plain_log _ _ _).bind fun _ => .pure _

theorem plain_openLink (page : Nat) (address : String) :
    Plain (τ := τ) (openLink page address) := by
  refine (plain_navigate page address navigationTimeoutMs).bind fun failure => ?_
  cases failure with
  | some reason => exact .throw trivial
  | none => exact .pure ()

theorem plain_nudge (page : Nat) : Plain (τ := τ) (nudge page) :=
  (Confined.page page).bind fun _ => (Check.plain_ofFault _).bind fun (x, y) =>
    Check.plain_clickAt page x y

theorem plain_collect (page : Nat) : Plain (τ := τ) (collect page) :=
  (Check.plain_evaluate page).bind fun _ => (Check.plain_ofFault _).bind fun _ =>
    ((Check.plain_ofFault _).bind fun _ =>
      (Confined.forEach (fun _ => Check.plain_log _ _ _) _).bind fun _ =>
      Check.plain_log _ _ _).bind fun _ => .pure _

theorem plain_collectPair (page : Nat) (gapMs : Option Int) :
    Plain (τ := τ) (collectPair page gapMs) :=
  (plain_collect page).bind fun _ => (Check.plain_wait page gapMs).bind fun _ =>
    (plain_collect page).bind fun _ => .pure _

section

variable {u : World τ} {shots : List Shot} {n : Nat} {E : Halt → World τ → Prop}

theorem meets_openPage (hE : ∀ h v m, World.Album u shots m v → E h v) (browser : Nat)
    (publisher : Bool) :
    Meets (World.Album u shots n) (openPage browser publisher true)
      (fun opened v => opened.2 = n ∧ World.Album u shots (n + 1) v) E := by
  intro w hw
  have hcontext : World.Album u shots n (w.calling (.newContext browser w.contexts publisher)) :=
    hw.unpictured ⟨.record w fun _ => rfl, rfl, fun _ => rfl⟩
  have hpage : World.Album u shots n ((w.addingContext browser publisher).calling
      (.newPage w.contexts w.pages.length)) :=
    hcontext.unpictured ⟨.record _ fun _ => rfl, rfl, fun _ => rfl⟩
  have hcollect : World.Album u shots (n + 1) (((w.addingContext browser publisher).addingPage
      w.contexts).calling (.collectInPage w.pages.length)) :=
    hpage.addPage.unpictured ⟨.record _ fun _ => rfl, rfl, fun _ => rfl⟩
  rw [openPage_run]
  split
  · exact hE _ _ _ hcontext
  · exact hE _ _ _ hpage
  · exact hE _ _ _ hcollect
  · exact ⟨hw.pages, hcollect⟩

theorem meets_takeScreenshot {page : Nat} (hpage : page < n) (path : String) :
    Meets (World.Album u shots n) (takeScreenshot page path)
      (fun failure => World.Album u (shots ++ [⟨page, path, failure⟩]) n) E := by
  have hshot : Meets (World.Album u shots n) (Check.refusal? (Check.screenshot page path))
      (fun failure => World.Album u (shots ++ [⟨page, path, failure⟩]) n) E := by
    intro w hw
    rw [Check.refusal?_screenshot_run]
    exact hw.screenshot hpage path
  have hlog (level : Console.Level) (channel : Console.Channel) (message : String)
      (shots : List Shot) : Meets (World.Album u shots n) (Check.log level channel message)
        (fun _ => World.Album u shots n) E := by
    intro w hw
    have hv := hw.unpictured ((Check.plain_log level channel message).world w)
    obtain ⟨lines, hl⟩ := Check.log_run level channel message w
    rw [hl] at hv ⊢
    exact hv
  refine hshot.bind fun failure => ?_
  cases failure with
  | some message => exact (hlog _ _ _ _).bind fun _ => .pure fun _ hv => hv
  | none => exact (hlog _ _ _ _).bind fun _ => .pure fun _ hv => hv

end

end Session

theorem Report.plain_write {τ : Type} (payload : Json.Value) (path : Report.Path) (echo : Bool) :
    Browser.Check.Plain (τ := τ) (Report.write payload path echo) := by
  refine (Browser.Check.plain_makeDirectory _).bind fun _ =>
    (Browser.Check.plain_ofFault _).bind fun _ => (Browser.Check.plain_writeFile _ _).bind fun _ =>
    (Browser.Check.plain_log _ _ _).bind fun _ => ?_
  split
  · exact Browser.Check.plain_print _
  · exact .pure ()

theorem Report.plain_host {τ : Type} : Browser.Check.Plain (τ := τ) Report.host :=
  Browser.Check.Confined.get.bind fun _ => .pure _

end StreamWatch
