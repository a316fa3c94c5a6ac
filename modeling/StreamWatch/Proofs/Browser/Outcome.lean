import StreamWatch.Browser.Check

/-! What a check comes to: run from a world, it has an outcome and leaves a world. The primitive
steps are told as equations, so that a proof about a check follows its steps without opening the
monad that it is written in. -/
namespace StreamWatch.Browser

variable {τ α β : Type}

namespace World

def evaluating (w : World τ) (k : Nat) : World τ :=
  { w with
    calls := w.calls ++ [.evaluate k]
    pages := w.pages.modify k fun p => { p with evaluated := p.evaluated + 1 } }

def waiting (w : World τ) (k : Nat) (ms : Option Int) : World τ :=
  { w with
    calls := w.calls ++ [.wait k ms]
    pages := w.pages.modify k fun p => { p with waited := p.waited + 1 } }

def opening (w : World τ) (k : Nat) (address : String) (timeoutMs : Int) : World τ :=
  { w with
    calls := w.calls ++ [.goto k address timeoutMs]
    pages := w.pages.modify k fun p => { p with opened := p.opened + 1 } }

def reloading (w : World τ) (k : Nat) (timeoutMs : Int) : World τ :=
  { w with
    calls := w.calls ++ [.reload k timeoutMs]
    pages := w.pages.modify k fun p => { p with reloaded := p.reloaded + 1 } }

def calling (w : World τ) (c : Call) : World τ := { w with calls := w.calls ++ [c] }

def addingContext (w : World τ) (browser : Nat) (publisher : Bool) : World τ :=
  { w with
    calls := w.calls ++ [.newContext browser w.contexts publisher]
    contexts := w.contexts + 1 }

def addingPage (w : World τ) (context : Nat) : World τ :=
  (w.calling (.newPage context w.pages.length)).addPage

@[simp] theorem openings_addingContext (w : World τ) (browser : Nat) (publisher : Bool) :
    (w.addingContext browser publisher).openings = w.openings := rfl

@[simp] theorem pages_addingContext (w : World τ) (browser : Nat) (publisher : Bool) :
    (w.addingContext browser publisher).pages = w.pages := rfl

@[simp] theorem openings_addingPage (w : World τ) (context : Nat) :
    (w.addingPage context).openings = w.openings := rfl

theorem page_modify (w : World τ) (k j : Nat) (f : Page τ → Page τ) :
    (w.updatePage k f).page j =
      if j = k ∧ k < w.pages.length then f (w.page j) else w.page j := by
  simp only [page, updatePage, List.getD_eq_getElem?_getD, List.getElem?_modify]
  by_cases hk : k = j
  · subst hk
    by_cases hl : k < w.pages.length
    · simp [hl]
    · simp [hl]
  · simp [hk, Ne.symm hk]

theorem script_updatePage (w : World τ) (k j : Nat) {f : Page τ → Page τ}
    (hf : ∀ p, (f p).script = p.script) :
    ((w.updatePage k f).page j).script = (w.page j).script := by
  rw [page_modify]
  split
  · exact hf _
  · rfl

theorem script_evaluating (w : World τ) (k j : Nat) :
    ((w.evaluating k).page j).script = (w.page j).script :=
  script_updatePage w k j fun _ => rfl

theorem script_waiting (w : World τ) (k : Nat) (ms : Option Int) (j : Nat) :
    ((w.waiting k ms).page j).script = (w.page j).script :=
  script_updatePage w k j fun _ => rfl

@[simp] theorem waitsLeft_evaluating (w : World τ) (k j : Nat) :
    ((w.evaluating k).page j).waitsLeft = (w.page j).waitsLeft := by
  have h := page_modify w k j fun p => { p with evaluated := p.evaluated + 1 }
  change ((w.updatePage k _).page j).waitsLeft = _
  rw [h]
  split <;> rfl

theorem waitsLeft_waiting (w : World τ) {k : Nat} (ms : Option Int) (hk : k < w.pages.length) :
    ((w.waiting k ms).page k).waitsLeft = (w.page k).waitsLeft - 1 := by
  have h := page_modify w k k fun p => { p with waited := p.waited + 1 }
  change ((w.updatePage k _).page k).waitsLeft = _
  rw [h, if_pos ⟨rfl, hk⟩, Page.waitsLeft, Page.waitsLeft, Nat.sub_add_eq]

end World

namespace Check

variable {act : Check τ α} {k : α → Check τ β} {w v : World τ}

theorem run_of_toOption {a : α} (h : (act w).1.toOption = some a) :
    act w = (.ok a, (act w).2) := by
  generalize act w = r at h ⊢
  obtain ⟨e | b, v⟩ := r
  · cases h
  · cases h
    rfl

theorem bind_run (act : Check τ α) (k : α → Check τ β) (w : World τ) :
    (act >>= k) w = match act w with
      | (.ok a, v) => k a v
      | (.error h, v) => (.error h, v) := by
  change ExceptT.bindCont k (act w).1 (act w).2 = _
  rcases act w with ⟨_ | _, v⟩ <;> rfl

theorem bind_of_ok {a : α} (h : act w = (.ok a, v)) : (act >>= k) w = k a v := by
  rw [bind_run, h]

theorem bind_of_error {e : Halt} (h : act w = (.error e, v)) :
    (act >>= k) w = (.error e, v) := by
  rw [bind_run, h]

theorem bind_ok {b : β} (h : (act >>= k) w = (.ok b, v)) :
    ∃ a u, act w = (.ok a, u) ∧ k a u = (.ok b, v) := by
  rw [bind_run] at h
  generalize act w = r at h
  obtain ⟨e | a, u⟩ := r
  · cases h
  · exact ⟨a, u, rfl, h⟩

theorem ofFault_ok (a : α) (w : World τ) : (ofFault (.ok a) : Check τ α) w = (.ok a, w) := rfl

theorem ofFault_error (f : Fault) (w : World τ) :
    (ofFault (.error f) : Check τ α) w = (.error (.fault f), w) := rfl

theorem ok_of_ofFault {r : Except Fault α} {a : α} (h : ofFault r w = (.ok a, v)) :
    r = .ok a ∧ v = w := by
  cases r with
  | error f => cases h
  | ok b =>
    cases h
    exact ⟨rfl, rfl⟩

theorem print_run (line : String) (w : World τ) :
    print line w = (.ok (), { w with printed := w.printed ++ line ++ "\n" }) := rfl

theorem say_run (tone : Console.Tone) (message : String) (w : World τ) :
    say tone message w = (ofFault (Console.toneLine w.terminal tone message) >>= print) w := rfl

theorem say_ok {tone : Console.Tone} {message : String} (h : say tone message w = (.ok (), v)) :
    ∃ printed, v = { w with printed } := by
  rw [say_run] at h
  obtain ⟨line, u, hline, hprint⟩ := bind_ok h
  obtain ⟨-, rfl⟩ := ok_of_ofFault hline
  rw [print_run] at hprint
  exact ⟨_, (congrArg Prod.snd hprint).symm⟩

theorem ok_of_given {b : Option α} {a : α} (h : given b w = (.ok a, v)) : b = some a := by
  cases b with
  | none => cases h
  | some a' =>
    cases h
    rfl

theorem given_some (a : α) (w : World τ) : given (some a) w = (.ok a, w) := rfl

theorem given_none (w : World τ) :
    (given none : Check τ α) w = (.error (.fault .wrongKind), w) := rfl

theorem attempt_run (act : Check τ α) (w : World τ) :
    attempt act w = (.ok (act w).1, (act w).2) := rfl

theorem refusal?_world (act : Check τ Unit) (w : World τ) : (refusal? act w).2 = (act w).2 := by
  rw [refusal?, bind_of_ok (attempt_run act w)]
  generalize act w = r
  obtain ⟨h | _, v⟩ := r
  · cases h <;> rfl
  · rfl

theorem ok_of_refusal? {act : Check τ Unit} (h : refusal? act w = (.ok none, v)) :
    act w = (.ok (), v) := by
  rw [refusal?, bind_of_ok (attempt_run act w)] at h
  generalize act w = r at h ⊢
  obtain ⟨e | _, u⟩ := r
  · cases e <;> cases h
  · cases h
    rfl

theorem ensuring_ok {cleanUp : Check τ Unit} {a : α}
    (h : ensuring act cleanUp w = (.ok a, v)) :
    ∃ u, act w = (.ok a, u) ∧ cleanUp u = (.ok (), v) := by
  rw [ensuring, bind_of_ok (attempt_run act w)] at h
  obtain ⟨_, u, hclean, h⟩ := bind_ok h
  generalize act w = r at h hclean ⊢
  obtain ⟨e | b, x⟩ := r
  · cases h
  · cases h
    exact ⟨x, rfl, hclean⟩

theorem ofExcept_run (r : Except Halt α) (w : World τ) : ofExcept r w = (r, w) := by
  cases r <;> rfl

/-- A clean-up that never halts leaves the outcome as it was. -/
theorem ensuring_run {cleanUp : Check τ Unit} {f : World τ → World τ}
    (hclean : ∀ u, cleanUp u = (.ok (), f u)) (act : Check τ α) (w : World τ) :
    ensuring act cleanUp w = ((act w).1, f (act w).2) := by
  rw [ensuring, bind_of_ok (attempt_run act w), bind_of_ok (hclean _), ofExcept_run]

theorem timestamp_run {now : Report.Instant} (h : w.now = some now) :
    timestamp w = (.ok now.text, { w with now := now.nextSecond? }) := by
  obtain ⟨⟩ := w
  cases h
  rfl

theorem closeBrowser_run (browser : Nat) (w : World τ) :
    closeBrowser browser w = (.ok (), { w with calls := w.calls ++ [.closeBrowser browser] }) :=
  rfl

theorem log_run (level : Console.Level) (channel : Console.Channel) (message : String)
    (w : World τ) : ∃ lines, log level channel message w = (.ok (), { w with log := lines }) := by
  by_cases h : w.logging.shows level
  · refine ⟨w.log ++ [⟨level, channel, message⟩], ?_⟩
    change (_, if _ then _ else _) = _
    rw [if_pos h]
  · refine ⟨w.log, ?_⟩
    change (_, if _ then _ else _) = _
    rw [if_neg h]

theorem log_ok {level : Console.Level} {channel : Console.Channel} {message : String}
    (h : log level channel message w = (.ok (), v)) : ∃ lines, v = { w with log := lines } := by
  obtain ⟨lines, hlines⟩ := log_run level channel message w
  rw [hlines] at h
  exact ⟨lines, (congrArg Prod.snd h).symm⟩

theorem forEach_log_run (level : Console.Level) (channel : Console.Channel) (text : α → String)
    (items : List α) (w : World τ) :
    ∃ lines, forEach (fun a => log level channel (text a)) items w =
      (.ok (), { w with log := lines }) := by
  induction items generalizing w with
  | nil => exact ⟨w.log, rfl⟩
  | cons a r ih =>
    obtain ⟨lines, h⟩ := log_run level channel (text a) w
    obtain ⟨more, hr⟩ := ih { w with log := lines }
    refine ⟨more, ?_⟩
    rw [forEach, bind_of_ok h, hr]

theorem newContext_run (browser : Nat) (publisher : Bool) (w : World τ) :
    newContext browser publisher w =
      match w.openings.context w.contexts with
      | some message =>
        (.error (.browser message), w.calling (.newContext browser w.contexts publisher))
      | none => (.ok w.contexts, w.addingContext browser publisher) := by
  have h : newContext browser publisher w =
      (failWith (w.openings.context w.contexts) >>= fun _ =>
        (modify fun v => { v with contexts := w.contexts + 1 }) >>= fun _ => pure w.contexts :
        Check τ Nat) (w.calling (.newContext browser w.contexts publisher)) := rfl
  rw [h]
  cases w.openings.context w.contexts <;> rfl

theorem newPage_run (context : Nat) (w : World τ) :
    newPage context w =
      match w.openings.page w.pages.length with
      | some message =>
        (.error (.browser message), w.calling (.newPage context w.pages.length))
      | none => (.ok w.pages.length, w.addingPage context) := by
  have h : newPage context w = (failWith (w.openings.page w.pages.length) >>= fun _ => addPage)
      (w.calling (.newPage context w.pages.length)) := rfl
  rw [h]
  cases w.openings.page w.pages.length <;> rfl

theorem collectInPage_run (page : Nat) (w : World τ) :
    collectInPage page w =
      match w.openings.collectInPage page with
      | some message => (.error (.browser message), w.calling (.collectInPage page))
      | none => (.ok (), w.calling (.collectInPage page)) := by
  have h : collectInPage page w =
      failWith (w.openings.collectInPage page) (w.calling (.collectInPage page)) := rfl
  rw [h]
  cases w.openings.collectInPage page <;> rfl

theorem evaluate_run (k : Nat) (w : World τ) :
    evaluate k w =
      match (w.page k).script.sampled (w.page k).evaluated w.clock with
      | .error f => (.error (.fault f), w.evaluating k)
      | .ok t =>
        match (w.page k).script.sample (w.page k).evaluated with
        | .ok value => (.ok value, { w.evaluating k with clock := t })
        | .error message => (.error (.browser message), { w.evaluating k with clock := t }) := by
  have h : evaluate k w =
      (ofFault ((w.page k).script.sampled (w.page k).evaluated w.clock) >>= fun t =>
        setClock t >>= fun _ =>
          match (w.page k).script.sample (w.page k).evaluated with
          | .ok value => pure value
          | .error message => throw (.browser message)) (w.evaluating k) := rfl
  rw [h]
  cases (w.page k).script.sampled (w.page k).evaluated w.clock with
  | error f => rfl
  | ok t =>
    cases (w.page k).script.sample (w.page k).evaluated with
    | error message => rfl
    | ok value => rfl

theorem wait_run (k : Nat) (ms : Int) (w : World τ) :
    wait k (some ms) w =
      match (w.page k).script.wait (w.page k).waited with
      | .interrupted => (.error .interrupted, w.waiting k (some ms))
      | .fails message => (.error (.browser message), w.waiting k (some ms))
      | .passes =>
        if (w.page k).waitsLeft = 0 then
          (.error (.browser waitLimitReached), w.waiting k (some ms))
        else
          match (w.page k).script.waited (w.page k).waited ms w.clock with
          | .error f => (.error (.fault f), w.waiting k (some ms))
          | .ok t => (.ok (), { w.waiting k (some ms) with clock := t }) := by
  have h : wait k (some ms) w =
      (match (w.page k).script.wait (w.page k).waited with
        | .interrupted => throw .interrupted
        | .fails message => throw (.browser message)
        | .passes => do
          if (w.page k).waitsLeft = 0 then throw (.browser waitLimitReached)
          else setClock (← ofFault ((w.page k).script.waited (w.page k).waited
            (← given (some ms)) (← get).clock)) :
        Check τ Unit) (w.waiting k (some ms)) := rfl
  rw [h]
  cases (w.page k).script.wait (w.page k).waited with
  | interrupted => rfl
  | fails message => rfl
  | passes =>
    by_cases hl : (w.page k).waitsLeft = 0
    · simp only [if_pos hl]
      rfl
    · simp only [if_neg hl]
      change (ofFault ((w.page k).script.waited (w.page k).waited ms w.clock) >>= setClock)
        (w.waiting k (some ms)) = _
      cases (w.page k).script.waited (w.page k).waited ms w.clock with
      | error f => rfl
      | ok t => rfl

theorem goto_run (k : Nat) (address : String) (timeoutMs : Int) (w : World τ) :
    goto k address timeoutMs w =
      match (w.page k).script.openFailure (w.page k).opened with
      | some message => (.error (.browser message), w.opening k address timeoutMs)
      | none =>
        (.ok (), (w.opening k address timeoutMs).updatePage k fun p => { p with address }) := by
  have h : goto k address timeoutMs w =
      (failWith ((w.page k).script.openFailure (w.page k).opened) >>= fun _ =>
        updatePage k fun p => { p with address }) (w.opening k address timeoutMs) := rfl
  rw [h]
  cases (w.page k).script.openFailure (w.page k).opened with
  | none => rfl
  | some message => rfl

theorem reload_run (k : Nat) (timeoutMs : Int) (w : World τ) :
    reload k timeoutMs w =
      match (w.page k).script.reloadFailure (w.page k).reloaded with
      | some message => (.error (.browser message), w.reloading k timeoutMs)
      | none => (.ok (), w.reloading k timeoutMs) := by
  have h : reload k timeoutMs w =
      failWith ((w.page k).script.reloadFailure (w.page k).reloaded)
        (w.reloading k timeoutMs) := rfl
  rw [h]
  cases (w.page k).script.reloadFailure (w.page k).reloaded with
  | none => rfl
  | some message => rfl

end Check
end StreamWatch.Browser
