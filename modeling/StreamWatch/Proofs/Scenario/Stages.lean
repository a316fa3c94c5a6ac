import StreamWatch.Proofs.Scenario.Course

/-! The stages of a scenario. They consist of parts, each of which is one step of the course whether
it ends well or halts, and a halt that a report follows leaves a progress that is settled. -/
namespace StreamWatch.Scenario

open Browser (Call Check Page Timeline World)
open Browser.Check (Advances Works)
open Browser.World (Called Visited)

variable {τ α β : Type}

namespace Staged

theorem bind_run (act : Staged τ α) (k : α → Staged τ β) (p : Progress) (w : World τ) :
    (act >>= k) p w = match act p w with
      | ((.ok a, q), v) => k a q v
      | ((.error h, q), v) => ((.error h, q), v) := by
  change (match act p w with | ((a, q), v) => ExceptT.bindCont k a q v) = _
  rcases act p w with ⟨⟨_ | _, q⟩, v⟩ <;> rfl

theorem onWorld_run (act : Check τ α) (p : Progress) (w : World τ) :
    (onWorld act : Staged τ α) p w = (((act w).1, p), (act w).2) := rfl

theorem enter_run (s : Scenario) (state : State) (p : Progress) (w : World τ) :
    ∃ lines, s.enter state p w = ((.ok (), p.enter state), { w with log := lines }) := by
  obtain ⟨lines, hl⟩ := Check.log_run .info .scenario
    s!"{s.label}: {p.state.name} -> {state.name}" w
  have h : s.enter state p w =
      (onWorld (Check.log .info .scenario s!"{s.label}: {p.state.name} -> {state.name}") >>=
        fun _ => modifyThe Progress (·.enter state)) p w := rfl
  refine ⟨lines, ?_⟩
  rw [h, bind_run, onWorld_run, hl]
  rfl

def Keeps (R : Progress × World τ → Progress × World τ → Prop) (act : Staged τ α) : Prop :=
  ∀ p w, R (p, w) ((act p w).1.2, (act p w).2)

section

variable {R : Progress × World τ → Progress × World τ → Prop}

theorem Keeps.of_run {act : Staged τ α} {p q : Progress} {w v : World τ} {r : Except Halt α}
    (ha : Keeps R act) (h : act p w = ((r, q), v)) : R (p, w) (q, v) := by
  have hw := ha p w
  rwa [h] at hw

variable [IsPreorder (Progress × World τ) R]

theorem Keeps.bind {act : Staged τ α} {k : α → Staged τ β} (ha : Keeps R act)
    (hk : ∀ a, Keeps R (k a)) : Keeps R (act >>= k) := by
  intro p w
  have hp := ha p w
  rw [Staged.bind_run]
  generalize act p w = r at hp ⊢
  obtain ⟨⟨e | a, q⟩, v⟩ := r
  · exact hp
  · exact trans_of R hp (hk a q v)

theorem Keeps.pure (a : α) : Keeps R (Pure.pure a) := fun p w => refl_of R (p, w)

theorem Keeps.throw (h : Halt) : Keeps R (MonadExcept.throw h : Staged τ α) :=
  fun p w => refl_of R (p, w)

end

end Staged

/-- Its state is one of `states`, it was judged as often as it was live but for `ahead` times, and
it was not reloaded yet if it is `fresh`. -/
structure Stage (states : List State) (ahead : Nat) (fresh : Bool) (p : Progress) : Prop where
  state : p.state ∈ states
  count : p.transitions.count .live = p.rounds.length + ahead
  reloaded : fresh = true → .reloaded ∉ p.transitions

structure Settled (p : Progress) : Prop where
  state : p.state = .live ∨ p.state = .timedOut
  count : p.transitions.count .live = p.rounds.length

theorem Stage.widen {states more : List State} {ahead : Nat} {fresh : Bool} {p : Progress}
    (hp : Stage states ahead fresh p) (hs : states ⊆ more) : Stage more ahead fresh p :=
  ⟨hs hp.state, hp.count, hp.reloaded⟩

theorem Stage.settled {states : List State} {fresh : Bool} {p : Progress}
    (hp : Stage states 0 fresh p) (hs : ∀ a ∈ states, a = .live ∨ a = .timedOut) : Settled p :=
  ⟨hs p.state hp.state, hp.count⟩

theorem Stage.enter {states : List State} {ahead : Nat} {fresh : Bool} {p : Progress}
    {state : State} (hp : Stage states ahead fresh p) (hl : state ≠ .live)
    (hr : state ≠ .reloaded) : Stage [state] ahead fresh (p.enter state) where
  state := List.mem_singleton_self _
  count := by
    rw [Progress.enter, List.count_append, List.count_singleton, if_neg (by simpa using hl)]
    exact hp.count
  reloaded hf := by
    rw [Progress.enter, List.mem_append, List.mem_singleton, not_or]
    exact ⟨hp.reloaded hf, hr.symm⟩

theorem Stage.enter_live {states : List State} {ahead : Nat} {fresh : Bool} {p : Progress}
    (hp : Stage states ahead fresh p) : Stage [.live] (ahead + 1) fresh (p.enter .live) where
  state := List.mem_singleton_self _
  count := by
    rw [Progress.enter, List.count_append, List.count_singleton_self, hp.count]
    rfl
  reloaded hf := by
    rw [Progress.enter, List.mem_append, List.mem_singleton, not_or]
    exact ⟨hp.reloaded hf, by decide⟩

theorem Stage.enter_reloaded {states : List State} {ahead : Nat} {fresh : Bool} {p : Progress}
    (hp : Stage states ahead fresh p) : Stage [.reloaded] ahead false (p.enter .reloaded) where
  state := List.mem_singleton_self _
  count := by
    rw [Progress.enter, List.count_append, List.count_singleton, if_neg (by decide)]
    exact hp.count
  reloaded hf := by cases hf

theorem stays_sampleViewers (s : Scenario) : Check.Stays (τ := τ) s.sampleViewers := by
  refine (Check.Confined.each Session.stays_collect _).bind fun befores => ?_
  cases s.viewers with
  | nil => exact (Check.Confined.throw (R := World.Quiet) (E := Halt.Abrupt)
      (h := .fault .outsideList) rfl).bind fun _ =>
      (Check.Confined.each Session.stays_collect _).bind fun _ => .pure _
  | cons first more =>
    exact (Check.stays_wait first _).bind fun _ =>
      (Check.Confined.each Session.stays_collect _).bind fun _ => .pure _

theorem works_reloadViewer (page : Nat) : Works (τ := τ) (reloadViewer page) := by
  refine (Session.works_reload page _).bind fun failure => ?_
  cases failure with
  | some reason => exact (Check.Confined.page page).bind fun _ => .throw rfl
  | none => exact (Session.stays_nudge page).works

theorem visited_of_reloadViewer {page : Nat} {w v : World τ}
    (h : reloadViewer page w = (.ok (), v)) :
    Visited Page.lastReload (.reload page Session.navigationTimeoutMs) page w v := by
  obtain ⟨failure, u, hu, hv⟩ := Check.bind_ok h
  cases failure with
  | some reason =>
    obtain ⟨p, _, -, hv⟩ := Check.bind_ok hv
    cases hv
  | none =>
    exact (Session.visited_of_reload hu).quiet Page.lastReload_of_visits
      ((Session.stays_nudge page).of_run hv)

def interact (s : Scenario) : Staged τ Unit := do
  if (← getThe Progress).click.any Session.Click.attempted then s.enter .interacted

def startParts (s : Scenario) (startupWaitMs settleMs : Option Int) : List (Staged τ Unit) := [
  do
    let click ← onWorld
      (Session.startPublisher s.publisher s.config.pushLink startupWaitMs settleMs)
    modifyThe Progress fun p => { p with click := some click },
  onWorld (Check.forEach (Session.openViewer · s.config.viewLink) s.viewers),
  s.enter .navigated,
  s.interact]

def await [Timeline τ] (s : Scenario) : Staged τ Unit := do
  match ← onWorld (Check.attempt (Poll.untilLiveWithin s.limits s.settings s.label s.viewers)) with
  | .ok _ => s.enter .live
  | .error (.notLive label timeoutMs last) =>
    s.enter .timedOut
    throw (.notLive label timeoutMs last)
  | .error h => throw h

def pollParts [Timeline τ] (s : Scenario) : List (Staged τ Unit) := [s.enter .polling, s.await]

def reloadParts (s : Scenario) : List (Staged τ Unit) :=
  [onWorld (Check.forEach reloadViewer s.viewers), s.enter .reloaded]

namespace Staged

def discard (act : Staged τ α) : Staged τ Unit := do
  let _ ← act

def inOrder : List (Staged τ Unit) → Staged τ Unit
  | [] => pure ()
  | act :: rest => do
    act
    inOrder rest

def through : List (Staged τ Unit) → Point τ → List (Point τ)
  | [], a => [a]
  | act :: rest, a =>
    match act a.progress a.world with
    | ((.ok _, p), w) => a :: through rest ⟨p, w⟩
    | ((.error _, p), w) => [a, ⟨p, w⟩]

def after (act : Staged τ α) (a : Point τ) : Point τ :=
  ⟨(act a.progress a.world).1.2, (act a.progress a.world).2⟩

theorem inOrder_append (acts more : List (Staged τ Unit)) :
    inOrder (acts ++ more) = inOrder acts >>= fun _ => inOrder more := by
  induction acts with
  | nil => rw [List.nil_append, inOrder, pure_bind]
  | cons act rest ih => rw [List.cons_append, inOrder, inOrder, ih, bind_assoc]

theorem head?_through (acts : List (Staged τ Unit)) (a : Point τ) :
    (through acts a).head? = some a := by
  cases acts with
  | nil => rfl
  | cons act rest =>
    rw [through]
    split <;> rfl

theorem getLast?_through (acts : List (Staged τ Unit)) (a : Point τ) :
    (through acts a).getLast? = some ((inOrder acts).after a) := by
  induction acts generalizing a with
  | nil => rfl
  | cons act rest ih =>
    rw [through, after, inOrder, bind_run]
    rcases act a.progress a.world with ⟨⟨e | _, p⟩, w⟩
    · rfl
    · dsimp only
      rw [List.getLast?_cons, ih]
      rfl

end Staged

theorem interact_run (s : Scenario) {p : Progress} {click : Session.Click}
    (h : p.click = some click) (w : World τ) :
    s.interact p w =
      (if click.attempted then s.enter .interacted else pure () : Staged τ Unit) p w := by
  have hrun : s.interact p w =
      (if p.click.any Session.Click.attempted then s.enter .interacted else pure () :
        Staged τ Unit) p w := rfl
  rw [hrun, h]
  rfl

theorem inOrder_startParts (s : Scenario) (startupWaitMs settleMs : Option Int) :
    Staged.inOrder (τ := τ) (s.startParts startupWaitMs settleMs) =
      s.start startupWaitMs settleMs := by
  simp only [startParts, Staged.inOrder, start, bind_assoc, bind_pure_unit]
  refine congrArg _ (funext fun click => ?_)
  -- The click is read back from the progress, in which it stays.
  funext p w
  have hmodify : (modifyThe Progress fun p => { p with click := some click } : Staged τ Unit) p w =
      ((.ok (), { p with click := some click }), w) := rfl
  rw [Staged.bind_run, Staged.bind_run, hmodify]
  dsimp only
  rw [Staged.bind_run, Staged.bind_run, Staged.onWorld_run]
  rcases Check.forEach (Session.openViewer · s.config.viewLink) s.viewers w with ⟨e | _, v⟩
  · rfl
  · obtain ⟨lines, he⟩ := Staged.enter_run s .navigated { p with click := some click } v
    dsimp only
    rw [Staged.bind_run, Staged.bind_run, he]
    exact interact_run s rfl _

theorem inOrder_pollParts [Timeline τ] (s : Scenario) :
    Staged.inOrder (τ := τ) s.pollParts = s.poll.discard := by
  simp only [pollParts, Staged.inOrder, poll, Staged.discard, await, bind_assoc, bind_pure_unit]
  refine congrArg _ (funext fun _ => congrArg _ (funext fun outcome => ?_))
  rcases outcome with h | snapshots
  · cases h <;> simp
  · simp

theorem inOrder_reloadParts (s : Scenario) :
    Staged.inOrder (τ := τ) s.reloadParts = s.reloadViewers := by
  simp only [reloadParts, Staged.inOrder, reloadViewers, bind_pure_unit]

section

variable [Timeline τ] {s : Scenario} {again : Bool} {start : World τ} {P P' Q R : Point τ → Prop}

def Ended (Q : Point τ → Prop) (b : Point τ) : Except Halt Unit → Prop
  | .ok () => Q b
  | .error h => h.isShortfall = true → Settled b.progress

omit [Timeline τ] in
theorem Ended.of_abrupt {b : Point τ} {h : Halt} (hh : h.Abrupt) : Ended Q b (.error h) :=
  fun hs => absurd (hh.symm.trans hs) Bool.false_ne_true

/-- From a point with `P` the part is a step of the course, and it ends with `Q`. -/
def Moves (s : Scenario) (again : Bool) (start : World τ) (P : Point τ → Prop)
    (act : Staged τ Unit) (Q : Point τ → Prop) : Prop :=
  ∀ a r q v, World.Works start a.world → P a → act a.progress a.world = ((r, q), v) →
    Step s again start a ⟨q, v⟩ ∧ Ended Q ⟨q, v⟩ r

theorem Moves.onWorld {act : Check τ Unit} (ha : Works act)
    (hQ : ∀ p u v, World.Works start u → P ⟨p, u⟩ → act u = (.ok (), v) → Q ⟨p, v⟩) :
    Moves s again start P (Scenario.onWorld act) Q := by
  intro a r q v hu hp h
  rw [Staged.onWorld_run] at h
  rcases hact : act a.world with ⟨e | _, v'⟩
  · rw [hact] at h
    cases h
    exact ⟨.worked _ (ha.of_run hact), .of_abrupt (ha.halt a.world e (by rw [hact]))⟩
  · rw [hact] at h
    cases h
    exact ⟨.worked _ (ha.of_run hact), hQ _ _ _ hu hp hact⟩

theorem Moves.enter {state : State}
    (hstep : ∀ p u lines, P ⟨p, u⟩ →
      Step s again start ⟨p, u⟩ ⟨p.enter state, { u with log := lines }⟩)
    (hQ : ∀ p u lines, P ⟨p, u⟩ → Q ⟨p.enter state, { u with log := lines }⟩) :
    Moves s again start P (s.enter state) Q := by
  intro a r q v _ hp h
  obtain ⟨lines, he⟩ := Staged.enter_run s state a.progress a.world
  rw [he] at h
  cases h
  exact ⟨hstep _ _ lines hp, hQ _ _ lines hp⟩

inductive Leads (s : Scenario) (again : Bool) (start : World τ) :
    (Point τ → Prop) → List (Staged τ Unit) → (Point τ → Prop) → Prop
  | nil {P Q : Point τ → Prop} : (∀ a, P a → Q a) → Leads s again start P [] Q
  | cons {P Q R : Point τ → Prop} {act : Staged τ Unit} {rest : List (Staged τ Unit)} :
      Moves s again start P act R → Leads s again start R rest Q →
      Leads s again start P (act :: rest) Q

theorem Leads.single {act : Staged τ Unit} (h : Moves s again start P act Q) :
    Leads s again start P [act] Q := .cons h (.nil fun _ ha => ha)

theorem Leads.widen {acts : List (Staged τ Unit)} (h : Leads s again start P acts Q)
    (hP : ∀ a, P' a → P a) : Leads s again start P' acts Q := by
  cases h with
  | nil hPQ => exact .nil fun a ha => hPQ a (hP a ha)
  | cons hact hrest => exact .cons (fun a r q v hu hp => hact a r q v hu (hP a hp)) hrest

theorem Leads.append {acts more : List (Staged τ Unit)} (h : Leads s again start P acts R)
    (h' : Leads s again start R more Q) : Leads s again start P (acts ++ more) Q := by
  induction h with
  | nil hPR => exact h'.widen hPR
  | cons hact _ ih => exact .cons hact (ih h')

theorem Leads.through {acts : List (Staged τ Unit)} (h : Leads s again start P acts Q)
    {a : Point τ} (hu : World.Works start a.world) (ha : P a) :
    (Staged.through acts a).IsChain (Step s again start) ∧
      Ended Q ((Staged.inOrder acts).after a)
        (Staged.inOrder acts a.progress a.world).1.1 := by
  induction h generalizing a with
  | nil hPQ => exact ⟨.singleton a, hPQ a ha⟩
  | @cons P Q R act rest hact _ ih =>
    rw [Staged.through, Staged.after, Staged.inOrder, Staged.bind_run]
    rcases hrun : act a.progress a.world with ⟨⟨e | _, p⟩, w⟩
    · obtain ⟨hstep, hend⟩ := hact a _ p w hu ha hrun
      exact ⟨List.isChain_pair.mpr hstep, hend⟩
    · obtain ⟨hstep, hend⟩ := hact a _ p w hu ha hrun
      obtain ⟨hchain, hlast⟩ := ih (a := ⟨p, w⟩) (trans_of World.Works hu hstep.works) hend
      refine ⟨List.isChain_cons.mpr ⟨fun b hb => ?_, hchain⟩, hlast⟩
      rw [Staged.head?_through] at hb
      cases hb
      exact hstep

structure PublisherStarted (s : Scenario) (start : World τ) (a : Point τ) : Prop where
  stage : Stage [.idle] 0 true a.progress
  called : Called start (.goto s.publisher s.config.pushLink Session.navigationTimeoutMs) a.world
  well : (a.world.page s.publisher).lastOpening = none
  clicked : ∀ click, a.progress.click = some click → click.attempted = true →
    ∃ finder, Called start (.clickButton s.publisher finder Session.clickTimeoutMs) a.world

structure AllStarted (s : Scenario) (start : World τ) (states : List State)
    (a : Point τ) : Prop where
  stage : Stage states 0 true a.progress
  publisher :
    Called start (.goto s.publisher s.config.pushLink Session.navigationTimeoutMs) a.world ∧
      (a.world.page s.publisher).lastOpening = none
  viewers : ∀ k ∈ s.viewers,
    Called start (.goto k s.config.viewLink Session.navigationTimeoutMs) a.world ∧
      (a.world.page k).lastOpening = none
  clicked : ∀ click, a.progress.click = some click → click.attempted = true →
    ∃ finder, Called start (.clickButton s.publisher finder Session.clickTimeoutMs) a.world

theorem startPublisher_moves (s : Scenario) (again : Bool) (start : World τ)
    (startupWaitMs settleMs : Option Int) :
    Moves s again start (fun a => Stage [.idle] 0 true a.progress)
      (do
        let click ← onWorld
          (Session.startPublisher s.publisher s.config.pushLink startupWaitMs settleMs)
        modifyThe Progress fun p => { p with click := some click })
      (PublisherStarted s start) := by
  intro a r q v hu hp h
  have hworks := Session.works_startPublisher (τ := τ) s.publisher s.config.pushLink
    startupWaitMs settleMs
  rw [Staged.bind_run, Staged.onWorld_run] at h
  rcases hact : Session.startPublisher s.publisher s.config.pushLink startupWaitMs settleMs
    a.world with ⟨e | click, v'⟩
  · rw [hact] at h
    cases h
    exact ⟨.worked _ (hworks.of_run hact), .of_abrupt (hworks.halt a.world e (by rw [hact]))⟩
  · rw [hact] at h
    cases h
    obtain ⟨hv, hc⟩ := Session.visited_of_startPublisher hact
    refine ⟨.clicked _ click (hworks.of_run hact),
      ⟨hp.state, hp.count, hp.reloaded⟩, hv.called.earlier hu.calls, hv.well, ?_⟩
    intro click' hclick ha
    cases hclick
    obtain ⟨finder, hf⟩ := hc ha
    exact ⟨finder, hf.earlier hu.calls⟩

theorem openViewers_moves (s : Scenario) (again : Bool) (start : World τ) :
    Moves s again start (PublisherStarted s start)
      (onWorld (Check.forEach (Session.openViewer · s.config.viewLink) s.viewers))
      (AllStarted s start [.idle]) := by
  refine Moves.onWorld (.forEach (fun k => Session.works_openViewer k _) _)
    fun p u v hu hp h => ?_
  obtain ⟨hcalls, hall, hkept⟩ := Check.visited_of_forEach
    (c := fun k => .goto k s.config.viewLink Session.navigationTimeoutMs)
    (fun k w v => Session.visited_of_openViewer) h
  refine ⟨hp.stage, ⟨hp.called.later hcalls, hkept _ hp.well⟩,
    fun k hk => ⟨(hall k hk).1.earlier hu.calls, (hall k hk).2⟩, fun click hclick ha => ?_⟩
  obtain ⟨finder, hf⟩ := hp.clicked click hclick ha
  exact ⟨finder, hf.later hcalls⟩

theorem enter_navigated_moves (s : Scenario) (again : Bool) (start : World τ) :
    Moves s again start (AllStarted s start [.idle]) (s.enter .navigated)
      (AllStarted s start [.navigated]) :=
  Moves.enter
    (fun _ _ lines hp => .navigated lines (List.mem_singleton.mp hp.stage.state) hp.publisher.1
      hp.publisher.2 hp.viewers)
    fun _ _ _ hp => ⟨hp.stage.enter nofun nofun, hp.publisher, hp.viewers, hp.clicked⟩

theorem interact_moves (s : Scenario) (again : Bool) (start : World τ) :
    Moves s again start (AllStarted s start [.navigated]) s.interact
      (fun a => Stage [.navigated, .interacted] 0 true a.progress) := by
  intro a r q v hu hp h
  have hstate : a.progress.state = .navigated := List.mem_singleton.mp hp.stage.state
  have hrun : s.interact a.progress a.world =
      (if a.progress.click.any Session.Click.attempted then s.enter .interacted else pure () :
        Staged τ Unit) a.progress a.world := rfl
  rw [hrun] at h
  split at h
  · next hany =>
    obtain ⟨click, hclick, ha⟩ := (Option.any_eq_true _ _).mp hany
    obtain ⟨finder, hf⟩ := hp.clicked click hclick ha
    obtain ⟨lines, he⟩ := Staged.enter_run s .interacted a.progress a.world
    rw [he] at h
    cases h
    have hentered : Stage [.interacted] 0 true (a.progress.enter .interacted) :=
      hp.stage.enter nofun nofun
    exact ⟨.interacted lines hstate hclick ha hf, hentered.widen (by decide)⟩
  · cases h
    exact ⟨.worked _ (refl_of World.Works _), hp.stage.widen (by decide)⟩

theorem startParts_leads (s : Scenario) (again : Bool) (start : World τ)
    (startupWaitMs settleMs : Option Int) :
    Leads s again start (fun a => Stage [.idle] 0 true a.progress)
      (s.startParts startupWaitMs settleMs)
      (fun a => Stage [.navigated, .interacted] 0 true a.progress) :=
  .cons (startPublisher_moves s again start startupWaitMs settleMs) <|
    .cons (openViewers_moves s again start) <| .cons (enter_navigated_moves s again start) <|
    .single (interact_moves s again start)

theorem await_moves (s : Scenario) (again : Bool) (start : World τ) (fresh : Bool) :
    Moves s again start (fun a => Stage [.polling] 0 fresh a.progress) s.await
      (fun a => Stage [.live] 1 fresh a.progress) := by
  intro a r q v hu hp h
  rw [await, Staged.bind_run, Staged.onWorld_run, Check.attempt_run] at h
  have hquiet := Poll.quiet_untilLiveWithin (τ := τ) s.limits s.settings s.label s.viewers
  rcases hpoll : Poll.untilLiveWithin s.limits s.settings s.label s.viewers a.world with
    ⟨outcome, u⟩
  rw [hpoll] at h
  have hstate : a.progress.state = .polling := List.mem_singleton.mp hp.state
  cases outcome with
  | ok snapshots =>
    obtain ⟨lines, he⟩ := Staged.enter_run s .live a.progress u
    dsimp only at h
    rw [he] at h
    cases h
    exact ⟨.live lines hstate hpoll, hp.enter_live⟩
  | error e =>
    cases e with
    | notLive label timeoutMs last =>
      obtain ⟨lines, he⟩ := Staged.enter_run s .timedOut a.progress u
      change (s.enter .timedOut >>= fun _ => throw (.notLive label timeoutMs last))
        a.progress u = _ at h
      rw [Staged.bind_run, he] at h
      cases h
      have hs : Stage [.timedOut] 0 fresh (a.progress.enter .timedOut) := hp.enter nofun nofun
      exact ⟨.timedOut lines hstate hpoll, fun _ => hs.settled (by decide)⟩
    | rejected label verdict failures =>
      -- A poll judges nothing; on a verdict a report would follow here.
      exact absurd ⟨label, verdict, failures, rfl⟩ (hquiet.halt a.world _ (by rw [hpoll]))
    | _ =>
      cases h
      exact ⟨.worked _ (hquiet.of_run hpoll).toWorks, nofun⟩

theorem pollParts_leads (s : Scenario) (again : Bool) (start : World τ) (fresh : Bool) :
    Leads s again start
      (fun a => Stage [.navigated, .interacted, .reloaded] 0 fresh a.progress) s.pollParts
      (fun a => Stage [.live] 1 fresh a.progress) := by
  have henter : Moves s again start
      (fun a => Stage [.navigated, .interacted, .reloaded] 0 fresh a.progress)
      (s.enter .polling) (fun a => Stage [.polling] 0 fresh a.progress) :=
    Moves.enter (fun _ u lines hp => .polling u lines hp.state) fun _ _ _ hp => hp.enter nofun nofun
  exact .cons henter (.single (await_moves s again start fresh))

theorem verify_moves (s : Scenario) (again : Bool) (start : World τ) (fresh : Bool)
    (name : String) :
    Moves s again start (fun a => Stage [.live] 1 fresh a.progress) (s.verify name).discard
      (fun a => Stage [.live] 0 fresh a.progress) := by
  intro a r q v hu hp h
  have hstays := stays_sampleViewers (τ := τ) s
  rw [Staged.discard, verify, Staged.bind_run, Staged.bind_run, Staged.onWorld_run] at h
  rcases hact : s.sampleViewers a.world with ⟨e | samples, u⟩
  · rw [hact] at h
    cases h
    exact ⟨.worked _ (hstays.of_run hact).toWorks,
      .of_abrupt (hstays.halt a.world e (by rw [hact]))⟩
  · rw [hact] at h
    have hstate : a.progress.state = .live := List.mem_singleton.mp hp.state
    have hcount : a.progress.transitions.count .live = a.progress.rounds.length + 1 := hp.count
    -- From here on the world stays, and the round is on record whatever comes of it.
    have hjudged (round : Round) :
        Step s again start a ⟨{ a.progress with rounds := a.progress.rounds ++ [round] }, u⟩ ∧
          Stage [.live] 0 fresh { a.progress with rounds := a.progress.rounds ++ [round] } :=
      ⟨.judged round (hstays.of_run hact).toWorks hstate (by omega),
        hp.state, by simpa using hcount, hp.reloaded⟩
    dsimp only at h
    rcases hj : s.judgeFrom 0 samples with ⟨viewers, verdict⟩
    rw [hj] at h
    obtain ⟨hstep, hstage⟩ := hjudged ⟨name, viewers⟩
    have hsettled : Settled { a.progress with rounds := a.progress.rounds ++ [⟨name, viewers⟩] } :=
      hstage.settled (by decide)
    rcases verdict with f | _ | e
    · cases h
      exact ⟨hstep, fun _ => hsettled⟩
    · cases h
      exact ⟨hstep, hstage⟩
    · cases h
      exact ⟨hstep, fun _ => hsettled⟩

theorem reloadParts_leads (s : Scenario) (start : World τ) :
    Leads s true start (fun a => Stage [.live] 0 true a.progress) s.reloadParts
      (fun a => Stage [.reloaded] 0 false a.progress) := by
  refine .cons (R := fun a => Stage [.live] 0 true a.progress ∧
      ∀ k ∈ s.viewers, Called start (.reload k Session.navigationTimeoutMs) a.world ∧
        (a.world.page k).lastReload = none)
    (Moves.onWorld (.forEach (fun k => works_reloadViewer k) _) fun p u v hu hp h => ?_)
    (.single ?_)
  · obtain ⟨-, hall, -⟩ := Check.visited_of_forEach
      (c := fun k => .reload k Session.navigationTimeoutMs)
      (fun k w v => visited_of_reloadViewer) h
    exact ⟨hp, fun k hk => ⟨(hall k hk).1.earlier hu.calls, (hall k hk).2⟩⟩
  · exact Moves.enter
      (fun _ _ lines hp => .reloaded lines rfl (List.mem_singleton.mp hp.1.state)
        (hp.1.reloaded rfl) hp.2)
      fun _ _ _ hp => hp.1.enter_reloaded

end

end StreamWatch.Scenario
