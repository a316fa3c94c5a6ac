import StreamWatch.Proofs.Browser.Lifetime
import StreamWatch.Proofs.Report.Writing
import StreamWatch.Proofs.Scenario.Stages
import StreamWatch.Runner.Scenario

/-! The course of a whole check. It launches a browser, opens the pages of a scenario in it and goes
through the parts of the scenario; every point that these lead through is a step of the course
away from the one before it, and a report is written only of a progress that is settled. -/
namespace StreamWatch.Runner.Scenario

open Browser (Check Timeline World)
open Browser.Check (Advances Confined Stays Works Writes)
open Json (Value)
open Sample (Snapshot)
open StreamWatch.Scenario (Documented Ended Leads Moves Point Progress Settled Stage Staged Step)

variable {τ : Type}

theorem stays_settle (s : StreamWatch.Scenario) (outcome : Except Halt Snapshot) :
    Stays (τ := τ) (settle s outcome) := by
  cases outcome with
  | ok publisherAfter => exact .pure _
  | error h =>
    rw [settle]
    by_cases hs : h.isShortfall = true
    · rw [if_pos hs]
      exact (Check.stays_log _ _ _).bind fun _ => (Check.stays_say _ _).bind fun _ =>
        (Session.stays_collect _).bind fun _ => .pure _
    · rw [if_neg hs]
      exact .throw (by simpa [Halt.Abrupt] using hs)

theorem stays_viewerPictures (s : StreamWatch.Scenario) (directory : Report.Path) (i : Nat)
    (viewers : List Nat) :
    Stays (τ := τ) (takePictures.viewerPictures s directory i viewers) := by
  induction viewers generalizing i with
  | nil => exact .pure ()
  | cons viewer r ih =>
    exact (Check.stays_ofFault _).bind fun _ =>
      (Session.stays_takeScreenshot viewer _).bind fun _ => ih (i + 1)

theorem stays_takePictures (s : StreamWatch.Scenario) (directory : Report.Path) :
    Stays (τ := τ) (takePictures s directory) :=
  (Session.stays_takeScreenshot s.publisher _).bind fun _ => stays_viewerPictures s directory 0 _

theorem stays_summary (s : StreamWatch.Scenario) (p : Progress) :
    Stays (τ := τ) (s.summary p) :=
  (Check.stays_ofFault _).bind fun _ => Check.stays_timestamp.bind fun _ => .pure _

section

variable {R : World τ → World τ → Prop} {E : Halt → Prop} [IsPreorder (World τ) R] {α : Type}

theorem confined_openViewers {browser : Nat}
    (hopen : Confined R E (Session.openPage browser false true)) (n : Nat)
    {k : List (Nat × Nat) × Except Halt Unit → Check τ α}
    (hk : ∀ opened opening, (∀ h, opening = .error h → E h) → Confined R E (k (opened, opening))) :
    Confined R E (openViewers browser n >>= k) := by
  induction n generalizing k with
  | zero => exact hk [] (.ok ()) nofun
  | succ n ih =>
    rw [openViewers, bind_assoc]
    refine hopen.attempt_bind fun r hr => ?_
    cases r with
    -- What was opened before goes on together with the failure, which is thrown by what follows.
    | error h => exact hk [] (.error h) fun _ he => hr _ (by rw [Except.error.inj he])
    | ok opened =>
      simp only [bind_assoc]
      exact ih fun rest opening hopening => hk (opened :: rest) opening hopening

end

def finish (s : StreamWatch.Scenario) : Staged τ Snapshot := do
  let publisherAfter ← StreamWatch.Scenario.onWorld s.publisherSnapshot
  if publisherAfter.peers.isEmpty then
    throw (.rejected "publisher" none ["publisher has no peer connections"])
  pure publisherAfter

variable [Timeline τ]

def parts (o : Options) (s : StreamWatch.Scenario) : List (Staged τ Unit) :=
  s.startParts o.startupWaitMs o.settleMs ++ (s.pollParts ++ ((s.verify "initial").discard ::
    ((if o.reload then s.reloadParts ++ (s.pollParts ++ [(s.verify "after-reload").discard])
      else []) ++ [(finish s).discard])))

theorem inOrder_parts (o : Options) (s : StreamWatch.Scenario) :
    Staged.inOrder (τ := τ) (parts o s) = (steps o s).discard := by
  cases hr : o.reload with
  | false =>
    simp [parts, steps, hr, Staged.inOrder, Staged.inOrder_append, Staged.discard, finish,
      StreamWatch.Scenario.inOrder_startParts, StreamWatch.Scenario.inOrder_pollParts]
  | true =>
    simp [parts, steps, hr, Staged.inOrder, Staged.inOrder_append, Staged.discard, finish,
      StreamWatch.Scenario.inOrder_startParts, StreamWatch.Scenario.inOrder_pollParts,
      StreamWatch.Scenario.inOrder_reloadParts]

theorem finish_moves (s : StreamWatch.Scenario) (again : Bool) (start : World τ) (fresh : Bool) :
    Moves s again start (fun a => Stage [.live] 0 fresh a.progress) (finish s).discard
      (fun a => a.progress.state = .live ∧ Settled a.progress) := by
  intro a r q v hu hp h
  have hstays := Session.stays_collect (τ := τ) s.publisher
  have hsettled : Settled a.progress := hp.settled (by decide)
  rw [Staged.discard, finish, Staged.bind_run, Staged.bind_run,
    StreamWatch.Scenario.Staged.onWorld_run] at h
  rcases hact : s.publisherSnapshot a.world with ⟨e | last, u⟩
  · rw [hact] at h
    cases h
    exact ⟨.worked _ (hstays.of_run hact).toWorks, fun _ => hsettled⟩
  · rw [hact] at h
    dsimp only at h
    by_cases hpeers : last.peers.isEmpty = true
    · rw [if_pos hpeers] at h
      cases h
      exact ⟨.worked _ (hstays.of_run hact).toWorks, fun _ => hsettled⟩
    · rw [if_neg hpeers] at h
      cases h
      exact ⟨.worked _ (hstays.of_run hact).toWorks, List.mem_singleton.mp hp.state, hsettled⟩

theorem parts_leads (o : Options) (s : StreamWatch.Scenario) (start : World τ) :
    Leads s o.reload start (fun a => Stage [.idle] 0 true a.progress) (parts o s)
      (fun a => a.progress.state = .live ∧ Settled a.progress) := by
  refine (StreamWatch.Scenario.startParts_leads s o.reload start _ _).append
    (((StreamWatch.Scenario.pollParts_leads s o.reload start true).widen
      fun _ hp => hp.widen (by decide)).append
    (.cons (StreamWatch.Scenario.verify_moves s o.reload start true "initial") ?_))
  split
  · next hr =>
    rw [hr]
    exact ((StreamWatch.Scenario.reloadParts_leads s start).append
      (((StreamWatch.Scenario.pollParts_leads s true start false).widen
        fun _ hp => hp.widen (by decide)).append
      (.single (StreamWatch.Scenario.verify_moves s true start false "after-reload")))).append
      (.single (finish_moves s true start false))
  · exact .single (finish_moves s o.reload start true)

theorem stage_start : Stage [.idle] 0 true {} := ⟨by decide, rfl, fun _ => by decide⟩

def points (o : Options) (s : StreamWatch.Scenario) (u : World τ) : List (Point τ) :=
  Staged.through (parts o s) ⟨{}, u⟩

/-- The point at which the steps of a scenario end that is started in the world `u`. -/
def final (o : Options) (s : StreamWatch.Scenario) (u : World τ) : Point τ :=
  ⟨(steps o s {} u).1.2, (steps o s {} u).2⟩

omit [Timeline τ] in
theorem discard_run {α : Type} (act : Staged τ α) (p : Progress) (w : World τ) :
    act.discard p w = (((act p w).1.1.map fun _ => (), (act p w).1.2), (act p w).2) := by
  rw [Staged.discard, Staged.bind_run]
  rcases act p w with ⟨⟨_ | _, q⟩, v⟩ <;> rfl

theorem points_chain (o : Options) (s : StreamWatch.Scenario) (u : World τ) :
    (points o s u).IsChain (Step s o.reload u) ∧
      Ended (fun a => a.progress.state = .live ∧ Settled a.progress) (final o s u)
        ((steps o s {} u).1.1.map fun _ => ()) := by
  have hleads := (parts_leads o s u).through (a := ⟨{}, u⟩) (refl_of World.Works u) stage_start
  rwa [inOrder_parts, Staged.after, discard_run] at hleads

theorem exists_points_eq (o : Options) (s : StreamWatch.Scenario) (u : World τ) :
    ∃ rest, points o s u = ⟨{}, u⟩ :: rest := by
  have hhead := Staged.head?_through (parts o s) ⟨{}, u⟩
  exact ⟨_, (List.eq_cons_of_mem_head? hhead)⟩

theorem getLast?_points (o : Options) (s : StreamWatch.Scenario) (u : World τ) :
    (points o s u).getLast? = some (final o s u) := by
  rw [points, Staged.getLast?_through, inOrder_parts, Staged.after, discard_run]
  rfl

theorem settled_final {o : Options} {s : StreamWatch.Scenario} {u : World τ}
    (h : ∀ e, (steps o s {} u).1.1 = .error e → e.isShortfall = true) :
    Settled (final o s u).progress := by
  have hend := (points_chain o s u).2
  cases hr : (steps o s {} u).1.1 with
  | error e =>
    rw [hr] at hend
    exact hend (h e hr)
  | ok x =>
    rw [hr] at hend
    exact hend.2

theorem live_final {o : Options} {s : StreamWatch.Scenario} {u : World τ} {last : Snapshot}
    (h : (steps o s {} u).1.1 = .ok last) : (final o s u).progress.state = .live := by
  have hend := (points_chain o s u).2
  rw [h] at hend
  exact hend.1

theorem documented_points (o : Options) (s : StreamWatch.Scenario) (u : World τ) :
    ∀ a ∈ points o s u, Documented a.progress := by
  obtain ⟨rest, hpoints⟩ := exists_points_eq o s u
  have hchain := (points_chain o s u).1
  rw [hpoints] at hchain ⊢
  exact StreamWatch.Scenario.documented_of_chain hchain StreamWatch.Scenario.documented_start

theorem works_points (o : Options) (s : StreamWatch.Scenario) (u : World τ) :
    ∀ a ∈ points o s u, World.Works u a.world ∧ World.Works a.world (final o s u).world := by
  obtain ⟨rest, hpoints⟩ := exists_points_eq o s u
  have hchain := (points_chain o s u).1
  have hlast := getLast?_points o s u
  rw [hpoints] at hchain hlast ⊢
  exact StreamWatch.Scenario.works_of_chain hchain hlast

theorem works_final (o : Options) (s : StreamWatch.Scenario) (u : World τ) :
    World.Works u (final o s u).world :=
  (works_points o s u _ (List.mem_of_mem_getLast? (getLast?_points o s u))).1

def wrapUp (o : Options) (output : Report.Path) (s : StreamWatch.Scenario)
    (outcome : Except Halt Snapshot) (progress : Progress) : Check τ (Nat × Findings) := do
  let (exit, publisherAfter) ← settle s outcome
  let summary ← s.summary progress
  let host ← Report.host
  if o.screenshots then takePictures s output.parent
  pure (exit, { summary, progress, publisherAfter, host })

omit [Timeline τ] in
theorem stays_wrapUp (o : Options) (output : Report.Path) (s : StreamWatch.Scenario)
    (outcome : Except Halt Snapshot) (progress : Progress) :
    Stays (τ := τ) (wrapUp o output s outcome progress) := by
  refine (stays_settle s outcome).bind fun (exit, publisherAfter) =>
    (stays_summary s progress).bind fun summary =>
    (Confined.get.bind fun _ => .pure _).bind fun host => ?_
  dsimp only
  split
  · exact (stays_takePictures s _).bind fun _ => .pure _
  · exact .pure _

theorem perform_run (o : Options) (output : Report.Path) (s : StreamWatch.Scenario)
    (u : World τ) :
    perform o output s u =
      wrapUp o output s (steps o s {} u).1.1 (final o s u).progress (final o s u).world := rfl

theorem quiet_perform (o : Options) (output : Report.Path) (s : StreamWatch.Scenario)
    (u : World τ) : World.Quiet (final o s u).world (perform o output s u).2 := by
  rw [perform_run]
  exact (stays_wrapUp o output s _ _).world _

theorem works_perform (o : Options) (output : Report.Path) (s : StreamWatch.Scenario) :
    Works (τ := τ) (perform o output s) := by
  refine ⟨fun u => trans_of World.Works (works_final o s u) (quiet_perform o output s u).toWorks,
    fun u h he => ?_⟩
  rw [perform_run] at he
  exact (stays_wrapUp o output s _ _).halt _ h he

structure OfOptions (env : Environment) (o : Options) (s : StreamWatch.Scenario) : Prop where
  settings : settingsOf env o = .ok s.settings
  config : s.config = .ofEnvironment env
  viewers : s.viewers.length = o.viewers.toNat
  label : s.label = Poll.defaultLabel
  limits : s.limits = limitsOf o s.settings

omit [Timeline τ]

def launched (env : Environment) (o : Options) :
    Check τ (Stream.Config × Poll.Settings × String × Nat) := do
  let c ← Stream.announce env
  let settings ← Check.ofFault (settingsOf env o)
  let push := c.pushLink
  let view := c.viewLink
  Check.say .note s!"Push URL: {push}"
  Check.say .note s!"View URL: {view}"
  let output ← Check.given o.output
  let browser ← Session.launchChromium (!o.headed) true
  pure (c, settings, output, browser)

/-- The contexts that were opened, and the scenario on the pages in them if none failed to open. -/
def opened (o : Options) (c : Stream.Config) (settings : Poll.Settings) (browser : Nat) :
    Check τ (List Nat × Except Halt StreamWatch.Scenario) := do
  let (publisherContext, publisher) ← Session.openPage browser true true
  let (viewers, opening) ← openViewers browser o.viewers.toNat
  pure (publisherContext :: viewers.map (·.1), opening.map fun _ => {
    config := c, settings, publisher
    viewers := viewers.map (·.2)
    limits := limitsOf o settings })

/-- The check up to the steps of its scenario: where the report goes, and the scenario on its
pages. -/
def staged (env : Environment) (o : Options) : Check τ (String × StreamWatch.Scenario) := do
  let (c, settings, output, browser) ← launched env o
  let (_, opening) ← opened o c settings browser
  pure (output, ← Check.ofExcept opening)

def conclude (output : String) (exit : Nat) (findings : Findings) : Check τ Nat := do
  Report.write findings.toJson (.ofText output) true
  if exit = 0 then Check.say .success "All viewers are live"
  pure exit

theorem uncalled_conclude (output : String) (exit : Nat) (findings : Findings) :
    Confined (τ := τ) World.Uncalled Halt.Abrupt (conclude output exit findings) := by
  refine (Report.uncalled_write _ _ _).bind fun _ => ?_
  dsimp only
  split
  · exact (Check.uncalled_say _ _).bind fun _ => .pure _
  · exact .pure _

theorem announce_ok {env : Environment} {c : Stream.Config} {w v : World τ}
    (h : Stream.announce env w = (.ok c, v)) : c = .ofEnvironment env := by
  obtain ⟨_, _, -, h⟩ := Check.bind_ok h
  obtain ⟨_, _, -, h⟩ := Check.bind_ok h
  cases h
  rfl

theorem stays_announce (env : Environment) : Check.Stays (τ := τ) (Stream.announce env) :=
  (Check.stays_log _ _ _).bind fun _ => (Check.stays_log _ _ _).bind fun _ => .pure _

theorem openViewers_ok {browser n : Nat} {viewers : List (Nat × Nat)} {w v : World τ}
    (h : openViewers browser n w = (.ok (viewers, .ok ()), v)) : viewers.length = n := by
  induction n generalizing viewers w with
  | zero =>
    cases h
    rfl
  | succ n ih =>
    rw [openViewers, Check.bind_of_ok (Check.attempt_run _ w)] at h
    rcases hfirst : (Session.openPage browser false true w).1 with e | first
    · rw [hfirst] at h
      cases h
    · rw [hfirst] at h
      obtain ⟨⟨rest, opening⟩, _, hrest, h⟩ := Check.bind_ok h
      cases h
      rw [List.length_cons, ih hrest]

theorem staged_ok {env : Environment} {o : Options} {output : String}
    {s : StreamWatch.Scenario} {w v : World τ} (h : staged env o w = (.ok (output, s), v)) :
    o.output = some output ∧ OfOptions env o s := by
  obtain ⟨⟨c, settings, output', browser⟩, u, hlaunch, h⟩ := Check.bind_ok h
  obtain ⟨⟨contexts, opening⟩, u', hopen, h⟩ := Check.bind_ok h
  obtain ⟨s', u'', hopening, h⟩ := Check.bind_ok h
  cases h
  rw [Check.ofExcept_run] at hopening
  obtain ⟨rfl, rfl⟩ := Prod.mk.inj hopening
  obtain ⟨c', w₁, hc, h₁⟩ := Check.bind_ok hlaunch
  obtain ⟨settings', w₂, hset, h₂⟩ := Check.bind_ok h₁
  obtain ⟨_, w₃, -, h₃⟩ := Check.bind_ok h₂
  obtain ⟨_, w₄, -, h₄⟩ := Check.bind_ok h₃
  obtain ⟨output', w₅, hout, h₅⟩ := Check.bind_ok h₄
  obtain ⟨browser', w₆, -, h₆⟩ := Check.bind_ok h₅
  cases h₆
  obtain ⟨⟨context, publisher⟩, x₁, -, h₇⟩ := Check.bind_ok hopen
  obtain ⟨⟨viewers, opening⟩, x₂, hviewers, h₈⟩ := Check.bind_ok h₇
  cases opening with
  | error e => cases h₈
  | ok _ =>
    cases h₈
    have hlength : (viewers.map (·.2)).length = o.viewers.toNat := by
      rw [List.length_map, openViewers_ok hviewers]
    exact ⟨Check.ok_of_given hout, (Check.ok_of_ofFault hset).1, announce_ok hc, hlength, rfl, rfl⟩

theorem advances_launched (env : Environment) (o : Options) :
    Advances (τ := τ) (launched env o) :=
  (stays_announce env).advances.bind fun _ => (Check.stays_ofFault _).advances.bind fun _ =>
    (Check.stays_say _ _).advances.bind fun _ => (Check.stays_say _ _).advances.bind fun _ =>
    (Check.stays_given _).advances.bind fun _ =>
    (Session.advances_launchChromium _ _).bind fun _ => .pure _

theorem advances_staged (env : Environment) (o : Options) : Advances (τ := τ) (staged env o) := by
  refine (advances_launched env o).bind fun (c, settings, output, browser) => ?_
  simp only [opened, bind_assoc, pure_bind]
  refine (Session.advances_openPage browser true true).bind fun (context, publisher) =>
    confined_openViewers (Session.advances_openPage browser false true) _
      fun viewers opening hopening => ?_
  refine (Confined.ofExcept fun e he => ?_).bind fun _ => .pure _
  cases opening with
  | error e' => exact hopening e (congrArg Except.error (Except.error.inj he))
  | ok _ => cases he

variable [Timeline τ]

theorem run_eq (env : Environment) (o : Options) :
    run (τ := τ) env o = (do
      let (c, settings, output, browser) ← launched env o
      let (exit, findings) ← Check.ensuring (do
          let (contexts, opening) ← opened o c settings browser
          Check.ensuring (do perform o (.ofText output) (← Check.ofExcept opening))
            (Check.forEach Check.closeContext contexts))
        (Check.closeBrowser browser)
      conclude output exit findings) := by
  have hopening {α : Type} (opening : Except Halt Unit) (s : StreamWatch.Scenario)
      (k : StreamWatch.Scenario → Check τ α) :
      (Check.ofExcept (opening.map fun _ => s) >>= k) =
        Check.ofExcept opening >>= fun _ => k s := by
    cases opening <;> rfl
  simp only [run, launched, opened, onPages, conclude, hopening, bind_assoc, pure_bind]

/-- A check ends as its opening or its scenario does, or else with its report; on the way only the
contexts and the browser are closed. -/
theorem run_staged (env : Environment) (o : Options) (w : World τ) :
    match staged env o w with
    | (.error h, u) => (run env o w).1 = .error h ∧ World.Onward u (run env o w).2
    | (.ok (output, s), u) =>
      match perform o (.ofText output) s u with
      | (.error h, x) => (run env o w).1 = .error h ∧ World.Onward x (run env o w).2
      | (.ok (exit, findings), x) =>
        ∃ y, World.Onward x y ∧ run env o w = conclude output exit findings y := by
  have hcloses (browser : Nat) (contexts : List Nat) (u : World τ) :
      World.Onward u { u.closing contexts with
        calls := (u.closing contexts).calls ++ [.closeBrowser browser] } :=
    ⟨(List.prefix_append _ _).trans (List.prefix_append _ _), rfl⟩
  rw [run_eq, staged]
  rcases hlaunch : launched env o w with ⟨e | ⟨c, settings, output, browser⟩, u⟩
  · rw [Check.bind_of_error hlaunch, Check.bind_of_error hlaunch]
    exact ⟨rfl, refl_of World.Onward u⟩
  rw [Check.bind_of_ok hlaunch, Check.bind_of_ok hlaunch]
  dsimp only
  rw [Check.bind_run (Check.ensuring _ _), Check.ensuring_run (Check.closeBrowser_run browser)]
  rcases hopen : opened o c settings browser u with ⟨e | ⟨contexts, opening⟩, v⟩
  · rw [Check.bind_of_error hopen, Check.bind_of_error hopen]
    exact ⟨rfl, ⟨List.prefix_append _ _, rfl⟩⟩
  rw [Check.bind_of_ok hopen, Check.bind_of_ok hopen]
  dsimp only
  rw [Check.ensuring_run (Browser.closeContexts_run contexts)]
  rw [Check.bind_run (Check.ofExcept opening), Check.bind_run (Check.ofExcept opening),
    Check.ofExcept_run]
  cases opening with
  | error e => exact ⟨rfl, hcloses browser contexts v⟩
  | ok s =>
    dsimp only
    change match perform o (.ofText output) s v with
      | (.error h, x) => _
      | (.ok (exit, findings), x) => _
    rcases perform o (.ofText output) s v with ⟨e | ⟨exit, findings⟩, x⟩
    · exact ⟨rfl, hcloses browser contexts x⟩
    · exact ⟨_, hcloses browser contexts x, rfl⟩

end StreamWatch.Runner.Scenario
