import StreamWatch.Proofs.Scenario.Verification

/-! Why a scenario falls short. Every halt that a report follows has a reason. That of the viewers
is in the progress before the halt: the state is timed out, or a round holds a verdict with
failures. That of the publisher is a sample which the progress does not hold. -/
namespace StreamWatch.Scenario

open Browser (Check Timeline World)
open Sample (Snapshot)

variable {τ α β : Type}

/-- At the halt the scenario was at this progress, in this world. -/
inductive Reason (s : Scenario) (p : Progress) (v : World τ) : Prop
  | timedOut : p.state = .timedOut → Reason s p v
  | rejected {round : Round} {x : String × Entry} :
      round ∈ p.rounds → x ∈ round.viewers → x.2.verdict.failures s.settings ≠ [] →
      Reason s p v
  | unconnected {u : World τ} {first : Snapshot} :
      Session.Gives u s.publisher first v → first.peers = [] → Reason s p v

def Accounts (s : Scenario) (act : Staged τ α) : Prop :=
  ∀ p w e q v, act p w = ((.error e, q), v) → e.isShortfall = true → Reason s q v

section

variable {s : Scenario}

theorem Accounts.bind {act : Staged τ α} {k : α → Staged τ β} (ha : Accounts s act)
    (hk : ∀ a, Accounts s (k a)) : Accounts s (act >>= k) := by
  intro p w e q v h he
  rw [Staged.bind_run] at h
  rcases hact : act p w with ⟨⟨e' | a, q'⟩, v'⟩
  · rw [hact] at h
    cases h
    exact ha p w e q v hact he
  · rw [hact] at h
    exact hk a q' v' e q v h he

theorem Accounts.pure (a : α) : Accounts (τ := τ) s (Pure.pure a) := fun _ _ _ _ _ h => nomatch h

theorem Accounts.modify (f : Progress → Progress) :
    Accounts (τ := τ) s (modifyThe Progress f) := fun _ _ _ _ _ h => nomatch h

theorem Accounts.onWorld {R : World τ → World τ → Prop} {act : Check τ α}
    (ha : Check.Confined R Halt.Abrupt act) : Accounts s (Scenario.onWorld act) := by
  intro p w e q v h he
  rw [Staged.onWorld_run, Prod.mk.injEq, Prod.mk.injEq] at h
  have habrupt : e.isShortfall = false := ha.halt w e h.1.1
  rw [habrupt] at he
  cases he

theorem Accounts.enter (s : Scenario) (state : State) : Accounts (τ := τ) s (s.enter state) := by
  intro p w e q v h _
  obtain ⟨lines, hrun⟩ := Staged.enter_run s state p w
  rw [hrun] at h
  cases h

end

theorem accounts_start (s : Scenario) (startupWaitMs settleMs : Option Int) :
    Accounts (τ := τ) s (s.start startupWaitMs settleMs) := by
  have hviewers : Check.Works (τ := τ)
      (Check.forEach (Session.openViewer · s.config.viewLink) s.viewers) :=
    .forEach (fun k => Session.works_openViewer k _) _
  refine (Accounts.onWorld (Session.works_startPublisher _ _ _ _)).bind fun click =>
    (Accounts.modify _).bind fun _ => (Accounts.onWorld hviewers).bind fun _ =>
    (Accounts.enter s .navigated).bind fun _ => ?_
  split
  · exact Accounts.enter s .interacted
  · exact .pure ()

theorem accounts_timeOut (s : Scenario) (h : Halt) :
    Accounts (τ := τ) s (s.enter .timedOut >>= fun _ => (throw h : Staged τ α)) := by
  intro p w e q v hr _
  obtain ⟨lines, hrun⟩ := Staged.enter_run s .timedOut p w
  rw [Staged.bind_run, hrun] at hr
  cases hr
  exact .timedOut rfl

theorem accounts_poll [Timeline τ] (s : Scenario) : Accounts (τ := τ) s s.poll := by
  refine (Accounts.enter s .polling).bind fun _ => ?_
  intro p w e q v h he
  rw [Staged.bind_run, Staged.onWorld_run, Check.attempt_run] at h
  have hverdict :=
    (Poll.quiet_untilLiveWithin (τ := τ) s.limits s.settings s.label s.viewers).halt w
  cases hpoll : (Poll.untilLiveWithin s.limits s.settings s.label s.viewers w).1 with
  | ok snapshots =>
    rw [hpoll] at h
    exact ((Accounts.enter s .live).bind fun _ => .pure snapshots) p _ e q v h he
  | error halt =>
    rw [hpoll] at h
    cases halt with
    | notLive label timeoutMs last =>
      exact accounts_timeOut s (.notLive label timeoutMs last) p _ e q v h he
    | rejected label verdict failures =>
      exact absurd ⟨label, verdict, failures, rfl⟩ (hverdict _ hpoll)
    | _ =>
      cases h
      cases he

theorem failures_of_rejection? {settings : Poll.Settings} {name : String} {e : Entry} {h : Halt}
    (hr : rejection? settings name e = .ok (some h)) : e.verdict.failures settings ≠ [] := by
  obtain ⟨complaints, hc, hr⟩ := Sample.bind_ok hr
  intro hnone
  rw [(Verdict.complaints_eq_nil_iff _ settings).mpr hnone] at hc
  cases hc
  cases hr

theorem failures_of_judgeFrom {s : Scenario} {i : Nat} {samples : List (Snapshot × Snapshot)}
    {entries : List (String × Entry)} {h : Halt}
    (hj : s.judgeFrom i samples = (entries, .ok (some h))) :
    ∃ x ∈ entries, x.2.verdict.failures s.settings ≠ [] := by
  induction samples generalizing i entries h with
  | nil => cases hj
  | cons sample samples ih =>
    obtain ⟨name, rest, first?, later?, -, hfirst, hrest, rfl, hhalt⟩ := judgeFrom_step hj
    cases first? with
    | some first => exact ⟨_, List.mem_cons_self, failures_of_rejection? hfirst⟩
    | none =>
      cases hhalt
      obtain ⟨x, hx, hfailures⟩ := ih hrest
      exact ⟨x, List.mem_cons_of_mem _ hx, hfailures⟩

theorem accounts_verify (s : Scenario) (name : String) : Accounts (τ := τ) s (s.verify name) := by
  refine (Accounts.onWorld (stays_sampleViewers s)).bind fun samples => ?_
  rcases hj : s.judgeFrom 0 samples with ⟨entries, verdict⟩
  intro p w e q v h he
  dsimp only at h
  cases verdict with
  | error f =>
    cases h
    cases he
  | ok halt? =>
    cases halt? with
    | none => cases h
    | some halt =>
      cases h
      obtain ⟨x, hx, hfailures⟩ := failures_of_judgeFrom hj
      exact .rejected (List.mem_append_right _ (List.mem_singleton_self _)) hx hfailures

theorem accounts_reloadViewers (s : Scenario) : Accounts (τ := τ) s s.reloadViewers :=
  (Accounts.onWorld (.forEach works_reloadViewer _)).bind fun _ => Accounts.enter s .reloaded

end StreamWatch.Scenario
