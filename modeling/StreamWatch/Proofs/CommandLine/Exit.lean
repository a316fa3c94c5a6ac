import StreamWatch.CommandLine.Command
import StreamWatch.Proofs.Runner.Evidence
import StreamWatch.Proofs.Runner.ExitContract

/-! What a command ends with. Its answer is that of its check, or one where its check halted and the
halt was reported; so the exit contract of a check is that of its command. -/
namespace StreamWatch.CommandLine.Command

open Browser (Check Timeline World)
open Json (Value)
open Runner.CrossBrowser (Failing Recounts Settled)

variable {τ : Type} {u v w : World τ} {exit : Nat}

theorem finish_ok {c : Command} (hc : c ≠ publish) {act : Check τ Nat}
    (h : c.finish act u = (.ok exit, v)) :
    act u = (.ok exit, v) ∨ ∃ halt x log printed, act u = (.error halt, x) ∧
      halt.isReported = true ∧ exit = 1 ∧ v = { x with log, printed } := by
  rw [finish, Check.bind_of_ok (Check.attempt_run act u)] at h
  generalize act u = r at h ⊢
  obtain ⟨halt | code, x⟩ := r
  · have hreport : c.report halt x = (.ok exit, v) := by
      cases c with
      | publish => exact absurd rfl hc
      | _ => cases halt <;> exact h
    rw [report] at hreport
    split at hreport
    · next hreported =>
      obtain ⟨_, y, hlog, hreport⟩ := Check.bind_ok hreport
      obtain ⟨lines, rfl⟩ := Check.log_ok hlog
      obtain ⟨_, z, hsay, hreport⟩ := Check.bind_ok hreport
      obtain ⟨printed, rfl⟩ := Check.say_ok hsay
      cases hreport
      exact .inr ⟨halt, x, lines, printed, rfl, hreported, rfl, rfl⟩
    · cases hreport
  · exact .inl h

theorem run_ok {c : Command} [Timeline τ] {env : Environment} {words : List String}
    (h : c.run env words w = (.ok (.ok exit), v)) :
    ∃ d p, c.defaults env = .ok d ∧ parse c.grammar words = .ok p ∧
      c.finish (c.check env d p)
        { w with logging := w.logging.configure (isDebug env p) } = (.ok exit, v) := by
  obtain ⟨d, w₁, hd, hparsed⟩ := Check.bind_ok h
  obtain ⟨hdefaults, rfl⟩ := Check.ok_of_ofFault hd
  cases hp : parse c.grammar words with
  | error refusal =>
    rw [hp] at hparsed
    cases hparsed
  | ok p =>
    rw [hp] at hparsed
    obtain ⟨misuse?, w₂, hmisuse, hscreened⟩ := Check.bind_ok hparsed
    obtain ⟨-, rfl⟩ := Check.ok_of_ofFault hmisuse
    cases misuse? with
    | some misuse => cases hscreened
    | none =>
      obtain ⟨_, w₃, hlogging, hlogged⟩ := Check.bind_ok hscreened
      cases hlogging
      obtain ⟨code, w₄, hfinish, hend⟩ := Check.bind_ok hlogged
      cases hend
      exact ⟨d, p, hdefaults, rfl, hfinish⟩

theorem crossBrowser_ends [Timeline τ] {env : Environment} {o : Runner.CrossBrowser.Options}
    (h : crossBrowser.finish (Runner.CrossBrowser.run env o) u = (.ok exit, v)) :
    (Failing env o u v ∧ exit = 1 ∧ World.Unwritten u v) ∨
      ∃ settings verdict, Settled env o u settings verdict v ∧
        exit = if verdict.failures settings = [] then 0 else 1 := by
  have hend := Runner.CrossBrowser.meets_run env o u rfl
  rcases finish_ok (by decide) h with
    hcheck | ⟨halt, x, log, printed, hcheck, hreported, rfl, rfl⟩
  · rw [hcheck] at hend
    obtain ⟨rfl, settings, verdict, hsettled, hpassed⟩ := hend
    exact .inr ⟨settings, verdict, hsettled, (if_pos hpassed).symm⟩
  · rw [hcheck] at hend
    have hsame : World.Idle x { x with log, printed } := .of_calls rfl rfl rfl rfl rfl
    rcases hend hreported with ⟨hfailing, hunwritten⟩ | ⟨settings, verdict, hsettled, hfailed⟩
    · exact .inl ⟨hfailing.idle hsame, rfl, hunwritten⟩
    · exact .inr ⟨settings, verdict, hsettled.of_same hsame rfl, (if_neg hfailed).symm⟩

/-- If a launch, an opening, a call on a page or the poll fails, the check across browsers ends with
one and writes no file. If none does, it writes a report, and ends with zero exactly if the verdict
on the two samples in it, once these are read again, has no failures; the entries beside them are
those of that verdict. -/
theorem crossBrowser_exit [Timeline τ] {env : Environment} {words : List String}
    (h : crossBrowser.run env words w = (.ok (.ok exit), v)) :
    ∃ p, parse crossBrowser.grammar words = .ok p ∧
      let o := crossBrowserOptions env p
      let start := { w with logging := w.logging.configure (isDebug env p) }
      (Failing env o start v → exit = 1 ∧ World.Unwritten w v) ∧
      (¬ Failing env o start v →
        ∃ settings output report verdict,
          Runner.CrossBrowser.settingsOf env o = .ok settings ∧ o.output = some output ∧
          v.files.read? (.ofText output) = some ((Value.record report).render ++ "\n") ∧
          Recounts report verdict ∧
          exit = if verdict.failures settings = [] then 0 else 1) := by
  obtain ⟨d, p, -, hp, hfinish⟩ := run_ok h
  refine ⟨p, hp, ?_⟩
  rcases crossBrowser_ends hfinish with ⟨hfailing, hexit, hunwritten⟩ |
    ⟨settings, verdict, hsettled, hexit⟩
  · exact ⟨fun _ => ⟨hexit, hunwritten⟩, fun hnone => absurd hfailing hnone⟩
  · obtain ⟨output, report, houtput, hread, hrecounts⟩ := hsettled.reported
    exact ⟨fun hfailing => absurd hfailing hsettled.unfailing.not_failing,
      fun _ => ⟨settings, output, report, verdict, hsettled.settings, houtput, hread, hrecounts,
        hexit⟩⟩

def withoutPassword : Environment := [("VDO_NO_PASSWORD", some "1")]

def played : World Rat :=
  World.start 0
    [{}, { samples := [false, true].map fun later => .ok (Runner.Scenario.watched later) }]

theorem crossBrowser_exit_played :
    ∃ v, crossBrowser.run withoutPassword [] played = (.ok (.ok 0), v) ∧
      ∃ p settings output report verdict,
        parse crossBrowser.grammar [] = .ok p ∧
        Runner.CrossBrowser.settingsOf withoutPassword (crossBrowserOptions withoutPassword p) =
          .ok settings ∧
        (crossBrowserOptions withoutPassword p).output = some output ∧
        v.files.read? (.ofText output) = some ((Value.record report).render ++ "\n") ∧
        Recounts report verdict ∧ verdict.failures settings = [] := by
  have hzero : (crossBrowser.run withoutPassword [] played).1.toOption.bind (·.toOption) =
      some 0 := by
    decide +kernel
  obtain ⟨v, hrun⟩ : ∃ v, crossBrowser.run withoutPassword [] played = (.ok (.ok 0), v) := by
    generalize crossBrowser.run withoutPassword [] played = r at hzero ⊢
    obtain ⟨halt | refusal | exit, v⟩ := r
    · cases hzero
    · cases hzero
    · cases hzero
      exact ⟨v, rfl⟩
  obtain ⟨p, hp, hfailing, hnone⟩ := crossBrowser_exit hrun
  obtain ⟨settings, output, report, verdict, hsettings, houtput, hread, hrecounts, hexit⟩ :=
    hnone fun h => absurd (hfailing h).1 (by decide)
  refine ⟨v, hrun, p, settings, output, report, verdict, hp, hsettings, houtput, hread, hrecounts,
    ?_⟩
  split at hexit
  · next hpassed => exact hpassed
  · cases hexit

def refusedButton : World Rat :=
  { played with
    upcoming := (.ofPlan { byRole := {
      visible := .ok true, clickFailure := some "Timeout 3000ms exceeded." } }) ::
        played.upcoming.tail }

theorem crossBrowser_exit_refusedButton :
    let v := (crossBrowser.run withoutPassword [] refusedButton).2
    (crossBrowser.run withoutPassword [] refusedButton).1.toOption.bind (·.toOption) = some 0 ∧
      ((v.page 0).script.button .role).clickFailure = some "Timeout 3000ms exceeded." ∧
      v.calls.idxOf (.clickButton 0 .role 3000) < v.calls.idxOf (.evaluate 1) ∧
      .evaluate 1 ∈ v.calls ∧ v.files.files ≠ [] := by
  decide +kernel

end StreamWatch.CommandLine.Command
