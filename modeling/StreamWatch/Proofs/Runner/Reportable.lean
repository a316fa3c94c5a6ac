import StreamWatch.Proofs.Link.Authority
import StreamWatch.Proofs.Runner.Shortfall

/-! What can be reported of a stream. Settling on a stream takes its site as a text, and reporting it
splits that text as a link. So a site that cannot be split is found out only at the end of a
scenario, and costs it its report; any other stream can be reported at every time. -/
namespace StreamWatch

namespace Stream

variable {c : Config} {f : Fault}

theorem saltOf_eq_error_iff {site : String} :
    saltOf site = .error f ↔ Link.Parts.ofText site.toList = .error f := by
  rw [saltOf]
  cases Link.Parts.ofText site.toList with
  | error g =>
    change (Except.error g : Except Fault String) = .error f ↔ _
    rw [Except.error.injEq, Except.error.injEq]
  | ok parts =>
    constructor
    · intro h
      cases h
    · intro h
      cases h

theorem Config.fields_eq_error_iff :
    c.fields = .error f ↔ Link.Parts.ofText c.site.toList = .error f := by
  rw [← saltOf_eq_error_iff, fields, hashedStream]
  cases saltOf c.site with
  | error g =>
    change (Except.error g : Except Fault _) = .error f ↔ _
    rw [Except.error.injEq, Except.error.injEq]
  | ok salt =>
    constructor
    · intro h
      cases h
    · intro h
      cases h

/-- A bracket, or a character that turns into a separator when an authority is normalized. -/
def IsSuspect (ch : Char) : Prop := ch = '[' ∨ ch = ']' ∨ Link.Parts.isDeceptive ch = true

theorem exists_suspect {s : List Char} (h : Link.Parts.ofText s = .error f) :
    ∃ ch ∈ s, IsSuspect ch := by
  have hin : Link.Parts.authorityOf s ⊆ s := Link.Parts.authorityOf_subset s
  rcases Link.Parts.mem_of_ofText_error h with (h | h) | ⟨-, ch, h, hdeceptive⟩
  · exact ⟨'[', hin h, .inl rfl⟩
  · exact ⟨']', hin h, .inr (.inl rfl)⟩
  · exact ⟨ch, hin h, .inr (.inr hdeceptive)⟩

end Stream

namespace Runner.Scenario

open Browser (Check Timeline World)
open StreamWatch.Scenario (Progress)

variable {τ : Type}

theorem summary_run {s : StreamWatch.Scenario} {fields : List (String × Json.Value)}
    (hfields : s.config.fields = .ok fields) {w : World τ} {now : Report.Instant}
    (hnow : w.now = some now) (p : Progress) :
    s.summary p w = (.ok (fields ++ p.fields now.text), { w with now := now.nextSecond? }) := by
  have hstream : Check.ofFault s.config.fields w = (.ok fields, w) := by
    rw [hfields]
    rfl
  rw [StreamWatch.Scenario.summary, Check.bind_of_ok hstream,
    Check.bind_of_ok (Check.timestamp_run hnow)]
  rfl

variable [Timeline τ]

theorem fields_of_perform {o : Options} {output : Report.Path} {s : StreamWatch.Scenario}
    {exit : Nat} {findings : Findings} {w v : World τ}
    (h : perform o output s w = (.ok (exit, findings), v)) :
    ∃ fields, s.config.fields = .ok fields := by
  obtain ⟨_, _, -, h⟩ := Check.bind_ok h
  obtain ⟨_, _, -, h⟩ := Check.bind_ok h
  obtain ⟨_, _, hsummary, -⟩ := Check.bind_ok h
  obtain ⟨fields, _, hfields, -⟩ := summary_ok hsummary
  exact ⟨fields, hfields⟩

theorem run_of_unreportable {env : Environment} {f : Fault}
    (h : (Stream.Config.ofEnvironment env).fields = .error f) (o : Options) (w : World τ) :
    World.Unwritten w (run env o w).2 ∧ ∃ halt, (run env o w).1 = .error halt := by
  have hnone {s : StreamWatch.Scenario} (hs : OfOptions env o s) {output : Report.Path}
      {exit : Nat} {findings : Findings} {u x : World τ}
      (hperform : perform o output s u = (.ok (exit, findings), x)) : False := by
    obtain ⟨fields, hfields⟩ := fields_of_perform hperform
    rw [hs.config, h] at hfields
    cases hfields
  constructor
  · have hwrites : Check.Writes (fun _ => False) (run env o) w :=
      writes_performed fun _ _ _ _ _ _ _ hstaged hperform _ _ =>
        hnone (staged_ok hstaged).2 hperform
    exact hwrites.resolve_right id
  · rcases hrun : run env o w with ⟨halt | exit, v⟩
    · exact ⟨halt, rfl⟩
    · obtain ⟨output, s, findings, u, x, hstaged, hperform, -⟩ := run_ok hrun
      exact (hnone (staged_ok hstaged).2 hperform).elim

/-- A stream that was settled on can be reported in every scenario at any point, unless its site
cannot be split for one of its characters; then every run of a scenario is lost. -/
theorem reported_unless_unsplit (env : Environment) :
    let c := Stream.Config.ofEnvironment env
    (∃ fields, c.fields = .ok fields ∧ ∀ (s : StreamWatch.Scenario) (p : Progress) (w : World τ)
      (now : Report.Instant), s.config = c → w.now = some now →
        s.summary p w =
          (.ok (fields ++ p.fields now.text), { w with now := now.nextSecond? })) ∨
    ∃ f, Link.Parts.ofText c.site.toList = .error f ∧ c.fields = .error f ∧
      (∃ ch ∈ c.site.toList, Stream.IsSuspect ch) ∧
      ∀ (o : Options) (w : World τ), World.Unwritten w (run env o w).2 ∧
        ∃ halt, (run env o w).1 = .error halt := by
  intro c
  cases hfields : c.fields with
  | ok fields =>
    refine .inl ⟨fields, rfl, fun s p w now hs hnow => ?_⟩
    exact summary_run (by rw [hs, hfields]) hnow p
  | error f =>
    have hsite := Stream.Config.fields_eq_error_iff.mp hfields
    exact .inr ⟨f, hsite, rfl, Stream.exists_suspect hsite, run_of_unreportable hfields⟩

def linkedEnvironment : Environment :=
  [("VDO_NO_PASSWORD", some "1"), ("VDO_PUSH_URL", some "https://vdo.ninja/?push=a"),
    ("VDO_VIEW_URL", some "https://vdo.ninja/?view=a")]

/-- The site is not even needed for the name of the stream, and the scenario goes well; with a site
that ends in an open bracket it has no answer and no report. -/
theorem unsplit_site_unreported :
    (Stream.Config.ofEnvironment (("VDO_HOSTNAME", some "http://[") :: linkedEnvironment)).fields =
        .error .malformedHost ∧
      (run linkedEnvironment { viewers := 2 } rehearsed).1.toOption = some 0 ∧
      (run (("VDO_HOSTNAME", some "http://[") :: linkedEnvironment) { viewers := 2 }
        rehearsed).1.toOption = none ∧
      (run (("VDO_HOSTNAME", some "http://[") :: linkedEnvironment) { viewers := 2 }
        rehearsed).2.files.files = [] := by
  refine ⟨rfl, ?_, ?_, ?_⟩
  · decide +kernel
  · decide +kernel
  · decide +kernel

end Runner.Scenario
end StreamWatch
