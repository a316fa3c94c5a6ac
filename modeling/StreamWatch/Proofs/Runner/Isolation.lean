import StreamWatch.Proofs.Browser.Lifetime
import StreamWatch.Proofs.Report.Writing
import StreamWatch.Proofs.Session.Endurance
import StreamWatch.Runner.Matrix

/-! What the check of several links makes of a link that goes wrong. A step that the browser refuses
is noted with its link and the next link is tried, so every link has one result in the report, in
order. One step is not guarded so: the picture of a link is named after its query, and a link that
cannot be split into its parts ends the whole check, without a report. -/
namespace StreamWatch

namespace Numeral.Integer

theorem isWritable_of_le {m n : Nat} (hmn : m ≤ n) (hn : isWritable n = true) :
    isWritable m = true := by
  have h : n < Nat.pow 10 Fault.digitLimit := of_decide_eq_true hn
  exact decide_eq_true (Nat.lt_of_le_of_lt hmn h)

end Numeral.Integer

namespace Runner.Matrix

open Browser (ByBrowser Check Ends PageScript World)
open Browser.Check (Endures)
open Json (Value)

variable {τ : Type}

def Splits (link : String) : Prop := ∃ parts, Link.Parts.ofText link.toList = .ok parts

theorem picturePath_ok_iff (link : String) (index : Int) (outputDir : String) :
    (∃ path, picturePath link index outputDir = .ok path) ↔ Splits link := by
  constructor
  · rintro ⟨path, h⟩
    obtain ⟨parts, hparts, -⟩ := Sample.bind_ok h
    exact ⟨parts, hparts⟩
  · rintro ⟨parts, hparts⟩
    rw [picturePath, hparts]
    exact ⟨_, rfl⟩

def SamplesWritable (samples : Except String (Sample.Snapshot × Sample.Snapshot)) : Prop :=
  ∀ first second, samples = .ok (first, second) →
    first.toJson.isWritable = true ∧ second.toJson.isWritable = true

theorem Result.isWritable_toJson {r : Result} (h : SamplesWritable r.samples) :
    r.toJson.isWritable = true := by
  obtain ⟨link, opened, samples, path, pictured⟩ := r
  cases samples with
  | error message =>
    cases pictured <;> simp [Result.toJson, Value.isWritable, Value.fieldsAreWritable,
      Result.sampleField, Result.sampleError]
  | ok pair =>
    obtain ⟨hfirst, hsecond⟩ := h pair.1 pair.2 rfl
    cases pictured <;> simp [Result.toJson, Value.isWritable, Value.fieldsAreWritable,
      Result.sampleField, Result.sampleError, hfirst, hsecond]

theorem Findings.isWritable_toJson {r : Findings} (hr : ∀ x ∈ r.results, SamplesWritable x.samples)
    (hcount : Numeral.Integer.isWritable r.results.length = true)
    (hhost : r.host.isWritable = true) : r.toJson.isWritable = true := by
  have hactive : Numeral.Integer.isWritable r.activeCount = true :=
    Numeral.Integer.isWritable_of_le List.countP_le_length hcount
  have hresults : Value.areWritable (r.results.map Result.toJson) = true := by
    refine Value.areWritable_iff.mpr fun v hv => ?_
    obtain ⟨x, hx, rfl⟩ := List.mem_map.mp hv
    exact Result.isWritable_toJson (hr x hx)
  simp [Findings.toJson, Value.isWritable, Value.fieldsAreWritable, hcount, hactive, hresults,
    hhost]

theorem endures_sample (page : Nat) (halfWaitMs gapMs : Int) :
    Endures (τ := τ) (sample page halfWaitMs (some gapMs))
      (fun pair => pair.1.toJson.isWritable = true ∧ pair.2.toJson.isWritable = true)
      ByBrowser := by
  apply (Check.endures_wait page halfWaitMs).bind
  intro _ _
  apply (Check.endures_nudge page).bind
  intro _ _
  apply (Check.endures_wait page halfWaitMs).bind
  intro _ _
  exact Check.endures_collectPair page gapMs

theorem endures_trySample (page : Nat) (link : String) (halfWaitMs gapMs : Int) (E : Halt → Prop) :
    Endures (τ := τ) (trySample page link halfWaitMs (some gapMs)) SamplesWritable E := by
  refine (endures_sample page halfWaitMs gapMs).attempt.bind fun r hr => ?_
  cases r with
  | ok pair =>
    refine .pure fun first second h => ?_
    cases h
    exact hr
  | error h =>
    obtain ⟨message, rfl⟩ := hr
    exact (Check.endures_log _ _ _).bind fun _ _ => .pure fun _ _ h => nomatch h

def AllDone (links : List String) (results : List Result) : Prop :=
  (∀ link ∈ links, Splits link) ∧ results.map (·.link) = links ∧
    ∀ r ∈ results, SamplesWritable r.samples

def Unsplit (links : List String) (h : Halt) : Prop :=
  (∃ link ∈ links, ¬ Splits link) ∧ ∃ f, h = .fault f

theorem Unsplit.widen {links more : List String} {h : Halt} (hh : Unsplit links h)
    (hsub : links ⊆ more) : Unsplit more h := by
  obtain ⟨⟨link, hlink, hunsplit⟩, hfault⟩ := hh
  exact ⟨⟨link, hsub hlink, hunsplit⟩, hfault⟩

theorem AllDone.nil : AllDone [] [] := ⟨nofun, rfl, nofun⟩

theorem AllDone.cons {link : String} {rest : List String} {result : Result}
    {results : List Result} (h : AllDone [link] [result]) (hrest : AllDone rest results) :
    AllDone (link :: rest) (result :: results) := by
  refine ⟨?_, ?_, ?_⟩
  · exact List.forall_mem_cons.mpr ⟨h.1 link (List.mem_singleton_self _), hrest.1⟩
  · rw [List.map_cons, hrest.2.1]
    exact congrArg (· ++ rest) h.2.1
  · exact List.forall_mem_cons.mpr ⟨h.2.2 result (List.mem_singleton_self _), hrest.2.2⟩

theorem endures_checkLink (browser : Nat) (link : String) (index waitMs gapMs : Int)
    (outputDir : String) :
    Endures (τ := τ) (checkLink browser link index (some waitMs) (some gapMs) outputDir)
      (fun r => AllDone [link] [r]) (Unsplit [link]) := by
  apply (Check.endures_openPage browser false true).bind
  rintro ⟨context, page⟩ -
  apply (Check.endures_navigate page link _).bind
  intro opened _
  apply (Check.endures_ofFault (a := waitMs) rfl).bind
  intro _ _
  apply (endures_trySample page link _ gapMs _).bind
  intro samples hsamples
  cases hpath : picturePath link index outputDir with
  | error f =>
    refine Endures.bind (P := fun _ => False) (.throw ?_) fun _ h => h.elim
    refine ⟨⟨link, List.mem_singleton_self _, fun hsplits => ?_⟩, f, rfl⟩
    obtain ⟨path, hok⟩ := (picturePath_ok_iff link index outputDir).mpr hsplits
    rw [hpath] at hok
    cases hok
  | ok path =>
    have hsplits : Splits link := (picturePath_ok_iff link index outputDir).mp ⟨path, hpath⟩
    apply (Check.endures_ofFault (a := path) rfl).bind
    intro _ _
    apply (Check.endures_takeScreenshot page _).bind
    intro pictured _
    apply (Check.endures_record (.closeContext context)).bind
    intro _ _
    refine .pure ⟨?_, rfl, ?_⟩
    · exact fun other hother => List.mem_singleton.mp hother ▸ hsplits
    · exact fun r hr => List.mem_singleton.mp hr ▸ hsamples

theorem endures_checkLinks {o : Options} {waitMs gapMs : Int}
    (hwait : o.perLinkWaitMs = some waitMs) (hgap : o.sampleGapMs = some gapMs)
    (outputDir : String) (browser total index : Nat) (links : List String) :
    Endures (τ := τ) (checkLinks o outputDir browser total index links) (AllDone links)
      (Unsplit links) := by
  induction links generalizing index with
  | nil => exact .pure .nil
  | cons link rest ih =>
    have hrest (result : Result) (hdone : AllDone [link] [result]) :
        Endures (τ := τ) (do
          let rest ← checkLinks o outputDir browser total (index + 1) rest
          pure (result :: rest)) (AllDone (link :: rest)) (Unsplit (link :: rest)) := by
      have hlater : Endures (τ := τ) (checkLinks o outputDir browser total (index + 1) rest)
          (AllDone rest) (Unsplit (link :: rest)) :=
        (ih (index + 1)).mono (fun _ h => h) fun _ hh => hh.widen (List.subset_cons_self link rest)
      exact hlater.bind fun results hresults => .pure (hdone.cons hresults)
    have hlink : Endures (τ := τ)
        (checkLink browser link index (some waitMs) (some gapMs) outputDir)
        (fun r => AllDone [link] [r]) (Unsplit (link :: rest)) :=
      (endures_checkLink browser link index waitMs gapMs outputDir).mono (fun _ h => h)
        fun _ hh => hh.widen (by simp)
    rw [checkLinks, hwait, hgap]
    refine (Check.endures_say _ _).bind fun _ _ => hlink.bind fun result hdone => ?_
    dsimp only
    split
    · exact (Check.endures_say _ _).bind fun _ _ => hrest result hdone
    · exact (Check.endures_say _ _).bind fun _ _ => hrest result hdone

/-- What a check of several links counts on: numbers and places that it can use, pages on which
nothing but the browser refuses a step, and a calendar that does not end. -/
structure Prepared (o : Options) (w : World τ) (directory report : String)
    (waitMs gapMs : Int) : Prop where
  links : o.links ≠ []
  wait : o.perLinkWaitMs = some waitMs
  gap : o.sampleGapMs = some gapMs
  outputDir : o.outputDir = some directory
  output : o.output = some report
  pages : w.Orderly
  launches : w.launchFailure .chromium = none
  calendar : ∃ start stop, w.now = some start ∧ start.nextSecond? = some stop
  made : (w.files.makeDirectory (.ofText directory)).2 = none
  accepts : (w.files.makeDirectory (.ofText directory)).1.Accepts (.ofText report)
  host : w.host.toJson.isWritable = true
  count : Numeral.Integer.isWritable o.links.length = true

section

variable {o : Options} {w : World τ} {directory report : String} {waitMs gapMs : Int}

theorem gather_launched (hp : Prepared o w directory report waitMs gapMs) :
    ∃ (startedAt : String) (stop : Report.Instant) (u : World τ),
      u.Orderly ∧ u.files = (w.files.makeDirectory (.ofText directory)).1 ∧ u.now = some stop ∧
      u.host = w.host ∧
      gather o o.links w = (do
        let results ← Check.ensuring
          (checkLinks o directory w.browsers o.links.length 1 o.links)
          (Check.closeBrowser w.browsers)
        let finishedAt ← Check.timestamp
        pure { startedAt, finishedAt, results, host := ← Report.host } : Check τ Findings) u := by
  obtain ⟨start, stop, hstart, hstop⟩ := hp.calendar
  have hmake : Check.makeDirectory (.ofText directory) w =
      (.ok (), { w with files := (w.files.makeDirectory (.ofText directory)).1 }) := by
    rw [Check.makeDirectory_run, hp.made]
  have hstarted := @Check.timestamp_run _ { w with
    files := (w.files.makeDirectory (.ofText directory)).1 } start hstart
  obtain ⟨lines, hlaunch⟩ := Check.launchChromium_run (!o.headed) false { w with
    files := (w.files.makeDirectory (.ofText directory)).1
    now := start.nextSecond? }
  dsimp only at hlaunch
  rw [hp.launches] at hlaunch
  refine ⟨start.text, stop, { w with
    files := (w.files.makeDirectory (.ofText directory)).1
    now := start.nextSecond?
    log := lines
    calls := w.calls ++ [.launch .chromium (!o.headed) false]
    browsers := w.browsers + 1 }, hp.pages.of_same rfl rfl rfl rfl, rfl, hstop, rfl, ?_⟩
  rw [gather, hp.outputDir, Check.bind_of_ok (Check.given_some directory w),
    Check.bind_of_ok hmake, Check.bind_of_ok hstarted, Check.bind_of_ok hlaunch]

theorem gather_ends (hp : Prepared o w directory report waitMs gapMs) :
    (gather o o.links w).2.files = (w.files.makeDirectory (.ofText directory)).1 ∧
      Ends (fun r => AllDone o.links r.results ∧ r.host = w.host.toJson) (Unsplit o.links)
        (gather o o.links w).1 := by
  obtain ⟨startedAt, stop, u, horderly, hfiles, hnow, hhost, hgather⟩ := gather_launched hp
  rw [hgather]
  obtain ⟨hsteady, hend⟩ := endures_checkLinks hp.wait hp.gap directory w.browsers
    o.links.length 1 o.links u horderly
  have hrun := Check.ensuring_run (Check.closeBrowser_run w.browsers)
    (checkLinks o directory w.browsers o.links.length 1 o.links) u
  generalize checkLinks o directory w.browsers o.links.length 1 o.links u = r at hsteady hend hrun
  obtain ⟨h | results, v⟩ := r
  · rw [Check.bind_of_error hrun]
    exact ⟨hsteady.files.trans hfiles, hend⟩
  · have hlast : v.now = some stop := hsteady.now.trans hnow
    have hfinished := @Check.timestamp_run _ { v with
      calls := v.calls ++ [.closeBrowser w.browsers] } stop hlast
    rw [Check.bind_of_ok hrun, Check.bind_of_ok hfinished]
    exact ⟨hsteady.files.trans hfiles, hend,
      congrArg Report.Host.toJson (hsteady.host.trans hhost)⟩

/-- A check of several links ends with a report that has one result for every link, in order, if all
of them can be split; if one cannot, the check is halted and nothing is written. -/
theorem run_reports_each_link (hp : Prepared o w directory report waitMs gapMs) :
    ((∀ link ∈ o.links, Splits link) ∧
      ∃ exit, ∃ findings : Findings, ∃ v, run o w = (.ok exit, v) ∧
        findings.results.map (·.link) = o.links ∧
        v.files.read? (.ofText report) = some (findings.toJson.render ++ "\n")) ∨
    ((∃ link ∈ o.links, ¬ Splits link) ∧
      ∃ f v, run o w = (.error (.fault f), v) ∧ World.Unwritten w v) := by
  obtain ⟨hfiles, hend⟩ := gather_ends hp
  rw [run, if_neg hp.links]
  rcases hg : gather o o.links w with ⟨h | findings, u⟩
  · rw [hg] at hfiles hend
    obtain ⟨hunsplit, f, rfl⟩ := hend
    rw [Check.bind_of_error hg]
    refine .inr ⟨hunsplit, f, u, rfl, ?_⟩
    rw [World.Unwritten, hfiles]
    exact w.files.files_makeDirectory _
  · rw [hg] at hfiles hend
    obtain ⟨⟨hsplits, hlinks, hwritable⟩, hhost⟩ := hend
    have hlength : findings.results.length = o.links.length := by
      rw [← hlinks, List.length_map]
    have hpayload : findings.toJson.isWritable = true :=
      Findings.isWritable_toJson hwritable (hlength ▸ hp.count) (hhost ▸ hp.host)
    have haccepts : u.files.Accepts (.ofText report) := hfiles ▸ hp.accepts
    obtain ⟨v, hwrite, hread⟩ := Report.write_of_accepts true hpayload haccepts
    rw [Check.bind_of_ok hg, hp.output, Check.bind_of_ok (Check.given_some report u),
      Check.bind_of_ok hwrite]
    exact .inl ⟨hsplits, _, findings, v, rfl, hlinks, hread⟩

end

def refusedThenBlank : World Rat :=
  World.start 0 [{
    openFailures := [some "net::ERR_ABORTED"]
    failAt := some 1
    screenshotFailures := [some "Target crashed"] }, {}]

theorem prepared_refusedThenBlank {links : List String} (hne : links ≠ [])
    (hcount : Numeral.Integer.isWritable links.length = true) :
    Prepared { links } refusedThenBlank "test-results/playwright-vdo-matrix"
      "playwright-vdo-matrix-check.json" 18000 7000 := by
  have hblank (n : Nat) (value : Value) (h : PageScript.sampleOf [] n = .ok value) :
      ∃ x, Sample.Snapshot.ofAnswer value = .ok x ∧ x.toJson.isWritable = true := by
    obtain rfl : Value.null = value := Except.ok.inj h
    exact ⟨_, rfl, by decide +kernel⟩
  have horderly {plan : PageScript.Plan} (hinterrupt : plan.interruptAt = none)
      (hviewport : plan.viewport = .null) (hsamples : plan.samples = []) :
      (PageScript.ofPlan plan : PageScript Rat).Orderly :=
    Browser.orderly_ofPlan hinterrupt (hviewport ▸ ⟨_, rfl⟩) (hsamples ▸ hblank)
  refine {
    links := hne
    wait := rfl
    gap := rfl
    outputDir := rfl
    output := rfl
    pages := ⟨fun _ => horderly rfl rfl rfl, fun s hs => ?_, horderly rfl rfl rfl, rfl⟩
    launches := rfl
    calendar := ⟨_, _, rfl, rfl⟩
    made := by decide +kernel
    accepts := ⟨by decide +kernel, fun text => ⟨_, rfl⟩⟩
    host := by decide +kernel
    count := hcount }
  obtain ⟨plan, hplan, rfl⟩ := List.mem_map.mp hs
  simp only [List.mem_cons, List.not_mem_nil, or_false] at hplan
  rcases hplan with rfl | rfl
  · exact horderly rfl rfl rfl
  · exact horderly rfl rfl rfl

def splitPair : List String := ["https://vdo.ninja/?view=a", "https://vdo.ninja/?view=b"]

theorem splits_of_mem_splitPair {link : String} (h : link ∈ splitPair) : Splits link := by
  simp only [splitPair, List.mem_cons, List.not_mem_nil, or_false] at h
  rcases h with rfl | rfl
  · exact ⟨_, rfl⟩
  · exact ⟨_, rfl⟩

theorem run_reports_each_link_refusedThenBlank :
    Prepared { links := splitPair } refusedThenBlank "test-results/playwright-vdo-matrix"
        "playwright-vdo-matrix-check.json" 18000 7000 ∧
      ∃ exit, ∃ findings : Findings, ∃ v,
        run { links := splitPair } refusedThenBlank = (.ok exit, v) ∧
        findings.results.map (·.link) = splitPair ∧
        v.files.read? (.ofText "playwright-vdo-matrix-check.json") =
          some (findings.toJson.render ++ "\n") := by
  have hp := @prepared_refusedThenBlank splitPair (by decide) (by decide +kernel)
  refine ⟨hp, ?_⟩
  rcases run_reports_each_link hp with ⟨-, h⟩ | ⟨⟨link, hlink, hunsplit⟩, -⟩
  · exact h
  · exact absurd (splits_of_mem_splitPair hlink) hunsplit

def unsplitPair : List String := ["http://[", "https://vdo.ninja/?view=b"]

/-- A link with an open bracket costs the other link its result, and the check its report. -/
theorem run_halts_unsplitPair :
    Prepared { links := unsplitPair } refusedThenBlank "test-results/playwright-vdo-matrix"
        "playwright-vdo-matrix-check.json" 18000 7000 ∧
      (run { links := unsplitPair } refusedThenBlank).1.toOption = none ∧
      (run { links := unsplitPair } refusedThenBlank).2.files.files = [] :=
  ⟨prepared_refusedThenBlank (by decide) (by decide +kernel), by decide +kernel,
    by decide +kernel⟩

end Runner.Matrix
end StreamWatch
