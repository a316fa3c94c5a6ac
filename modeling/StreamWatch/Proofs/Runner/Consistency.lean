import StreamWatch.Browser.Rehearsal
import StreamWatch.Proofs.Browser.Lifetime
import StreamWatch.Proofs.Report.Writing
import StreamWatch.Proofs.Session.Usage
import StreamWatch.Proofs.Verdict.Rereading
import StreamWatch.Runner.Matrix

/-! What the report on several links says. Each link has one result, which holds all of its evidence
or none: two samples with the verdict on them, or an error. Which of these it is depends on the
waits, the click and the evaluations on its page, and not on how opening it went. The figures of the
summary and the answer of the check follow from the results. -/
namespace StreamWatch.Runner.Matrix

open Browser (Check PageScript Prospect Refused Usage World)
open Browser.Check (Meets)
open Browser.Rehearsal (get)
open Json (Value)
open Sample (Snapshot)

variable {τ : Type}

structure Serves (s : PageScript τ) : Prop where
  waits : ∀ n < 3, s.wait n = .passes
  limit : 3 ≤ s.waitLimit
  click : s.clickFailure 0 = none
  samples : ∀ n < 2, ∃ value, s.sample n = .ok value

def Sampled (s : PageScript τ) : Except String (Snapshot × Snapshot) → Prop
  | .ok (first, second) => Serves s ∧ s.Shows 0 first ∧ s.Shows 1 second
  | .error _ => ¬ Serves s

structure Result.Follows (s : PageScript τ) (link : String) (r : Result) : Prop where
  link : r.link = link
  opened : r.opened = s.openFailure 0
  samples : Sampled s r.samples

theorem meets_sample {s : PageScript τ} {c : Prospect τ} (page opened : Nat) (halfWaitMs : Int)
    (gapMs : Option Int) :
    Meets (World.At page { script := s, opened } c) (sample page halfWaitMs gapMs)
      (fun pair v => Sampled s (.ok pair) ∧ v.prospect = c) (Refused c (Serves s)) := by
  have hwait (n : Nat) (hn : n < 3) (h : Serves s) : s.wait n = .passes ∧ n < s.waitLimit :=
    ⟨h.waits n hn, Nat.lt_of_lt_of_le hn h.limit⟩
  -- A step that is refused shows that the page does not serve; what the others show adds up to that
  -- it does.
  refine (Check.meets_wait _ (hwait 0 (by decide))).bind fun _ => Meets.known fun hfirst => ?_
  refine (Check.meets_nudge Serves.click).bind fun _ => Meets.known fun hclick => ?_
  refine (Check.meets_wait _ (hwait 1 (by decide))).bind fun _ => Meets.known fun hsecond => ?_
  refine (Check.meets_collect fun h => h.samples 0 (by decide)).bind fun first =>
    Meets.known fun hbefore => ?_
  refine (Check.meets_wait _ (hwait 2 (by decide))).bind fun _ => Meets.known fun hgap => ?_
  refine (Check.meets_collect fun h => h.samples 1 (by decide)).bind fun second =>
    Meets.known fun hafter => .pure fun v hv => ⟨⟨?_, hbefore, hafter⟩, hv.prospect⟩
  obtain ⟨before, hbefore, -⟩ := hbefore
  obtain ⟨after, hafter, -⟩ := hafter
  refine ⟨fun n hn => ?_, hgap.2, hclick, fun n hn => ?_⟩
  · match n, hn with
    | 0, _ => exact hfirst.1
    | 1, _ => exact hsecond.1
    | 2, _ => exact hgap.1
  · match n, hn with
    | 0, _ => exact ⟨before, hbefore⟩
    | 1, _ => exact ⟨after, hafter⟩

theorem meets_trySample {s : PageScript τ} {c : Prospect τ} (page opened : Nat) (link : String)
    (halfWaitMs : Int) (gapMs : Option Int) :
    Meets (World.At page { script := s, opened } c) (trySample page link halfWaitMs gapMs)
      (fun samples v => Sampled s samples ∧ v.prospect = c) (fun _ v => c.Unwritten v) := by
  refine (meets_sample page opened halfWaitMs gapMs).attempt.bind fun r => ?_
  cases r with
  | ok pair => exact .pure fun v hv => hv
  | error h =>
    cases h with
    | browser message =>
      have hnoted (hnot : ¬ Serves s) : Meets (τ := τ) (·.prospect = c) (do
          Check.log .warning .matrix s!"Sampling {link} failed: {message}"
          pure (.error message)) (fun samples v => Sampled s samples ∧ v.prospect = c)
          (fun _ v => c.Unwritten v) :=
        (Check.aside_log _ _ _).meets.bind fun _ => .pure fun v hv => ⟨hnot, hv⟩
      exact fun w hw => hnoted (hw.2 ⟨message, rfl⟩) w hw.1
    | _ => exact .throw fun v hv => congrArg Prospect.files hv.1

theorem meets_checkLink {c : Prospect τ} (browser : Nat) (link : String) (index : Int)
    (perLinkWaitMs sampleGapMs : Option Int) (outputDir : String) :
    Meets (·.prospect = c) (checkLink browser link index perLinkWaitMs sampleGapMs outputDir)
      (fun r v => r.Follows (c.scripts 0) link ∧ v.prospect = c.next)
      (fun _ v => c.Unwritten v) := by
  apply (Check.meets_openPage browser false).bind
  rintro ⟨context, page⟩
  apply (Check.meets_navigate link _).bind
  intro opened
  apply Meets.known
  intro hopened
  apply (Meets.ofFault fun _ _ hw => congrArg Prospect.files hw.prospect).bind
  intro waitMs
  apply Meets.known
  intro _
  apply (meets_trySample page 1 link _ sampleGapMs).bind
  intro samples
  apply Meets.known
  intro hsamples
  apply (Check.aside_ofFault _).meets.bind
  intro path
  apply (Check.aside_takeScreenshot page path).meets.bind
  intro pictured
  apply (Check.aside_closeContext context).meets.bind
  intro _
  exact .pure fun v hv => ⟨⟨rfl, hopened, hsamples⟩, hv⟩

def Follow (scripts : Nat → PageScript τ) (links : List String) (results : List Result) : Prop :=
  results.length = links.length ∧
    ∀ i link, links[i]? = some link → ∃ r, results[i]? = some r ∧ Result.Follows (scripts i) link r

theorem Follow.nil (scripts : Nat → PageScript τ) : Follow scripts [] [] := ⟨rfl, nofun⟩

theorem Follow.cons {scripts : Nat → PageScript τ} {link : String} {links : List String}
    {r : Result} {results : List Result} (hr : r.Follows (scripts 0) link)
    (h : Follow (fun i => scripts (i + 1)) links results) :
    Follow scripts (link :: links) (r :: results) := by
  refine ⟨congrArg (· + 1) h.1, fun i other hother => ?_⟩
  cases i with
  | zero =>
    cases hother
    exact ⟨r, rfl, hr⟩
  | succ i => exact h.2 i other hother

theorem meets_checkLinks {c : Prospect τ} (o : Options) (outputDir : String)
    (browser total index : Nat) (links : List String) :
    Meets (·.prospect = c) (checkLinks o outputDir browser total index links)
      (fun results v => Follow c.scripts links results ∧ c.Unwritten v)
      (fun _ v => c.Unwritten v) := by
  -- Each link uses up a page, so the rest of the links are checked on the rest of the scripts.
  induction links generalizing index c with
  | nil => exact .pure fun v hv => ⟨.nil _, congrArg Prospect.files hv⟩
  | cons link rest ih =>
    have hrest (result : Result) (hresult : result.Follows (c.scripts 0) link) :
        Meets (τ := τ) (·.prospect = c.next) (do
          let rest ← checkLinks o outputDir browser total (index + 1) rest
          pure (result :: rest))
          (fun results v => Follow c.scripts (link :: rest) results ∧ c.Unwritten v)
          (fun _ v => c.Unwritten v) :=
      (ih (index + 1)).bind fun results => .pure fun v hv => ⟨hv.1.cons hresult, hv.2⟩
    refine (Check.aside_say _ _).meets.bind fun _ =>
      (meets_checkLink browser link _ _ _ _).bind fun result => Meets.known fun hresult => ?_
    dsimp only
    split
    · exact (Check.aside_say _ _).meets.bind fun _ => hrest result hresult
    · exact (Check.aside_say _ _).meets.bind fun _ => hrest result hresult

theorem meets_gather {c : Prospect τ} (o : Options) (links : List String) :
    Meets (·.prospect = c) (gather o links)
      (fun findings v => Follow c.scripts links findings.results ∧ c.Unwritten v)
      (fun _ v => c.Unwritten v) := by
  refine (Check.aside_ofFault _).meets.bind fun outputDir =>
    (Check.aside_makeDirectory _).meets.bind fun _ => Check.aside_timestamp.meets.bind fun _ =>
    (Check.aside_launchChromium _ _).meets.bind fun browser => ?_
  have hlinks : Meets (·.prospect = c)
      (Check.ensuring (checkLinks o outputDir browser links.length 1 links)
        (Check.closeBrowser browser))
      (fun results v => Follow c.scripts links results ∧ c.Unwritten v)
      (fun _ v => c.Unwritten v) :=
    (meets_checkLinks o outputDir browser links.length 1 links).ensuring
      (Check.closeBrowser_run browser) (fun _ _ hv => hv) fun _ _ hv => hv
  exact hlinks.bind fun results => Meets.known fun hfollow => Check.aside_timestamp.unwritten.bind
    fun finishedAt => Check.meets_get.bind fun w => .pure fun v hv => ⟨hfollow, hv⟩

def flags : List (String × (Verdict → Bool)) := [
  ("playbackAdvanced", (·.playbackAdvanced)), ("hasInboundBytes", (·.hasInboundBytes)),
  ("hasVideoMetadata", (·.hasMetadata)), ("hasAudioTrack", (·.hasAudioTrack)),
  ("hasVideoTrack", (·.hasVideoTrack)), ("verdictMediaActive", (·.mediaActive))]

/-- All of the evidence, or none of it. The samples of a page are read again from its result, and
the flags are those of the verdict on what was read. -/
inductive Evidence (s : PageScript τ) (result : List (String × Value)) : Prop
  | sampled {first second before after : Snapshot} :
      Serves s → s.Shows 0 first → s.Shows 1 second →
      Value.find? "sampleError" result = none →
      Snapshot.ofJson (Value.field "sample1" result) = .ok before → first.Agrees before →
      Snapshot.ofJson (Value.field "sample2" result) = .ok after → second.Agrees after →
      (∀ flag ∈ flags,
        Value.field flag.1 result = .bool (flag.2 (.ofSnapshots before after))) →
      Evidence s result
  | failed {message : String} :
      ¬ Serves s →
      Value.find? "sampleError" result = some (.text message) →
      Value.field "sample1" result = .null → Value.field "sample2" result = .null →
      (∀ flag ∈ flags, Value.field flag.1 result = .bool false) →
      Evidence s result

structure LinkBacked (s : PageScript τ) (link : String) (result : List (String × Value)) :
    Prop where
  inputUrl : Value.field "inputUrl" result = .text link
  gotoOk : Value.field "gotoOk" result = .bool (s.openFailure 0).isNone
  evidence : Evidence s result

theorem Result.fields_toJson (r : Result) : ∃ fields, r.toJson = .record fields ∧
    Value.field "inputUrl" fields = .text r.link ∧
    Value.field "gotoOk" fields = .bool r.opened.isNone ∧
    Value.field "sample1" fields = r.sampleField (·.1) ∧
    Value.field "sample2" fields = r.sampleField (·.2) ∧
    (∀ flag ∈ flags, Value.field flag.1 fields = .bool (r.holds flag.2)) ∧
    Value.find? "sampleError" fields = Value.find? "sampleError" r.sampleError := by
  refine ⟨_, rfl, ?_, ?_, ?_, ?_, ?_, ?_⟩
  · simp [Sample.field_cons]
  · simp [Sample.field_cons]
  · simp [Sample.field_cons]
  · simp [Sample.field_cons]
  · simp [flags, Sample.field_cons, Result.isActive]
  · obtain ⟨link, opened, samples, path, pictured⟩ := r
    cases samples with
    | ok pair => cases pictured <;> simp [Value.find?, Result.sampleError]
    | error message => simp [Value.find?, Result.sampleError]

theorem linkBacked_toJson {s : PageScript τ} {link : String} {r : Result} (h : r.Follows s link) :
    ∃ fields, r.toJson = .record fields ∧ LinkBacked s link fields := by
  obtain ⟨fields, hjson, hlink, hgoto, hfirst, hsecond, hflags, herror⟩ := r.fields_toJson
  refine ⟨fields, hjson, h.link ▸ hlink, h.opened ▸ hgoto, ?_⟩
  obtain ⟨link, opened, samples, path, pictured⟩ := r
  have hsamples := h.samples
  cases samples with
  | ok pair =>
    obtain ⟨first, second⟩ := pair
    obtain ⟨hserves, hshows, hshows'⟩ := hsamples
    have hread := hshows.readable
    have hread' := hshows'.readable
    refine .sampled hserves hshows hshows' herror ?_ first.agrees_settled ?_ second.agrees_settled
      fun flag hflag => ?_
    · rw [hfirst]
      exact Snapshot.ofJson_toJson_of_readable hread
    · rw [hsecond]
      exact Snapshot.ofJson_toJson_of_readable hread'
    · rw [hflags flag hflag, Verdict.ofSnapshots_settled]
      rfl
  | error message =>
    exact .failed hsamples herror hfirst hsecond hflags

def showsActive (result : Value) : Bool :=
  match get result "verdictMediaActive" with
  | .bool active => active
  | _ => false

theorem showsActive_toJson (r : Result) : showsActive r.toJson = r.isActive := rfl

structure Consistent (scripts : Nat → PageScript τ) (links : List String) (exit : Nat)
    (results : List Value) (report : Value) : Prop where
  listed : get report "results" = .list results
  length : results.length = links.length
  backed : ∀ i link, links[i]? = some link →
    ∃ result, results[i]? = some (.record result) ∧ LinkBacked (scripts i) link result
  total : get (get report "summary") "total" = .int links.length
  count : get (get report "summary") "mediaActiveCount" = .int (results.countP showsActive)
  active : get (get report "summary") "anyMediaActive" =
    .bool (decide (0 < results.countP showsActive))
  answer : exit = if 0 < results.countP showsActive then 0 else 1

theorem consistent_of_follow {scripts : Nat → PageScript τ} {links : List String} {r : Findings}
    (h : Follow scripts links r.results) :
    Consistent scripts links (if r.anyActive then 0 else 1) (r.results.map Result.toJson)
      r.toJson := by
  have hcount : (r.results.map Result.toJson).countP showsActive = r.activeCount := by
    rw [List.countP_map, Findings.activeCount]
    exact congrArg (List.countP · r.results) (funext showsActive_toJson)
  have hany : r.anyActive = decide (0 < r.activeCount) := by
    rw [Bool.eq_iff_iff, Findings.anyActive, Findings.activeCount, decide_eq_true_eq,
      List.countP_pos_iff, List.any_eq_true]
  refine ⟨rfl, ?_, fun i link hlink => ?_, ?_, ?_, ?_, ?_⟩
  · rw [List.length_map, h.1]
  · obtain ⟨x, hx, hfollows⟩ := h.2 i link hlink
    obtain ⟨fields, hjson, hbacked⟩ := linkBacked_toJson hfollows
    refine ⟨fields, ?_, hbacked⟩
    rw [List.getElem?_map, hx, ← hjson]
    rfl
  · rw [← h.1]
    rfl
  · rw [hcount]
    rfl
  · rw [hcount, ← hany]
    rfl
  · simp only [hcount, hany, decide_eq_true_eq]

/-- A check of several links is halted without a report, or its report is consistent. -/
theorem run_consistent (o : Options) (w : World τ) :
    (World.Unwritten w (run o w).2 ∧ ∃ h, (run o w).1 = .error h) ∨
    ∃ output exit results, ∃ report : Value, o.output = some output ∧
      (run o w).1 = .ok exit ∧
      (run o w).2.files.read? (.ofText output) = some (report.render ++ "\n") ∧
      Consistent (fun i => w.upcoming.getD i w.blank)
        (if o.links = [] then defaultLinks else o.links) exit results report := by
  have hgather := meets_gather o (if o.links = [] then defaultLinks else o.links) w rfl
  rw [run]
  rcases hg : gather o (if o.links = [] then defaultLinks else o.links) w with ⟨h | findings, u⟩
  · rw [hg] at hgather
    rw [Check.bind_of_error hg]
    exact .inl ⟨hgather, h, rfl⟩
  · rw [hg] at hgather
    obtain ⟨hfollow, hunwritten⟩ := hgather
    rw [Check.bind_of_ok hg]
    cases houtput : o.output with
    | none => exact .inl ⟨hunwritten, _, rfl⟩
    | some output =>
      rw [Check.bind_of_ok (Check.given_some output u)]
      have hwrite := Report.write_run findings.toJson (.ofText output) true u
      rcases hw : Report.write findings.toJson (.ofText output) true u with ⟨h | _, v⟩
      · rw [hw] at hwrite
        rw [Check.bind_of_error hw]
        rcases hwrite with ⟨hv, -⟩ | ⟨-, hok⟩
        · exact .inl ⟨hv.trans hunwritten, h, rfl⟩
        · cases hok
      · rw [Check.bind_of_ok hw]
        exact .inr ⟨output, _, _, findings.toJson, rfl, rfl, Report.read?_of_write_ok hw,
          consistent_of_follow hfollow⟩

def unopened : World Rat :=
  let sample (time : Int) : Value :=
    .record [("videos", .list [.record [("currentTime", .int time)]])]
  World.start 0 [
    { openFailures := [some "net::ERR_ABORTED"], samples := [.ok (sample 0), .ok (sample 1)] },
    { failAt := some 1 }]

example :
    (gather {} ["https://a/", "https://b/"] unopened).1.toOption.map (fun r =>
        r.results.map fun x => (x.opened.isNone, x.samples.toOption.isSome, x.isActive)) =
      some [(false, true, true), (true, false, false)] := by
  decide +kernel

example : (run { links := ["https://a/", "https://b/"] } unopened).1.toOption = some 0 := by
  decide +kernel

end StreamWatch.Runner.Matrix
