import StreamWatch.Poll.Loop
import StreamWatch.Proofs.Session.Sampling

/-! The course of a poll. It is a run of rounds that were not ready, each followed by a wait of the
first page, and a last round, which is the only one that gives an answer. The number of waits that
the first page has left is the measure that the rounds are counted by. -/
namespace StreamWatch.Poll

open Browser (Call Check Timeline World)
open Sample (Snapshot)
open Session (Hinders Sampled Unsampled Waits)

variable {τ : Type} [Timeline τ]

/-- A round that is not ready at a moment when the timeout is not reached: the wait after it is the
interval, or what is left of the timeout. -/
inductive Pauses (limits : Limits) (settings : Settings) (started : τ) (attempt : Nat)
    (snapshots : List Snapshot) (now : τ) : Int → Prop
  | early {timeoutMs left interval : Int} :
      snapshots.all settings.isReady = false →
      limits.timeoutMs = some timeoutMs →
      Timeline.reaches (Timeline.elapsed started now) timeoutMs = false →
      Timeline.left timeoutMs (Timeline.elapsed started now) = .ok left →
      limits.intervalMs attempt = some interval →
      Pauses limits settings started attempt snapshots now (min interval left)

/-- A round after which something cannot be told: the time it took, what its pages lack, the
timeout, what is left of it, or the interval. -/
inductive Unclear (limits : Limits) (settings : Settings) (started : τ) (attempt : Nat)
    (snapshots : List Snapshot) (now : τ) : Fault → Prop
  | span {f : Fault} :
      snapshots.all settings.isReady = true →
      Timeline.whole (Timeline.elapsed started now) = .error f →
      Unclear limits settings started attempt snapshots now f
  | lacks {f : Fault} :
      snapshots.all settings.isReady = false →
      snapshots.mapM shortfall = .error f →
      Unclear limits settings started attempt snapshots now f
  | noTimeout :
      snapshots.all settings.isReady = false →
      limits.timeoutMs = none →
      Unclear limits settings started attempt snapshots now .wrongKind
  | limit {timeoutMs : Int} :
      snapshots.all settings.isReady = false →
      limits.timeoutMs = some timeoutMs →
      Timeline.reaches (Timeline.elapsed started now) timeoutMs = true →
      Numeral.Integer.isWritable timeoutMs = false →
      Unclear limits settings started attempt snapshots now .unwritableNumber
  | left {timeoutMs : Int} {f : Fault} :
      snapshots.all settings.isReady = false →
      limits.timeoutMs = some timeoutMs →
      Timeline.reaches (Timeline.elapsed started now) timeoutMs = false →
      Timeline.left timeoutMs (Timeline.elapsed started now) = .error f →
      Unclear limits settings started attempt snapshots now f
  | noInterval {timeoutMs left : Int} :
      snapshots.all settings.isReady = false →
      limits.timeoutMs = some timeoutMs →
      Timeline.reaches (Timeline.elapsed started now) timeoutMs = false →
      Timeline.left timeoutMs (Timeline.elapsed started now) = .ok left →
      limits.intervalMs attempt = none →
      Unclear limits settings started attempt snapshots now .wrongKind

inductive UnreadyRound (limits : Limits) (settings : Settings) (first : Nat) (more : List Nat)
    (started : τ) (attempt : Nat) (u : World τ) (ms : Int) (w : World τ) : Prop
  | waited {v : World τ} {snapshots : List Snapshot} (lines : List Console.LogLine) :
      Sampled u (first :: more) snapshots v →
      Pauses limits settings started attempt snapshots v.clock ms →
      Waits { v with log := lines } first ms w →
      UnreadyRound limits settings first more started attempt u ms w

inductive UnreadyRounds (limits : Limits) (settings : Settings) (first : Nat) (more : List Nat)
    (started : τ) : Nat → World τ → List Int → World τ → Prop
  | nil (attempt : Nat) (u : World τ) :
      UnreadyRounds limits settings first more started attempt u [] u
  | cons {attempt : Nat} {u v w : World τ} {ms : Int} {rest : List Int} :
      UnreadyRound limits settings first more started attempt u ms v →
      UnreadyRounds limits settings first more started (attempt + 1) v rest w →
      UnreadyRounds limits settings first more started attempt u (ms :: rest) w

inductive LastRound (limits : Limits) (settings : Settings) (label : String) (first : Nat)
    (more : List Nat) (started : τ) (attempt : Nat) (u : World τ) :
    Except Halt (List Snapshot) → List Call → World τ → Prop
  | live {v : World τ} {snapshots : List Snapshot} (lines : List Console.LogLine) :
      Sampled u (first :: more) snapshots v →
      snapshots.all settings.isReady = true →
      LastRound limits settings label first more started attempt u (.ok snapshots)
        ((first :: more).map .evaluate) { v with log := lines }
  | timedOut {v : World τ} {snapshots : List Snapshot} {timeoutMs : Int}
      (lines : List Console.LogLine) :
      Sampled u (first :: more) snapshots v →
      snapshots.all settings.isReady = false →
      limits.timeoutMs = some timeoutMs →
      Timeline.reaches (Timeline.elapsed started v.clock) timeoutMs = true →
      Numeral.Integer.isWritable timeoutMs = true →
      LastRound limits settings label first more started attempt u
        (.error (.notLive label timeoutMs snapshots))
        ((first :: more).map .evaluate) { v with log := lines }
  | unsampled {v : World τ} {reached : List Nat} {h : Halt} :
      Unsampled u (first :: more) reached h v →
      LastRound limits settings label first more started attempt u (.error h)
        (reached.map .evaluate) v
  | unwaited {v w : World τ} {snapshots : List Snapshot} {ms : Int} {h : Halt}
      (lines : List Console.LogLine) :
      Sampled u (first :: more) snapshots v →
      Pauses limits settings started attempt snapshots v.clock ms →
      Hinders { v with log := lines } first ms h w →
      LastRound limits settings label first more started attempt u (.error h)
        ((first :: more).map .evaluate ++ [.wait first (some ms)]) w
  | unclear {v : World τ} {snapshots : List Snapshot} {f : Fault}
      (lines : List Console.LogLine) :
      Sampled u (first :: more) snapshots v →
      Unclear limits settings started attempt snapshots v.clock f →
      LastRound limits settings label first more started attempt u (.error (.fault f))
        ((first :: more).map .evaluate) { v with log := lines }

inductive RoundExec (limits : Limits) (settings : Settings) (label : String) (first : Nat)
    (more : List Nat) (started : τ) (attempt : Nat) (u : World τ) :
    Except Halt (Option (List Snapshot)) → World τ → Prop
  | answered {v : World τ} {snapshots : List Snapshot} {calls : List Call} :
      LastRound limits settings label first more started attempt u (.ok snapshots) calls v →
      RoundExec limits settings label first more started attempt u (.ok (some snapshots)) v
  | halted {v : World τ} {h : Halt} {calls : List Call} :
      LastRound limits settings label first more started attempt u (.error h) calls v →
      RoundExec limits settings label first more started attempt u (.error h) v
  | unready {v : World τ} {ms : Int} :
      UnreadyRound limits settings first more started attempt u ms v →
      RoundExec limits settings label first more started attempt u (.ok none) v

def pause (limits : Limits) (label : String) (first : Nat) (started : τ) (attempt : Nat)
    (snapshots : List Snapshot) : Check τ (Option (List Snapshot)) := do
  let span ← elapsed started
  let timeoutMs ← Check.given limits.timeoutMs
  if Timeline.reaches span timeoutMs then
    let limit ← Check.ofFault (Numeral.shown timeoutMs)
    Check.log .warning .liveness s!"{label} did not become live within {limit}ms"
    throw (.notLive label timeoutMs snapshots)
  else
    let left ← Check.ofFault (Timeline.left timeoutMs span)
    Check.wait first (some (min (← Check.given (limits.intervalMs attempt)) left))
    pure none

theorem elapsed_run (started : τ) (w : World τ) :
    elapsed started w = (.ok (Timeline.elapsed started w.clock), w) := rfl

section

variable {limits : Limits} {settings : Settings} {label : String} {first : Nat} {more : List Nat}
  {started : τ} {attempt : Nat} {u v : World τ} {snapshots : List Snapshot}

theorem round_executes_of_ready (hs : Sampled u (first :: more) snapshots v)
    (he : Check.each Session.collect (first :: more) u = (.ok snapshots, v))
    (hr : snapshots.all settings.isReady = true) :
    RoundExec limits settings label first more started attempt u
      (round settings limits label (first :: more) started attempt u).1
      (round settings limits label (first :: more) started attempt u).2 := by
  rw [round, Check.bind_of_ok he, if_pos hr, Check.bind_of_ok (elapsed_run started v)]
  cases ht : Timeline.whole (Timeline.elapsed started v.clock) with
  | error f =>
    rw [Check.bind_of_error (Check.ofFault_error f v)]
    exact .halted (.unclear v.log hs (.span hr ht))
  | ok ms =>
    obtain ⟨lines, hl⟩ := Check.log_run .info .liveness
      s!"{label} live after {Numeral.decimal ms}ms ({attempt + 1} sample(s))" v
    rw [Check.bind_of_ok (Check.ofFault_ok ms v), Check.bind_of_ok hl]
    exact .answered (.live lines hs hr)

theorem pause_executes (hs : Sampled u (first :: more) snapshots v)
    (hr : snapshots.all settings.isReady = false) (lines : List Console.LogLine) :
    RoundExec limits settings label first more started attempt u
      (pause limits label first started attempt snapshots { v with log := lines }).1
      (pause limits label first started attempt snapshots { v with log := lines }).2 := by
  rw [pause, Check.bind_of_ok (elapsed_run started _)]
  cases hT : limits.timeoutMs with
  | none =>
    rw [Check.bind_of_error (Check.given_none _)]
    exact .halted (.unclear lines hs (.noTimeout hr hT))
  | some timeoutMs =>
    rw [Check.bind_of_ok (Check.given_some timeoutMs _)]
    cases hb : Timeline.reaches (Timeline.elapsed started v.clock) timeoutMs with
    | true =>
      simp only [if_true, Numeral.shown]
      cases hw : Numeral.Integer.isWritable timeoutMs with
      | false => exact .halted (.unclear lines hs (.limit hr hT hb hw))
      | true =>
        obtain ⟨warned, hl⟩ := Check.log_run .warning .liveness
          s!"{label} did not become live within {Numeral.decimal timeoutMs}ms"
          { v with log := lines }
        rw [if_pos rfl, Check.bind_of_ok (Check.ofFault_ok _ _), Check.bind_of_ok hl]
        exact .halted (.timedOut (v := v) warned hs hr hT hb hw)
    | false =>
      rw [if_neg Bool.false_ne_true]
      cases hf : Timeline.left timeoutMs (Timeline.elapsed started v.clock) with
      | error f =>
        rw [Check.bind_of_error (Check.ofFault_error f _)]
        exact .halted (.unclear lines hs (.left hr hT hb hf))
      | ok left =>
        rw [Check.bind_of_ok (Check.ofFault_ok left _)]
        cases hi : limits.intervalMs attempt with
        | none =>
          rw [Check.bind_of_error (Check.given_none _)]
          exact .halted (.unclear lines hs (.noInterval hr hT hb hf hi))
        | some interval =>
          have hp : Pauses limits settings started attempt snapshots v.clock
              (min interval left) := .early hr hT hb hf hi
          have hx := Session.wait_executes first (min interval left) { v with log := lines }
          rw [Check.bind_of_ok (Check.given_some interval _)]
          rcases hc : Check.wait first (some (min interval left)) { v with log := lines }
            with ⟨h | _, x⟩
          · rw [hc] at hx
            rw [Check.bind_of_error hc]
            exact .halted (.unwaited lines hs hp hx)
          · rw [hc] at hx
            rw [Check.bind_of_ok hc]
            exact .unready (.waited lines hs hp hx)

theorem round_executes_of_unready (hs : Sampled u (first :: more) snapshots v)
    (he : Check.each Session.collect (first :: more) u = (.ok snapshots, v))
    (hr : snapshots.all settings.isReady = false) :
    RoundExec limits settings label first more started attempt u
      (round settings limits label (first :: more) started attempt u).1
      (round settings limits label (first :: more) started attempt u).2 := by
  rw [round, Check.bind_of_ok he, if_neg (by simp [hr])]
  cases hm : snapshots.mapM shortfall with
  | error f =>
    rw [Check.bind_of_error (Check.ofFault_error f v)]
    exact .halted (.unclear v.log hs (.lacks hr hm))
  | ok lacks =>
    let shown := String.intercalate "; " lacks
    obtain ⟨lines, hl⟩ := Check.log_run .debug .liveness s!"{label} not ready yet: {shown}" v
    rw [Check.bind_of_ok (Check.ofFault_ok lacks v), Check.bind_of_ok hl]
    exact pause_executes hs hr lines

theorem round_executes (limits : Limits) (settings : Settings) (label : String) (first : Nat)
    (more : List Nat) (started : τ) (attempt : Nat) (u : World τ) :
    RoundExec limits settings label first more started attempt u
      (round settings limits label (first :: more) started attempt u).1
      (round settings limits label (first :: more) started attempt u).2 := by
  have hs := Session.each_collect_executes (first :: more) u
  rcases he : Check.each Session.collect (first :: more) u with ⟨h | snapshots, v⟩
  · rw [he] at hs
    obtain ⟨reached, hu⟩ := hs
    rw [round, Check.bind_of_error he]
    exact .halted (.unsampled hu)
  · rw [he] at hs
    cases hr : snapshots.all settings.isReady with
    | true => exact round_executes_of_ready hs he hr
    | false => exact round_executes_of_unready hs he hr

theorem rounds_run (settings : Settings) (limits : Limits) (label : String) (pages : List Nat)
    (started : τ) (left attempt : Nat) (u : World τ) :
    rounds settings limits label pages started left attempt u =
      match round settings limits label pages started attempt u with
      | (.ok (some snapshots), v) => (.ok snapshots, v)
      | (.error h, v) => (.error h, v)
      | (.ok none, v) =>
        match left with
        | 0 => (.error (.browser Browser.waitLimitReached), v)
        | fewer + 1 => rounds settings limits label pages started fewer (attempt + 1) v := by
  cases left with
  | zero =>
    rw [rounds, Check.bind_run]
    rcases round settings limits label pages started attempt u with ⟨_ | _ | _, v⟩ <;> rfl
  | succ fewer =>
    rw [rounds, Check.bind_run]
    rcases round settings limits label pages started attempt u with ⟨_ | _ | _, v⟩ <;> rfl

theorem UnreadyRound.calls {ms : Int}
    (h : UnreadyRound limits settings first more started attempt u ms v) :
    v.calls = u.calls ++ ((first :: more).map Call.evaluate ++ [.wait first (some ms)]) := by
  obtain ⟨lines, hs, -, hw⟩ := h
  rw [hw.calls, hs.calls, List.append_assoc]

theorem UnreadyRound.waitsLeft {ms : Int}
    (h : UnreadyRound limits settings first more started attempt u ms v)
    (isOpen : first < u.pages.length) :
    (v.page first).waitsLeft + 1 = (u.page first).waitsLeft := by
  obtain ⟨lines, hs, -, hw⟩ := h
  rw [hw.waitsLeft (by simpa [hs.length_pages] using isOpen)]
  exact hs.waitsLeft first

theorem UnreadyRound.length_pages {ms : Int}
    (h : UnreadyRound limits settings first more started attempt u ms v) :
    v.pages.length = u.pages.length := by
  obtain ⟨lines, hs, -, hw⟩ := h
  exact hw.length_pages.trans hs.length_pages

theorem UnreadyRounds.calls {waits : List Int}
    (h : UnreadyRounds limits settings first more started attempt u waits v) :
    v.calls = u.calls ++ waits.flatMap fun ms =>
      (first :: more).map Call.evaluate ++ [.wait first (some ms)] := by
  induction h with
  | nil attempt u => simp
  | cons hr _ ih => rw [ih, hr.calls, List.flatMap_cons, List.append_assoc]

theorem LastRound.calls {outcome : Except Halt (List Snapshot)} {calls : List Call}
    (h : LastRound limits settings label first more started attempt u outcome calls v) :
    v.calls = u.calls ++ calls := by
  cases h with
  | live lines hs => exact hs.calls
  | timedOut lines hs => exact hs.calls
  | unsampled hu => exact hu.calls
  | unwaited lines hs _ hh => rw [hh.calls, hs.calls, List.append_assoc]
  | unclear lines hs => exact hs.calls

theorem rounds_executes (limits : Limits) (settings : Settings) (label : String) (first : Nat)
    (more : List Nat) (started : τ) (left attempt : Nat) (u : World τ)
    (isOpen : first < u.pages.length) (hl : (u.page first).waitsLeft = left) :
    ∃ waits v calls,
      UnreadyRounds limits settings first more started attempt u waits v ∧
      LastRound limits settings label first more started (attempt + waits.length) v
        (rounds settings limits label (first :: more) started left attempt u).1 calls
        (rounds settings limits label (first :: more) started left attempt u).2 := by
  induction left using Nat.strongRecOn generalizing attempt u with
  | ind left ih =>
    have hx := round_executes limits settings label first more started attempt u
    rw [rounds_run]
    generalize round settings limits label (first :: more) started attempt u = r at hx ⊢
    obtain ⟨answer, x⟩ := r
    cases hx with
    | answered ha => exact ⟨[], u, _, .nil attempt u, ha⟩
    | halted hh => exact ⟨[], u, _, .nil attempt u, hh⟩
    | unready hu =>
      -- The wait after this round is used up, so fewer rounds can follow.
      have hw : (x.page first).waitsLeft + 1 = (u.page first).waitsLeft := hu.waitsLeft isOpen
      have hopen : first < x.pages.length := by rw [hu.length_pages]; exact isOpen
      obtain ⟨fewer, rfl⟩ : ∃ n, left = n + 1 := ⟨(x.page first).waitsLeft, by omega⟩
      obtain ⟨waits, v, calls, hrs, hlast⟩ := ih fewer (by omega) (attempt + 1) x hopen (by omega)
      refine ⟨_ :: waits, v, calls, .cons hu hrs, ?_⟩
      rwa [List.length_cons, Nat.add_comm waits.length, ← Nat.add_assoc]

end

/-- How a poll goes that starts in the world `w`: rounds that were not ready, a last round, and no
other calls than those of these rounds. -/
def Course (limits : Limits) (settings : Settings) (label : String) (first : Nat)
    (more : List Nat) (w : World τ) (outcome : Except Halt (List Snapshot)) (w' : World τ) : Prop :=
  ∃ waits u calls,
    UnreadyRounds limits settings first more w.clock 0 w waits u ∧
    LastRound limits settings label first more w.clock waits.length u outcome calls w' ∧
    w'.calls = w.calls ++
      (waits.flatMap fun ms => (first :: more).map Call.evaluate ++ [.wait first (some ms)]) ++
      calls

/-- Every poll of an open page and any others follows its course, whatever the pages answer and the
clock shows. -/
theorem untilLiveWithin_course (limits : Limits) (settings : Settings) (label : String)
    (first : Nat) (more : List Nat) (w : World τ) (isOpen : first < w.pages.length) :
    Course limits settings label first more w
      (untilLiveWithin limits settings label (first :: more) w).1
      (untilLiveWithin limits settings label (first :: more) w).2 := by
  have hrun : untilLiveWithin limits settings label (first :: more) w =
      rounds settings limits label (first :: more) w.clock (w.page first).waitsLeft 0 w := rfl
  obtain ⟨waits, u, calls, hrs, hlast⟩ := rounds_executes limits settings label first more w.clock
    (w.page first).waitsLeft 0 w isOpen rfl
  rw [Nat.zero_add] at hlast
  rw [hrun]
  exact ⟨waits, u, calls, hrs, hlast, by rw [hlast.calls, hrs.calls]⟩

theorem untilLiveWithin_course_twoPages :
    0 < (World.start (0 : Rat) [{ latencyMs := 5 }]).addPage.addPage.pages.length ∧
      Course (Settings.limits {}) {} defaultLabel 0 [1]
        (World.start (0 : Rat) [{ latencyMs := 5 }]).addPage.addPage
        (untilLiveWithin (Settings.limits {}) {} defaultLabel [0, 1]
          (World.start (0 : Rat) [{ latencyMs := 5 }]).addPage.addPage).1
        (untilLiveWithin (Settings.limits {}) {} defaultLabel [0, 1]
          (World.start (0 : Rat) [{ latencyMs := 5 }]).addPage.addPage).2 :=
  ⟨by decide, untilLiveWithin_course (Settings.limits {}) {} defaultLabel 0 [1]
    (World.start (0 : Rat) [{ latencyMs := 5 }]).addPage.addPage (by decide)⟩

end StreamWatch.Poll
