import Mathlib.Algebra.BigOperators.Group.List.Basic
import Mathlib.Data.Rat.Floor
import StreamWatch.Proofs.Poll.Rounds

/-! When a poll samples. On an exact clock, with evaluations that take no time and waits as long as
asked for, every round begins when the intervals before it are over, or at the timeout if that comes
first. So the last round of a poll that times out is sampled at the timeout, no earlier and no
later, and a page that is ready by then is in time. -/
namespace StreamWatch.Poll

open Browser (Call Check PageScript Timeline World)
open Sample (Snapshot)
open Session (Gives Hinders Refuses Sampled Unsampled Waits)

namespace Settings

variable {settings : Settings}

def total (settings : Settings) (k : Nat) : Int := ((List.range k).map settings.interval).sum

/-- When round `k` is due, in milliseconds from the start of the poll. -/
def due (settings : Settings) (k : Nat) : Int := min (settings.total k) settings.timeoutMs

theorem total_succ (settings : Settings) (k : Nat) :
    settings.total (k + 1) = settings.total k + settings.interval k := by
  simp [total, List.range_succ]

theorem interval_of_nil (h : settings.intervalsMs = []) (k : Nat) : settings.interval k = 1000 := by
  rw [interval, h]

theorem interval_mem (h : settings.intervalsMs ≠ []) (k : Nat) :
    settings.interval k ∈ settings.intervalsMs := by
  rw [interval]
  cases hi : settings.intervalsMs with
  | nil => exact absurd hi h
  | cons first more =>
    simp only [List.getD_eq_getElem?_getD]
    cases hk : (first :: more)[k]? with
    | some ms => exact List.mem_of_getElem? hk
    | none =>
      rw [Option.getD_none, List.getLastD_eq_getLast?]
      cases hl : more.getLast? with
      | none => exact List.mem_cons_self
      | some last => exact List.mem_cons_of_mem _ (List.mem_of_getLast? hl)

theorem interval_pos (h : ∀ ms ∈ settings.intervalsMs, 1 ≤ ms) (k : Nat) :
    1 ≤ settings.interval k := by
  by_cases hi : settings.intervalsMs = []
  · rw [interval_of_nil hi]
    omega
  · exact h _ (interval_mem hi k)

theorem total_mono (h : ∀ ms ∈ settings.intervalsMs, 1 ≤ ms) {j k : Nat} (hjk : j ≤ k) :
    settings.total j ≤ settings.total k := by
  induction hjk with
  | refl => exact Int.le_refl _
  | @step k _ ih =>
    have hpos := interval_pos h k
    rw [total_succ]
    omega

theorem due_zero (h : 0 < settings.timeoutMs) : settings.due 0 = 0 := by
  change min 0 settings.timeoutMs = 0
  omega

theorem due_le (settings : Settings) (k : Nat) : settings.due k ≤ settings.timeoutMs :=
  Int.min_le_right _ _

theorem due_succ {k : Nat} (h : settings.due k < settings.timeoutMs) :
    min (settings.interval k) (settings.timeoutMs - settings.due k) =
      settings.due (k + 1) - settings.due k := by
  have hsucc := settings.total_succ k
  unfold due at *
  omega

end Settings

def Instant (u : World Rat) (pages : List Nat) : Prop :=
  ∀ k ∈ pages, ∀ n t, (u.page k).script.sampled n t = .ok t

structure Punctual (u : World Rat) (pages : List Nat) : Prop where
  instant : Instant u pages
  passes : ∀ first ∈ pages.head?, ∀ n, (u.page first).script.wait n = .passes
  waited : ∀ first ∈ pages.head?, ∀ n ms t, (u.page first).script.waited n ms t = .ok (t + ms)

section

variable {u v : World Rat} {pages : List Nat} {snapshots : List Snapshot}

theorem Punctual.of_script (hp : Punctual u pages)
    (hs : ∀ k, (v.page k).script = (u.page k).script) : Punctual v pages := by
  refine ⟨?_, ?_, ?_⟩
  · intro k hk
    rw [hs k]
    exact hp.instant k hk
  · intro first hfirst
    rw [hs first]
    exact hp.passes first hfirst
  · intro first hfirst
    rw [hs first]
    exact hp.waited first hfirst

theorem punctual_of_plan (h : ∀ k ∈ pages, ∃ plan : PageScript.Plan,
    (u.page k).script = .ofPlan plan ∧ plan.latencyMs = 0 ∧ plan.interruptAt = none ∧
      plan.failAt = none) : Punctual u pages := by
  refine ⟨?_, ?_, ?_⟩
  · intro k hk n t
    obtain ⟨plan, hscript, hlatency, -, -⟩ := h k hk
    rw [hscript]
    change Except.ok (t + (plan.latencyMs : Rat)) = _
    rw [hlatency, Int.cast_zero, add_zero]
  · intro first hfirst n
    obtain ⟨plan, hscript, -, hinterrupt, hfail⟩ := h first (List.mem_of_mem_head? hfirst)
    simp [hscript, PageScript.ofPlan, hinterrupt, hfail]
  · intro first hfirst n ms t
    obtain ⟨plan, hscript, -⟩ := h first (List.mem_of_mem_head? hfirst)
    rw [hscript]
    rfl

theorem clock_of_gives {k : Nat} {s : Snapshot} (hi : Instant u (k :: pages))
    (h : Gives u k s v) : v.clock = u.clock ∧ Instant v pages := by
  refine ⟨?_, fun j hj => ?_⟩
  · obtain ⟨lines, ht, -, -, -⟩ := h
    rw [hi k List.mem_cons_self] at ht
    exact (Except.ok.inj ht).symm
  · rw [h.script j]
    exact hi j (List.mem_cons_of_mem _ hj)

theorem clock_of_refuses {k : Nat} {h : Halt} (hi : Instant u (k :: pages))
    (hr : Refuses u k h v) : v.clock = u.clock := by
  cases hr with
  | untimed ht => rfl
  | failed ht _ =>
    rw [hi k List.mem_cons_self] at ht
    exact (Except.ok.inj ht).symm
  | unreadable ht _ _ =>
    rw [hi k List.mem_cons_self] at ht
    exact (Except.ok.inj ht).symm
  | unplaced ht _ _ _ =>
    rw [hi k List.mem_cons_self] at ht
    exact (Except.ok.inj ht).symm

theorem clock_of_sampled (hi : Instant u pages) (h : Sampled u pages snapshots v) :
    v.clock = u.clock := by
  induction h with
  | nil u => rfl
  | cons hg _ ih =>
    obtain ⟨hclock, hrest⟩ := clock_of_gives hi hg
    exact (ih hrest).trans hclock

theorem clock_of_unsampled {reached : List Nat} {h : Halt} (hi : Instant u pages)
    (hu : Unsampled u pages reached h v) : v.clock = u.clock := by
  induction hu with
  | here pages hr => exact clock_of_refuses hi hr
  | later hg _ ih =>
    obtain ⟨hclock, hrest⟩ := clock_of_gives hi hg
    exact (ih hrest).trans hclock

theorem clock_of_waits {first : Nat} {ms : Int}
    (hp : ∀ n ms t, (u.page first).script.waited n ms t = .ok (t + ms)) (h : Waits u first ms v) :
    v.clock = u.clock + ms := by
  obtain ⟨-, -, ht⟩ := h
  rw [hp] at ht
  exact (Except.ok.inj ht).symm

end

structure SampledWhenDue (settings : Settings) (pages : List Nat) (started : Rat) (k : Nat)
    (u : World Rat) (snapshots : List Snapshot) (v : World Rat) : Prop where
  sampled : Sampled u pages snapshots v
  begins : u.clock = started + settings.due k
  ends : v.clock = started + settings.due k

/-- The rounds of a poll from round `k` on, and how the poll ends. Every round begins when it is
due, only the last one can be ready, and one that is not ready is the last if it is due at the
timeout. -/
inductive OnTime (settings : Settings) (label : String) (pages : List Nat) (started : Rat) :
    Nat → World Rat → Except Halt (List Snapshot) → World Rat → Prop
  | live {k : Nat} {u v : World Rat} {snapshots : List Snapshot} (lines : List Console.LogLine) :
      SampledWhenDue settings pages started k u snapshots v →
      snapshots.all settings.isReady = true →
      OnTime settings label pages started k u (.ok snapshots) { v with log := lines }
  | timedOut {k : Nat} {u v : World Rat} {snapshots : List Snapshot}
      (lines : List Console.LogLine) :
      SampledWhenDue settings pages started k u snapshots v →
      snapshots.all settings.isReady = false →
      settings.due k = settings.timeoutMs →
      Numeral.Integer.isWritable settings.timeoutMs = true →
      OnTime settings label pages started k u
        (.error (.notLive label settings.timeoutMs snapshots)) { v with log := lines }
  | overlong {k : Nat} {u v : World Rat} {snapshots : List Snapshot}
      (lines : List Console.LogLine) :
      SampledWhenDue settings pages started k u snapshots v →
      snapshots.all settings.isReady = false →
      settings.due k = settings.timeoutMs →
      Numeral.Integer.isWritable settings.timeoutMs = false →
      OnTime settings label pages started k u (.error (.fault .unwritableNumber))
        { v with log := lines }
  | later {k first : Nat} {u v w x : World Rat} {snapshots : List Snapshot}
      {outcome : Except Halt (List Snapshot)} (lines : List Console.LogLine) :
      SampledWhenDue settings pages started k u snapshots v →
      snapshots.all settings.isReady = false →
      settings.due k < settings.timeoutMs →
      pages.head? = some first →
      Waits { v with log := lines } first (settings.due (k + 1) - settings.due k) w →
      OnTime settings label pages started (k + 1) w outcome x →
      OnTime settings label pages started k u outcome x
  | unsampled {k : Nat} {u v : World Rat} {reached : List Nat} {h : Halt} :
      Unsampled u pages reached h v →
      u.clock = started + settings.due k →
      v.clock = started + settings.due k →
      OnTime settings label pages started k u (.error h) v
  | untold {k : Nat} {u v : World Rat} {snapshots : List Snapshot} {f : Fault}
      (lines : List Console.LogLine) :
      SampledWhenDue settings pages started k u snapshots v →
      snapshots.all settings.isReady = false →
      snapshots.mapM shortfall = .error f →
      OnTime settings label pages started k u (.error (.fault f)) { v with log := lines }

section

variable {settings : Settings} {label : String} {first : Nat} {more : List Nat} {started : Rat}
  {k : Nat} {u v : World Rat} {snapshots : List Snapshot}

theorem Punctual.whenDue (hp : Punctual u (first :: more))
    (hclock : u.clock = started + settings.due k)
    (hs : Sampled u (first :: more) snapshots v) :
    SampledWhenDue settings (first :: more) started k u snapshots v :=
  ⟨hs, hclock, (clock_of_sampled hp.instant hs).trans hclock⟩

theorem elapsed_due (started : Rat) (ms : Int) :
    Timeline.elapsed started (started + ms : Rat) = (ms : Rat) :=
  add_sub_cancel_left started (ms : Rat)

theorem reaches_iff (span limit : Int) :
    Timeline.reaches (τ := Rat) span limit = true ↔ limit ≤ span := by
  change decide ((limit : Rat) ≤ span) = true ↔ _
  rw [decide_eq_true_iff, Int.cast_le]

theorem Pauses.length {now : Rat} {ms : Int}
    (h : Pauses settings.limits settings started k snapshots now ms) :
    now - started < settings.timeoutMs ∧
      ms = min (settings.interval k) ((settings.timeoutMs : Rat) - (now - started)).ceil := by
  obtain @⟨timeoutMs, left, interval, -, hT, hb, hl, hI⟩ := h
  obtain rfl := Option.some.inj hT
  obtain rfl := Option.some.inj hI
  obtain rfl : ((settings.timeoutMs : Rat) - (now - started)).ceil = left := Except.ok.inj hl
  exact ⟨not_le.mp (of_decide_eq_false hb), rfl⟩

theorem Pauses.until_due {ms : Int} (hv : v.clock = started + settings.due k)
    (h : Pauses settings.limits settings started k snapshots v.clock ms) :
    snapshots.all settings.isReady = false ∧ settings.due k < settings.timeoutMs ∧
      ms = settings.due (k + 1) - settings.due k := by
  obtain ⟨hlt, hms⟩ := h.length
  obtain ⟨hr, -⟩ := h
  rw [hv, add_sub_cancel_left] at hlt hms
  rw [← Int.cast_sub, Rat.ceil_intCast] at hms
  have hdue : settings.due k < settings.timeoutMs := Int.cast_lt.mp hlt
  exact ⟨hr, hdue, hms.trans (Settings.due_succ hdue)⟩

theorem Unclear.of_exact {now : Rat} {f : Fault}
    (h : Unclear settings.limits settings started k snapshots now f) :
    snapshots.all settings.isReady = false ∧ (snapshots.mapM shortfall = .error f ∨
      Timeline.reaches (Timeline.elapsed started now) settings.timeoutMs = true ∧
        Numeral.Integer.isWritable settings.timeoutMs = false ∧ f = .unwritableNumber) := by
  cases h with
  | span _ ht => cases ht
  | lacks hr hm => exact ⟨hr, .inl hm⟩
  | noTimeout _ hT => cases hT
  | limit hr hT hb hw =>
    obtain rfl := Option.some.inj hT
    exact ⟨hr, .inr ⟨hb, hw, rfl⟩⟩
  | left _ _ _ hl => cases hl
  | noInterval _ _ _ _ hi => cases hi

theorem Punctual.not_hinders {ms : Int} {h : Halt} {w : World Rat}
    (hp : Punctual u (first :: more)) (hleft : (u.page first).waitsLeft ≠ 0) :
    ¬ Hinders u first ms h w := by
  intro hh
  cases hh with
  | interrupted hw =>
    rw [hp.passes first rfl] at hw
    cases hw
  | failed hw =>
    rw [hp.passes first rfl] at hw
    cases hw
  | exhausted _ hl => exact hleft hl
  | untimed _ _ ht =>
    rw [hp.waited first rfl] at ht
    cases ht

theorem LastRound.onTime {outcome : Except Halt (List Snapshot)} {calls : List Call}
    (hp : Punctual u (first :: more)) (hclock : u.clock = started + settings.due k)
    (hleft : settings.due k < settings.timeoutMs → (u.page first).waitsLeft ≠ 0)
    (h : LastRound settings.limits settings label first more started k u outcome calls v) :
    OnTime settings label (first :: more) started k u outcome v := by
  cases h with
  | live lines hs hr => exact .live lines (hp.whenDue hclock hs) hr
  | timedOut lines hs hr hT hb hw =>
    obtain rfl := Option.some.inj hT
    have hdue := hp.whenDue hclock hs
    rw [hdue.ends, elapsed_due, reaches_iff] at hb
    exact .timedOut lines hdue hr (Int.le_antisymm (settings.due_le k) hb) hw
  | unsampled hu =>
    exact .unsampled hu hclock ((clock_of_unsampled hp.instant hu).trans hclock)
  | @unwaited w _ _ _ _ lines hs hpause hh =>
    have hdue := hp.whenDue hclock hs
    obtain ⟨-, hlt, -⟩ := hpause.until_due hdue.ends
    have hkept : Punctual { w with log := lines } (first :: more) := hp.of_script hs.script
    refine absurd hh (hkept.not_hinders ?_)
    exact (hs.waitsLeft first).trans_ne (hleft hlt)
  | unclear lines hs hf =>
    have hdue := hp.whenDue hclock hs
    obtain ⟨hr, hm | ⟨hb, hw, rfl⟩⟩ := hf.of_exact
    · exact .untold lines hdue hr hm
    · rw [hdue.ends, elapsed_due, reaches_iff] at hb
      exact .overlong lines hdue hr (Int.le_antisymm (settings.due_le k) hb) hw

theorem UnreadyRound.onTime (label : String) {ms : Int} {w : World Rat}
    (hp : Punctual u (first :: more)) (hclock : u.clock = started + settings.due k)
    (h : UnreadyRound settings.limits settings first more started k u ms w) :
    Punctual w (first :: more) ∧ w.clock = started + settings.due (k + 1) ∧
      ∀ outcome x, OnTime settings label (first :: more) started (k + 1) w outcome x →
        OnTime settings label (first :: more) started k u outcome x := by
  obtain @⟨v, _, lines, hs, hpause, hw⟩ := h
  have hdue := hp.whenDue hclock hs
  obtain ⟨hr, hlt, rfl⟩ := hpause.until_due hdue.ends
  have hkept : Punctual { v with log := lines } (first :: more) := hp.of_script hs.script
  refine ⟨hkept.of_script hw.script, ?_, fun outcome x hrest =>
    .later lines hdue hr hlt rfl hw hrest⟩
  have hlater := clock_of_waits (hkept.waited first rfl) hw
  change _ = v.clock + _ at hlater
  rw [hlater, hdue.ends, Int.cast_sub, add_add_sub_cancel]

theorem rounds_onTime {left : Nat} (hp : Punctual u (first :: more))
    (hclock : u.clock = started + settings.due k) (isOpen : first < u.pages.length)
    (hl : (u.page first).waitsLeft = left)
    (enough : settings.timeoutMs ≤ settings.total (k + left)) :
    OnTime settings label (first :: more) started k u
      (rounds settings settings.limits label (first :: more) started left k u).1
      (rounds settings settings.limits label (first :: more) started left k u).2 := by
  -- With every round the first page has a wait less left, and the poll an interval less to pass.
  induction left generalizing k u with
  | zero =>
    have hleft : ¬ settings.due k < settings.timeoutMs := by
      rw [Settings.due]
      rw [Nat.add_zero] at enough
      omega
    have hx := round_executes settings.limits settings label first more started k u
    rw [rounds_run]
    generalize round settings settings.limits label (first :: more) started k u = r at hx ⊢
    obtain ⟨answer, x⟩ := r
    cases hx with
    | answered ha => exact ha.onTime hp hclock fun hlt => absurd hlt hleft
    | halted hh => exact hh.onTime hp hclock fun hlt => absurd hlt hleft
    | unready hu =>
      have hw := hu.waitsLeft isOpen
      omega
  | succ left ih =>
    have hleft : (u.page first).waitsLeft ≠ 0 := by omega
    have hx := round_executes settings.limits settings label first more started k u
    rw [rounds_run]
    generalize round settings settings.limits label (first :: more) started k u = r at hx ⊢
    obtain ⟨answer, x⟩ := r
    cases hx with
    | answered ha => exact ha.onTime hp hclock fun _ => hleft
    | halted hh => exact hh.onTime hp hclock fun _ => hleft
    | unready hu =>
      obtain ⟨hkept, hnext, hrest⟩ := hu.onTime label hp hclock
      have hw := hu.waitsLeft isOpen
      have hopen : first < x.pages.length := by
        rw [hu.length_pages]
        exact isOpen
      have henough : settings.timeoutMs ≤ settings.total (k + 1 + left) := by
        rw [Nat.add_assoc, Nat.add_comm 1 left]
        exact enough
      exact hrest _ _ (ih hkept hnext hopen (by omega) henough)

end

section

variable {settings : Settings} {label : String} {pages : List Nat} {started : Rat} {k : Nat}
  {u v : World Rat} {outcome : Except Halt (List Snapshot)}

theorem OnTime.clock_le (h : OnTime settings label pages started k u outcome v) :
    v.clock ≤ started + settings.timeoutMs := by
  have due_le (k : Nat) : started + settings.due k ≤ started + (settings.timeoutMs : Rat) :=
    (add_le_add_iff_left started).mpr (Int.cast_le.mpr (settings.due_le k))
  induction h with
  | @live k _ _ _ lines hs _ => exact hs.ends.trans_le (due_le k)
  | @timedOut k _ _ _ lines hs _ _ _ => exact hs.ends.trans_le (due_le k)
  | @overlong k _ _ _ lines hs _ _ _ => exact hs.ends.trans_le (due_le k)
  | later _ _ _ _ _ _ _ ih => exact ih
  | @unsampled k _ _ _ _ _ _ hv => exact hv.trans_le (due_le k)
  | @untold k _ _ _ _ lines hs _ _ => exact hs.ends.trans_le (due_le k)

theorem OnTime.begins (h : OnTime settings label pages started k u outcome v) :
    u.clock = started + settings.due k := by
  cases h with
  | live _ hs _ => exact hs.begins
  | timedOut _ hs _ _ _ => exact hs.begins
  | overlong _ hs _ _ _ => exact hs.begins
  | later _ hs _ _ _ _ _ => exact hs.begins
  | unsampled _ hu _ => exact hu
  | untold _ hs _ _ => exact hs.begins

def waitMs : Call → Int
  | .wait _ (some ms) => ms
  | _ => 0

def Passes (u v : World Rat) : Prop :=
  ∃ calls, v.calls = u.calls ++ calls ∧ v.clock = u.clock + (calls.map waitMs).sum

theorem passes_of_evaluations {reached : List Nat}
    (hc : v.calls = u.calls ++ reached.map Call.evaluate) (ht : v.clock = u.clock) :
    Passes u v := by
  have hsum : ((reached.map Call.evaluate).map waitMs).sum = 0 := by
    induction reached with
    | nil => rfl
    | cons k reached ih => simp [waitMs, Function.comp_def]
  refine ⟨_, hc, ?_⟩
  rw [hsum, Int.cast_zero, add_zero]
  exact ht

theorem Passes.trans {w : World Rat} (h : Passes u v) (h' : Passes v w) : Passes u w := by
  obtain ⟨calls, hc, ht⟩ := h
  obtain ⟨more, hc', ht'⟩ := h'
  refine ⟨calls ++ more, ?_, ?_⟩
  · rw [hc', hc, List.append_assoc]
  · rw [ht', ht, List.map_append, List.sum_append, Int.cast_add, add_assoc]

theorem OnTime.passes (h : OnTime settings label pages started k u outcome v) : Passes u v := by
  induction h with
  | live lines hs _ => exact passes_of_evaluations hs.sampled.calls (hs.ends.trans hs.begins.symm)
  | timedOut lines hs _ _ _ =>
    exact passes_of_evaluations hs.sampled.calls (hs.ends.trans hs.begins.symm)
  | overlong lines hs _ _ _ =>
    exact passes_of_evaluations hs.sampled.calls (hs.ends.trans hs.begins.symm)
  | @later k first u v w x _ _ lines hs _ _ _ hw hrest ih =>
    have hround : Passes u { v with log := lines } :=
      passes_of_evaluations hs.sampled.calls (hs.ends.trans hs.begins.symm)
    have hwait : Passes { v with log := lines } w := by
      refine ⟨_, hw.calls, ?_⟩
      change w.clock = v.clock + _
      rw [hrest.begins, hs.ends, List.map_singleton, List.sum_singleton, waitMs, Int.cast_sub,
        add_add_sub_cancel]
    exact (hround.trans hwait).trans ih
  | unsampled hr hu hv => exact passes_of_evaluations hr.calls (hv.trans hu.symm)
  | untold lines hs _ _ =>
    exact passes_of_evaluations hs.sampled.calls (hs.ends.trans hs.begins.symm)

def Legible (u : World Rat) (pages : List Nat) : Prop :=
  ∀ k ∈ pages, ∀ n, ∃ value s line, (u.page k).script.sample n = .ok value ∧
    Snapshot.ofAnswer value = .ok s ∧ s.address.isWritable = true ∧ shortfall s = .ok line

theorem Legible.of_script (hl : Legible u pages)
    (hs : ∀ k, (v.page k).script = (u.page k).script) : Legible v pages := by
  intro k hk n
  rw [hs k]
  exact hl k hk n

theorem Legible.not_refuses {h : Halt} (hl : Legible u (k :: pages))
    (hi : Instant u (k :: pages)) : ¬ Refuses u k h v := by
  obtain ⟨value, s, -, hsample, hread, haddress, -⟩ :=
    hl k List.mem_cons_self (u.page k).evaluated
  intro hr
  cases hr with
  | untimed ht =>
    rw [hi k List.mem_cons_self] at ht
    cases ht
  | failed _ hs =>
    rw [hsample] at hs
    cases hs
  | unreadable _ hs hv =>
    rw [hsample] at hs
    obtain rfl := Except.ok.inj hs
    rw [hread] at hv
    cases hv
  | unplaced _ hs hv ha =>
    rw [hsample] at hs
    obtain rfl := Except.ok.inj hs
    rw [hread] at hv
    obtain rfl := Except.ok.inj hv
    exact Bool.noConfusion (haddress.symm.trans ha)

theorem Legible.after_gives {s : Snapshot} (hl : Legible u (k :: pages)) (hg : Gives u k s v) :
    (∃ line, shortfall s = .ok line) ∧ Legible v pages := by
  constructor
  · obtain ⟨value, s', line, hsample, hread, -, hline⟩ :=
      hl k List.mem_cons_self (u.page k).evaluated
    obtain ⟨lines, -, hs, hr, -⟩ := hg
    rw [hsample] at hs
    obtain rfl := Except.ok.inj hs
    rw [hread] at hr
    obtain rfl := Except.ok.inj hr
    exact ⟨line, hline⟩
  · have hrest : Legible u pages := fun j hj => hl j (List.mem_cons_of_mem _ hj)
    exact hrest.of_script hg.script

theorem Legible.not_unsampled {reached : List Nat} {h : Halt} (hl : Legible u pages)
    (hi : Instant u pages) : ¬ Unsampled u pages reached h v := by
  intro hu
  induction hu with
  | here pages hr => exact hl.not_refuses hi hr
  | later hg _ ih => exact ih (hl.after_gives hg).2 (clock_of_gives hi hg).2

theorem Legible.shown {snapshots : List Snapshot} (hl : Legible u pages)
    (hs : Sampled u pages snapshots v) : ∃ lines, snapshots.mapM shortfall = .ok lines := by
  induction hs with
  | nil u => exact ⟨[], rfl⟩
  | cons hg _ ih =>
    obtain ⟨⟨line, hline⟩, hrest⟩ := hl.after_gives hg
    obtain ⟨lines, hlines⟩ := ih hrest
    exact ⟨line :: lines, by rw [List.mapM_cons, hline, Sample.ok_bind, hlines]; rfl⟩

theorem OnTime.live_or_timedOut (h : OnTime settings label pages started k u outcome v)
    (hi : Instant u pages) (hl : Legible u pages) :
    (∃ snapshots, outcome = .ok snapshots) ∨
      (∃ snapshots, outcome = .error (.notLive label settings.timeoutMs snapshots)) ∨
      Numeral.Integer.isWritable settings.timeoutMs = false ∧
        outcome = .error (.fault .unwritableNumber) := by
  induction h with
  | live lines hs hr => exact .inl ⟨_, rfl⟩
  | timedOut lines hs hr hd hw => exact .inr (.inl ⟨_, rfl⟩)
  | overlong lines hs hr hd hw => exact .inr (.inr ⟨hw, rfl⟩)
  | @later k first u v w _ _ _ lines hs _ _ _ hw _ ih =>
    have hscript (j : Nat) : (w.page j).script = (u.page j).script :=
      (hw.script j).trans (hs.sampled.script j)
    refine ih (fun j hj => ?_) (hl.of_script hscript)
    rw [hscript j]
    exact hi j hj
  | unsampled hu _ _ => exact absurd hu (hl.not_unsampled hi)
  | untold lines hs _ hm =>
    obtain ⟨shown, hshown⟩ := hl.shown hs.sampled
    rw [hm] at hshown
    cases hshown

end

theorem untilLive_nil (settings : Settings) (label : String) (w : World Rat) :
    ∃ lines, untilLive settings label [] w = (.ok [], { w with log := lines }) := by
  obtain ⟨ms, hms⟩ : ∃ ms, Timeline.whole (Timeline.elapsed w.clock w.clock) = .ok ms := ⟨_, rfl⟩
  obtain ⟨lines, hl⟩ := Check.log_run .info .liveness
    s!"{label} live after {Numeral.decimal ms}ms ({0 + 1} sample(s))" w
  have hnone : Check.each Session.collect [] w = (.ok [], w) := rfl
  have hround : round settings settings.limits label [] w.clock 0 w =
      (.ok (some []), { w with log := lines }) := by
    rw [round, Check.bind_of_ok hnone, if_pos List.all_nil,
      Check.bind_of_ok (elapsed_run w.clock w), hms, Check.bind_of_ok (Check.ofFault_ok ms w),
      Check.bind_of_ok hl]
    rfl
  refine ⟨lines, ?_⟩
  change rounds settings settings.limits label [] w.clock 0 0 w = _
  rw [rounds_run, hround]

/-- A poll on an exact clock samples when its rounds are due and never waits beyond its timeout.
Where every sample can be told, it ends with the snapshots or with a timeout, if that can be told
too. -/
theorem untilLive_onTime {settings : Settings} {label : String} {pages : List Nat} {w : World Rat}
    (hpos : 0 < settings.timeoutMs) (hintervals : ∀ ms ∈ settings.intervalsMs, 1 ≤ ms)
    (isOpen : ∀ first ∈ pages.head?, first < w.pages.length) (hp : Punctual w pages)
    (enough : ∀ first ∈ pages.head?, ∃ n ≤ (w.page first).waitsLeft,
      settings.timeoutMs ≤ settings.total n) :
    OnTime settings label pages w.clock 0 w (untilLive settings label pages w).1
        (untilLive settings label pages w).2 ∧
      (∃ calls, (untilLive settings label pages w).2.calls = w.calls ++ calls ∧
        (calls.map waitMs).sum ≤ settings.timeoutMs) ∧
      (Legible w pages →
        (∃ snapshots, (untilLive settings label pages w).1 = .ok snapshots) ∨
        (∃ snapshots, (untilLive settings label pages w).1 =
          .error (.notLive label settings.timeoutMs snapshots)) ∨
        Numeral.Integer.isWritable settings.timeoutMs = false ∧
          (untilLive settings label pages w).1 = .error (.fault .unwritableNumber)) := by
  have hclock : w.clock = w.clock + settings.due 0 := by
    rw [Settings.due_zero hpos, Int.cast_zero, add_zero]
  have h : OnTime settings label pages w.clock 0 w (untilLive settings label pages w).1
      (untilLive settings label pages w).2 := by
    cases pages with
    | nil =>
      obtain ⟨lines, hrun⟩ := untilLive_nil settings label w
      rw [hrun]
      exact .live lines ⟨.nil w, hclock, hclock⟩ rfl
    | cons first more =>
      obtain ⟨n, hn, hle⟩ := enough first rfl
      refine rounds_onTime hp hclock (isOpen first rfl) rfl ?_
      rw [Nat.zero_add]
      exact hle.trans (Settings.total_mono hintervals hn)
  refine ⟨h, ?_, h.live_or_timedOut hp.instant⟩
  obtain ⟨calls, hcalls, ht⟩ := h.passes
  have hle := h.clock_le
  rw [ht, add_le_add_iff_left, Int.cast_le] at hle
  exact ⟨calls, hcalls, hle⟩

def lateArrival : World Rat :=
  (World.start 0 [{ samples := [.ok .null, .ok .null, .ok (.record [
    ("videos", .list [.record [("videoWidth", .int 640), ("videoHeight", .int 480),
      ("videoTracks", .int 1)]]),
    ("pcStats", .list [.record [("inboundVideoBytes", .int 9000)]])])] }]).addPage

theorem untilLive_onTime_lateArrival :
    (0 < (2500 : Int) ∧ (∀ ms ∈ [(1000 : Int), 2000], 1 ≤ ms) ∧ 0 < lateArrival.pages.length ∧
      Punctual lateArrival [0] ∧ 2 ≤ (lateArrival.page 0).waitsLeft) ∧
    OnTime { timeoutMs := 2500, intervalsMs := [1000, 2000] } "late" [0] 0 0 lateArrival
      (untilLive { timeoutMs := 2500, intervalsMs := [1000, 2000] } "late" [0] lateArrival).1
      (untilLive { timeoutMs := 2500, intervalsMs := [1000, 2000] } "late" [0] lateArrival).2 ∧
    (untilLive { timeoutMs := 2500, intervalsMs := [1000, 2000] } "late" [0]
      lateArrival).1.toOption.isSome ∧
    (untilLive { timeoutMs := 2500, intervalsMs := [1000, 2000] } "late" [0]
      lateArrival).2.clock = 2500 := by
  have hopen : ∀ first ∈ [0].head?, first < lateArrival.pages.length := by decide
  have hpunctual : Punctual lateArrival [0] := punctual_of_plan fun k hk => by
    obtain rfl := List.mem_singleton.mp hk
    exact ⟨_, rfl, rfl, rfl, rfl⟩
  have henough : ∀ first ∈ [0].head?, ∃ n ≤ (lateArrival.page first).waitsLeft,
      2500 ≤ Settings.total { timeoutMs := 2500, intervalsMs := [1000, 2000] } n := by
    intro first hfirst
    obtain rfl := Option.some.inj hfirst
    exact ⟨2, by decide, by decide⟩
  have h := @untilLive_onTime { timeoutMs := 2500, intervalsMs := [1000, 2000] } "late" [0]
    lateArrival (by decide) (by decide) hopen hpunctual henough
  exact ⟨⟨by decide, by decide, by decide, hpunctual, by decide⟩, h.1, by decide +kernel,
    by decide +kernel⟩

end StreamWatch.Poll
