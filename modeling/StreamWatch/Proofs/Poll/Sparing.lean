import StreamWatch.Proofs.Poll.Schedule

/-! How long a poll goes on. On an exact clock that no evaluation turns back and that a wait moves
on by at least its length, a wait is asked for only before the timeout, and one that was cut short
reaches it. So the shortest interval bounds the number of rounds, whatever the pages answer and
however long that takes. -/
namespace StreamWatch.Poll

open Browser (Call PageScript Timeline World)
open Sample (Snapshot)
open Session (Gives Hinders Sampled Unsampled Waits)

namespace Settings

variable {settings : Settings}

def shortest (settings : Settings) : Int := settings.intervalsMs.min?.getD 1000

/-- How many waits of the shortest length it takes to reach the timeout. -/
def mostWaits (settings : Settings) : Int :=
  ⌈((max settings.timeoutMs 0 : Int) : Rat) / settings.shortest⌉

theorem shortest_le (settings : Settings) (k : Nat) : settings.shortest ≤ settings.interval k := by
  rw [shortest]
  cases hm : settings.intervalsMs.min? with
  | none =>
    rw [interval_of_nil (List.min?_eq_none_iff.mp hm), Option.getD_none]
  | some least =>
    obtain ⟨hmem, hle⟩ := List.min?_eq_some_iff.mp hm
    exact hle _ (interval_mem (List.ne_nil_of_mem hmem) k)

theorem shortest_pos (h : ∀ ms ∈ settings.intervalsMs, 1 ≤ ms) : 1 ≤ settings.shortest := by
  rw [shortest]
  cases hm : settings.intervalsMs.min? with
  | none =>
    rw [Option.getD_none]
    omega
  | some least => exact h least (List.min?_eq_some_iff.mp hm).1

theorem mostWaits_nonneg (h : ∀ ms ∈ settings.intervalsMs, 1 ≤ ms) : 0 ≤ settings.mostWaits := by
  have hpos : (0 : Rat) ≤ settings.shortest := by
    have := shortest_pos h
    exact_mod_cast (by omega : (0 : Int) ≤ settings.shortest)
  have hmax : (0 : Rat) ≤ (max settings.timeoutMs 0 : Int) :=
    Int.cast_nonneg (Int.le_max_right _ _)
  exact Int.ceil_nonneg (div_nonneg hmax hpos)

theorem lt_mostWaits (h : ∀ ms ∈ settings.intervalsMs, 1 ≤ ms) {k : Nat}
    (hk : (k : Rat) * settings.shortest < settings.timeoutMs) : (k : Int) < settings.mostWaits := by
  have hpos : (0 : Rat) < settings.shortest := by
    have := shortest_pos h
    exact_mod_cast (by omega : (0 : Int) < settings.shortest)
  have hmax : (settings.timeoutMs : Rat) ≤ (max settings.timeoutMs 0 : Int) :=
    Int.cast_le.mpr (Int.le_max_left _ _)
  rw [mostWaits, Int.lt_ceil, lt_div_iff₀ hpos, Int.cast_natCast]
  exact hk.trans_le hmax

end Settings

/-- Evaluations take no negative time, and a wait of the first page takes its length at least. -/
structure Unhurried (u : World Rat) (pages : List Nat) : Prop where
  sampled : ∀ k ∈ pages, ∀ n t t', (u.page k).script.sampled n t = .ok t' → t ≤ t'
  waited : ∀ first ∈ pages.head?, ∀ n ms t t',
    (u.page first).script.waited n ms t = .ok t' → t + ms ≤ t'

section

variable {u v : World Rat} {pages : List Nat} {snapshots : List Snapshot}

theorem Unhurried.of_script (h : Unhurried u pages)
    (hs : ∀ k, (v.page k).script = (u.page k).script) : Unhurried v pages := by
  constructor
  · intro k hk
    rw [hs k]
    exact h.sampled k hk
  · intro first hfirst
    rw [hs first]
    exact h.waited first hfirst

theorem unhurried_of_plan (h : ∀ k ∈ pages, ∃ plan : PageScript.Plan,
    (u.page k).script = .ofPlan plan ∧ 0 ≤ plan.latencyMs) : Unhurried u pages := by
  constructor
  · intro k hk n t t' ht
    obtain ⟨plan, hscript, hlatency⟩ := h k hk
    rw [hscript] at ht
    obtain rfl : t + plan.latencyMs = t' := Except.ok.inj ht
    have hcast : (0 : Rat) ≤ plan.latencyMs := Int.cast_nonneg hlatency
    linarith
  · intro first hfirst n ms t t' ht
    obtain ⟨plan, hscript, -⟩ := h first (List.mem_of_mem_head? hfirst)
    rw [hscript] at ht
    exact (Except.ok.inj ht).le

theorem clock_le_of_sampled (hs : Sampled u pages snapshots v)
    (h : ∀ k ∈ pages, ∀ n t t', (u.page k).script.sampled n t = .ok t' → t ≤ t') :
    u.clock ≤ v.clock := by
  induction hs with
  | nil u => exact le_refl _
  | @cons u v w k s pages rest hg _ ih =>
    have hfirst : u.clock ≤ v.clock := by
      obtain ⟨lines, ht, -, -⟩ := hg
      exact h k List.mem_cons_self _ _ _ ht
    refine hfirst.trans (ih fun j hj => ?_)
    rw [hg.script j]
    exact h j (List.mem_cons_of_mem k hj)

theorem clock_le_of_waits {first : Nat} {more : List Nat} {ms : Int} (hw : Waits u first ms v)
    (h : Unhurried u (first :: more)) : u.clock + ms ≤ v.clock := by
  obtain ⟨-, -, ht⟩ := hw
  exact h.waited first rfl _ _ _ _ ht

end

structure Fits (settings : Settings) (k : Nat) (span : Rat) (ms : Int) : Prop where
  inTime : span < settings.timeoutMs
  positive : 1 ≤ ms
  bounded : ms ≤ settings.interval k
  ends : span + ms < settings.timeoutMs + 1

/-- The round from `u` on is the last one, and no wait follows it: every page was sampled, and all
were ready or the timeout is reached, or a page could not be sampled. Where pages that are not ready
lack something that cannot be told, that ends the poll too. -/
inductive Concludes (settings : Settings) (label : String) (pages : List Nat) (started : Rat)
    (u : World Rat) : Except Halt (List Snapshot) → World Rat → Prop
  | live {v : World Rat} {snapshots : List Snapshot} (lines : List Console.LogLine) :
      Sampled u pages snapshots v →
      snapshots.all settings.isReady = true →
      Concludes settings label pages started u (.ok snapshots) { v with log := lines }
  | timedOut {v : World Rat} {snapshots : List Snapshot} (lines : List Console.LogLine) :
      Sampled u pages snapshots v →
      snapshots.all settings.isReady = false →
      settings.timeoutMs ≤ v.clock - started →
      Numeral.Integer.isWritable settings.timeoutMs = true →
      Concludes settings label pages started u
        (.error (.notLive label settings.timeoutMs snapshots)) { v with log := lines }
  | overlong {v : World Rat} {snapshots : List Snapshot} (lines : List Console.LogLine) :
      Sampled u pages snapshots v →
      snapshots.all settings.isReady = false →
      settings.timeoutMs ≤ v.clock - started →
      Numeral.Integer.isWritable settings.timeoutMs = false →
      Concludes settings label pages started u (.error (.fault .unwritableNumber))
        { v with log := lines }
  | untold {v : World Rat} {snapshots : List Snapshot} {f : Fault}
      (lines : List Console.LogLine) :
      Sampled u pages snapshots v →
      snapshots.all settings.isReady = false →
      snapshots.mapM shortfall = .error f →
      Concludes settings label pages started u (.error (.fault f)) { v with log := lines }
  | unsampled {v : World Rat} {reached : List Nat} {h : Halt} :
      Unsampled u pages reached h v →
      Concludes settings label pages started u (.error h) v

/-- The rounds of a poll from round `k` on, how many they are, and what the poll comes to. After
every round but the last its pages are not ready and the first of them waits; each wait fits, and
one that is shorter than its interval is followed by one round and no other wait. The first page
could wait `waits` times when the poll began; that it cannot wait any more ends the poll only if it
could wait less often than the poll might need. -/
inductive Sparing (settings : Settings) (label : String) (pages : List Nat) (started : Rat)
    (waits : Nat) : Nat → World Rat → Nat → Except Halt (List Snapshot) → World Rat → Prop
  | last {k : Nat} {u v : World Rat} {outcome : Except Halt (List Snapshot)} :
      Concludes settings label pages started u outcome v →
      Sparing settings label pages started waits k u 1 outcome v
  | refused {k first : Nat} {ms : Int} {u v w : World Rat} {snapshots : List Snapshot} {h : Halt}
      (lines : List Console.LogLine) :
      Sampled u pages snapshots v →
      snapshots.all settings.isReady = false →
      pages.head? = some first →
      Fits settings k (v.clock - started) ms →
      Hinders { v with log := lines } first ms h w →
      ((v.page first).waitsLeft = 0 → waits < settings.mostWaits) →
      Sparing settings label pages started waits k u 1 (.error h) w
  | later {k first n : Nat} {ms : Int} {u v w x : World Rat} {snapshots : List Snapshot}
      {outcome : Except Halt (List Snapshot)} (lines : List Console.LogLine) :
      Sampled u pages snapshots v →
      snapshots.all settings.isReady = false →
      pages.head? = some first →
      Fits settings k (v.clock - started) ms →
      Waits { v with log := lines } first ms w →
      Sparing settings label pages started waits (k + 1) w n outcome x →
      (ms < settings.interval k → n = 1 ∧ Concludes settings label pages started w outcome x) →
      Sparing settings label pages started waits k u (n + 1) outcome x

structure Advanced (settings : Settings) (started : Rat) (k : Nat) (now : Rat) : Prop where
  passed : k * settings.shortest ≤ now - started ∨ settings.timeoutMs ≤ now - started
  few : k ≤ settings.mostWaits

section

variable {settings : Settings} {label : String} {first : Nat} {more : List Nat} {started now : Rat}
  {k : Nat} {u v w : World Rat} {snapshots : List Snapshot} {ms : Int}

theorem advanced_zero (h : ∀ ms ∈ settings.intervalsMs, 1 ≤ ms) (started : Rat) :
    Advanced settings started 0 started where
  passed := .inl (by simp)
  few := Settings.mostWaits_nonneg h

theorem Advanced.later (h : Advanced settings started k now) {next : Rat} (hn : now ≤ next) :
    Advanced settings started k next where
  passed := h.passed.imp (fun hp => hp.trans (sub_le_sub_right hn _))
    fun hp => hp.trans (sub_le_sub_right hn _)
  few := h.few

theorem Advanced.lt_mostWaits (h : Advanced settings started k now)
    (hi : ∀ ms ∈ settings.intervalsMs, 1 ≤ ms) (ht : now - started < settings.timeoutMs) :
    k < settings.mostWaits := by
  rcases h.passed with hp | hp
  · exact Settings.lt_mostWaits hi (hp.trans_lt ht)
  · exact absurd hp (not_le.mpr ht)

theorem Pauses.fits (hi : ∀ ms ∈ settings.intervalsMs, 1 ≤ ms)
    (h : Pauses settings.limits settings started k snapshots now ms) :
    Fits settings k (now - started) ms ∧
      (ms = settings.interval k ∨ settings.timeoutMs ≤ now - started + ms) := by
  obtain ⟨hlt, hms⟩ := h.length
  have hceil := Rat.le_ceil (x := (settings.timeoutMs : Rat) - (now - started))
  have hnear := Rat.ceil_lt (x := (settings.timeoutMs : Rat) - (now - started))
  have hpos := Settings.interval_pos hi k
  generalize ((settings.timeoutMs : Rat) - (now - started)).ceil = left at hms hceil hnear
  have hleft : 0 < left := by
    have hzero : (0 : Rat) < left := by linarith
    exact_mod_cast hzero
  rcases le_total (settings.interval k) left with hle | hle
  · rw [min_eq_left hle] at hms
    have hcast : (ms : Rat) ≤ left := Int.cast_le.mpr (hms.trans_le hle)
    exact ⟨⟨hlt, hms ▸ hpos, hms.le, by linarith⟩, .inl hms⟩
  · rw [min_eq_right hle] at hms
    subst hms
    exact ⟨⟨hlt, by omega, hle, by linarith⟩, .inr (by linarith)⟩

theorem Advanced.next (h : Advanced settings started k now)
    (hi : ∀ ms ∈ settings.intervalsMs, 1 ≤ ms)
    (hp : Pauses settings.limits settings started k snapshots now ms) {next : Rat}
    (hn : now + ms ≤ next) : Advanced settings started (k + 1) next := by
  obtain ⟨hfits, hends⟩ := hp.fits hi
  refine ⟨?_, h.lt_mostWaits hi hfits.inTime⟩
  rcases hends with rfl | hends
  · rcases h.passed with hpassed | hpassed
    · left
      have hshort : (settings.shortest : Rat) ≤ settings.interval k :=
        Int.cast_le.mpr (settings.shortest_le k)
      push_cast
      linarith
    · exact absurd hpassed (not_le.mpr hfits.inTime)
  · right
    linarith

theorem Pauses.unready (h : Pauses settings.limits settings started k snapshots now ms) :
    snapshots.all settings.isReady = false := by
  cases h with
  | early hr => exact hr

theorem le_of_reaches {limit : Int}
    (h : Timeline.reaches (Timeline.elapsed started now) limit = true) : limit ≤ now - started :=
  of_decide_eq_true h

theorem Concludes.sparing {pages : List Nat} {outcome : Except Halt (List Snapshot)} {waits : Nat}
    {P : Prop} (h : Concludes settings label pages started u outcome w) :
    Sparing settings label pages started waits k u 1 outcome w ∧
      (P → Concludes settings label pages started u outcome w) :=
  ⟨.last h, fun _ => h⟩

theorem LastRound.sparing {outcome : Except Halt (List Snapshot)} {calls : List Call} {waits : Nat}
    (h : LastRound settings.limits settings label first more started k u outcome calls w)
    (hi : ∀ ms ∈ settings.intervalsMs, 1 ≤ ms) (hu : Unhurried u (first :: more))
    (ha : Advanced settings started k u.clock) (hw : (u.page first).waitsLeft + k = waits) :
    Sparing settings label (first :: more) started waits k u 1 outcome w ∧
      (settings.timeoutMs ≤ u.clock - started →
        Concludes settings label (first :: more) started u outcome w) := by
  cases h with
  | live lines hs hr => exact Concludes.sparing (.live lines hs hr)
  | timedOut lines hs hr hT hb hw =>
    obtain rfl := Option.some.inj hT
    exact Concludes.sparing (.timedOut lines hs hr (le_of_reaches hb) hw)
  | unsampled hr => exact Concludes.sparing (.unsampled hr)
  | unclear lines hs hf =>
    obtain ⟨hr, hm | ⟨hb, hw, rfl⟩⟩ := hf.of_exact
    · exact Concludes.sparing (.untold lines hs hr hm)
    · exact Concludes.sparing (.overlong lines hs hr (le_of_reaches hb) hw)
  | unwaited lines hs hp hh =>
    have hclock := clock_le_of_sampled hs hu.sampled
    have hfits := (hp.fits hi).1
    constructor
    · refine .refused lines hs hp.unready rfl hfits hh fun hnone => ?_
      have hlt := (ha.later hclock).lt_mostWaits hi hfits.inTime
      rw [hs.waitsLeft first] at hnone
      omega
    · -- Sampling takes time forward, so no wait is asked for once the timeout is reached.
      intro hreached
      have hlt := hfits.inTime
      linarith

theorem UnreadyRounds.eq_nil {waits : List Int}
    (h : UnreadyRounds settings.limits settings first more started k u waits v)
    (hi : ∀ ms ∈ settings.intervalsMs, 1 ≤ ms) (hu : Unhurried u (first :: more))
    (ht : settings.timeoutMs ≤ u.clock - started) : waits = [] ∧ v = u := by
  cases h with
  | nil k u => exact ⟨rfl, rfl⟩
  | cons hr _ =>
    obtain ⟨lines, hs, hp, -⟩ := hr
    have hclock := clock_le_of_sampled hs hu.sampled
    have hlt := (hp.fits hi).1.inTime
    linarith

theorem UnreadyRounds.sparing {rest : List Int} {outcome : Except Halt (List Snapshot)}
    {calls : List Call} {waits : Nat}
    (h : UnreadyRounds settings.limits settings first more started k u rest v)
    (hlast : LastRound settings.limits settings label first more started (k + rest.length) v
      outcome calls w)
    (hi : ∀ ms ∈ settings.intervalsMs, 1 ≤ ms) (isOpen : first < u.pages.length)
    (hu : Unhurried u (first :: more)) (ha : Advanced settings started k u.clock)
    (hw : (u.page first).waitsLeft + k = waits) :
    Sparing settings label (first :: more) started waits k u (rest.length + 1) outcome w ∧
      k + rest.length ≤ settings.mostWaits := by
  induction h with
  | nil k u => exact ⟨(hlast.sparing hi hu ha hw).1, by simpa using ha.few⟩
  | @cons k u x v ms rest hr hrest ih =>
    have hleft := hr.waitsLeft isOpen
    have hopen : first < x.pages.length := hr.length_pages ▸ isOpen
    obtain @⟨y, snapshots, lines, hs, hp, hwaits⟩ := hr
    have hkept : Unhurried { y with log := lines } (first :: more) := hu.of_script hs.script
    have hx : Unhurried x (first :: more) := hkept.of_script hwaits.script
    have hclock := clock_le_of_sampled hs hu.sampled
    have hnext := clock_le_of_waits hwaits hkept
    change y.clock + _ ≤ _ at hnext
    have hadvanced := (ha.later hclock).next hi hp hnext
    obtain ⟨hfits, hends⟩ := hp.fits hi
    rw [List.length_cons, ← Nat.succ_add_eq_add_succ] at hlast
    obtain ⟨hsparing, hcount⟩ := ih hlast hopen hx hadvanced (by omega)
    constructor
    · refine .later lines hs hp.unready rfl hfits hwaits hsparing fun hshort => ?_
      -- A wait that was cut short reaches the timeout, so nothing but the last round is left.
      have hreached : settings.timeoutMs ≤ x.clock - started := by
        have hcut := hends.resolve_left hshort.ne
        linarith
      obtain ⟨rfl, rfl⟩ := hrest.eq_nil hi hx hreached
      exact ⟨rfl, (hlast.sparing hi hx hadvanced rfl).2 hreached⟩
    · rw [List.length_cons]
      push_cast at hcount ⊢
      omega

end

def waitsOn (w : World Rat) (pages : List Nat) : Nat :=
  (pages.head?.map fun first => (w.page first).waitsLeft).getD 0

/-- A poll asks only for waits that fit, samples once more after one that was cut short, and ends
after at most as many rounds as the shortest interval fits into the timeout and one more, whatever
its pages return. -/
theorem untilLive_sparing {settings : Settings} {label : String} {pages : List Nat}
    {w : World Rat} (hintervals : ∀ ms ∈ settings.intervalsMs, 1 ≤ ms)
    (isOpen : ∀ first ∈ pages.head?, first < w.pages.length) (hu : Unhurried w pages) :
    ∃ n : Nat, n ≤ settings.mostWaits + 1 ∧
      Sparing settings label pages w.clock (waitsOn w pages) 0 w n
        (untilLive settings label pages w).1 (untilLive settings label pages w).2 := by
  cases pages with
  | nil =>
    obtain ⟨lines, hrun⟩ := untilLive_nil settings label w
    have hpos := Settings.mostWaits_nonneg hintervals
    refine ⟨1, by omega, ?_⟩
    rw [hrun]
    exact .last (.live lines (.nil w) rfl)
  | cons first more =>
    obtain ⟨rest, v, calls, hrs, hlast, -⟩ := untilLiveWithin_course settings.limits settings label
      first more w (isOpen first rfl)
    rw [← Nat.zero_add rest.length] at hlast
    obtain ⟨hsparing, hcount⟩ := hrs.sparing hlast hintervals (isOpen first rfl) hu
      (advanced_zero hintervals w.clock) rfl
    refine ⟨rest.length + 1, ?_, hsparing⟩
    push_cast at hcount ⊢
    omega

def slowPage : World Rat := (World.start 0 [{ latencyMs := 5 }]).addPage

theorem untilLive_sparing_slowPage :
    ((∀ ms ∈ [(1000 : Int), 2000], 1 ≤ ms) ∧ 0 < slowPage.pages.length ∧
      Unhurried slowPage [0]) ∧
    Settings.mostWaits { timeoutMs := 2500, intervalsMs := [1000, 2000] } = 3 ∧
    ∃ n ≤ 4, Sparing { timeoutMs := 2500, intervalsMs := [1000, 2000] } "slow" [0] 0 100 0 slowPage
      n (untilLive { timeoutMs := 2500, intervalsMs := [1000, 2000] } "slow" [0] slowPage).1
      (untilLive { timeoutMs := 2500, intervalsMs := [1000, 2000] } "slow" [0] slowPage).2 := by
  have hmost : Settings.mostWaits { timeoutMs := 2500, intervalsMs := [1000, 2000] } = 3 := by
    decide +kernel
  have hopen : ∀ first ∈ [0].head?, first < slowPage.pages.length := by decide
  have hunhurried : Unhurried slowPage [0] := unhurried_of_plan fun k hk => by
    obtain rfl := List.mem_singleton.mp hk
    exact ⟨_, rfl, by decide⟩
  obtain ⟨n, hn, h⟩ := @untilLive_sparing { timeoutMs := 2500, intervalsMs := [1000, 2000] } "slow"
    [0] slowPage (by decide) hopen hunhurried
  rw [hmost] at hn
  exact ⟨⟨by decide, by decide, hunhurried⟩, hmost, n, by omega, h⟩

end StreamWatch.Poll
