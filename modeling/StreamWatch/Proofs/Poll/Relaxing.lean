import StreamWatch.Proofs.Poll.Frame
import StreamWatch.Proofs.Poll.Sparing
import StreamWatch.Proofs.Verdict.Media

/-! Two polls of the same pages, one of which asks for less and may take longer. What a page answers
depends on how often it was evaluated and not on the clock, so both polls see the same snapshots,
round by round. Their waits differ only after the timeout of the stricter one cut a wait short, and
then the stricter poll has one round left. So wherever it finds the pages ready, the other one does
so too, and no later. -/
namespace StreamWatch.Poll

open Browser (Call Check PageScript Timeline World)
open Sample (Snapshot)
open Session (Gives Hinders Refuses Sampled Unsampled Waits)

structure Relaxes (strict relaxed : Settings) : Prop where
  intervals : relaxed.intervalsMs = strict.intervalsMs
  timeout : strict.timeoutMs ≤ relaxed.timeoutMs
  bytes : relaxed.minInboundBytes ≤ strict.minInboundBytes
  audioBytes : relaxed.minInboundAudioBytes ≤ strict.minInboundAudioBytes
  audio : relaxed.requireAudio = true → strict.requireAudio = true
  metadata : relaxed.requireMetadata = true → strict.requireMetadata = true

section

variable {strict relaxed : Settings} {snapshots : List Snapshot}

theorem Relaxes.interval (h : Relaxes strict relaxed) (k : Nat) :
    relaxed.interval k = strict.interval k := by
  rw [Settings.interval, Settings.interval, h.intervals]

theorem Relaxes.isReady (h : Relaxes strict relaxed) {s : Snapshot}
    (hs : strict.isReady s = true) : relaxed.isReady s = true := by
  rw [Settings.isReady_iff] at hs ⊢
  obtain ⟨tracks, metadata, bytes, audio⟩ := hs
  exact ⟨tracks, fun asked => metadata (h.metadata asked), h.bytes.trans_lt bytes,
    fun asked => h.audioBytes.trans_lt (audio (h.audio asked))⟩

theorem Relaxes.all_isReady (h : Relaxes strict relaxed)
    (hs : snapshots.all strict.isReady = true) : snapshots.all relaxed.isReady = true := by
  rw [List.all_eq_true] at hs ⊢
  exact fun s hmem => h.isReady (hs s hmem)

end

structure Abreast (u u' : World Rat) : Prop where
  pages : u'.pages = u.pages
  blank : u'.blank = u.blank

/-- Every evaluation takes a time that is its own and not negative. -/
def Delayed (u : World Rat) (pages : List Nat) : Prop :=
  ∀ k ∈ pages, ∀ n, ∃ latency : Rat, 0 ≤ latency ∧
    ∀ t, (u.page k).script.sampled n t = .ok (t + latency)

structure Timed (u : World Rat) (pages : List Nat) : Prop where
  delayed : Delayed u pages
  waited : ∀ first ∈ pages.head?, ∀ n ms t, (u.page first).script.waited n ms t = .ok (t + ms)

section

variable {u u' v v' : World Rat} {pages : List Nat} {snapshots : List Snapshot} {k first : Nat}
  {more : List Nat} {ms : Int}

theorem Abreast.refl (u : World Rat) : Abreast u u := ⟨rfl, rfl⟩

theorem Abreast.page (h : Abreast u u') (k : Nat) : u'.page k = u.page k := by
  rw [World.page, World.page, h.pages, h.blank]

theorem Timed.of_script (h : Timed u pages)
    (hs : ∀ k, (v.page k).script = (u.page k).script) : Timed v pages := by
  constructor
  · intro k hk
    rw [hs k]
    exact h.delayed k hk
  · intro first hfirst
    rw [hs first]
    exact h.waited first hfirst

theorem Timed.unhurried (h : Timed u pages) : Unhurried u pages := by
  constructor
  · intro k hk n t t' ht
    obtain ⟨latency, hpos, hlater⟩ := h.delayed k hk n
    rw [hlater] at ht
    obtain rfl := Except.ok.inj ht
    linarith
  · intro first hfirst n ms t t' ht
    rw [h.waited first hfirst] at ht
    exact (Except.ok.inj ht).le

theorem timed_of_plan (h : ∀ k ∈ pages, ∃ plan : PageScript.Plan,
    (u.page k).script = .ofPlan plan ∧ 0 ≤ plan.latencyMs) : Timed u pages := by
  constructor
  · intro k hk n
    obtain ⟨plan, hscript, hlatency⟩ := h k hk
    refine ⟨plan.latencyMs, Int.cast_nonneg hlatency, fun t => ?_⟩
    rw [hscript]
    rfl
  · intro first hfirst n ms t
    obtain ⟨plan, hscript, -⟩ := h first (List.mem_of_mem_head? hfirst)
    rw [hscript]
    rfl

theorem abreast_of_gives {s s' : Snapshot} (hd : Delayed u (k :: pages)) (ha : Abreast u u')
    (hg : Gives u k s v) (hg' : Gives u' k s' v') :
    s' = s ∧ Abreast v v' ∧ v'.clock - u'.clock = v.clock - u.clock := by
  obtain ⟨lines, ht, hs, hr, -⟩ := hg
  obtain ⟨lines', ht', hs', hr', -⟩ := hg'
  obtain ⟨latency, -, hlater⟩ := hd k List.mem_cons_self (u.page k).evaluated
  rw [ha.page k, hlater] at ht'
  rw [ha.page k, hs] at hs'
  rw [hlater] at ht
  obtain rfl := Except.ok.inj ht
  obtain rfl := Except.ok.inj ht'
  obtain rfl := Except.ok.inj hs'
  rw [hr] at hr'
  refine ⟨(Except.ok.inj hr').symm, ⟨?_, ha.blank⟩, ?_⟩
  · change u'.pages.modify k _ = u.pages.modify k _
    rw [ha.pages]
  · change u'.clock + latency - u'.clock = u.clock + latency - u.clock
    rw [add_sub_cancel_left, add_sub_cancel_left]

theorem not_refuses_of_gives {s : Snapshot} {h : Halt} (hd : Delayed u (k :: pages))
    (ha : Abreast u u') (hg : Gives u k s v) : ¬ Refuses u' k h v' := by
  obtain ⟨lines, -, hs, hr, haddress⟩ := hg
  intro hrefuses
  cases hrefuses with
  | untimed ht =>
    obtain ⟨latency, -, hlater⟩ := hd k List.mem_cons_self (u.page k).evaluated
    rw [ha.page k, hlater] at ht
    cases ht
  | failed _ hs' =>
    rw [ha.page k, hs] at hs'
    cases hs'
  | unreadable _ hs' hr' =>
    rw [ha.page k, hs] at hs'
    obtain rfl := Except.ok.inj hs'
    rw [hr] at hr'
    cases hr'
  | unplaced _ hs' hr' haddress' =>
    rw [ha.page k, hs] at hs'
    obtain rfl := Except.ok.inj hs'
    rw [hr] at hr'
    obtain rfl := Except.ok.inj hr'
    exact Bool.noConfusion (haddress.symm.trans haddress')

theorem abreast_of_sampled (hs : Sampled u pages snapshots v) (hd : Delayed u pages)
    (ha : Abreast u u') :
    (∀ snapshots' v', Sampled u' pages snapshots' v' →
      snapshots' = snapshots ∧ Abreast v v' ∧ v'.clock - u'.clock = v.clock - u.clock) ∧
    ∀ reached h v', ¬ Unsampled u' pages reached h v' := by
  induction hs generalizing u' with
  | nil u =>
    refine ⟨fun snapshots' v' hs' => ?_, fun reached h v' hu' => nomatch hu'⟩
    cases hs'
    exact ⟨rfl, ha, by rw [sub_self, sub_self]⟩
  | @cons u x v k s pages rest hg _ ih =>
    have hrest : Delayed x pages := by
      intro j hj
      rw [hg.script j]
      exact hd j (List.mem_cons_of_mem k hj)
    constructor
    · intro snapshots' v' hs'
      cases hs' with
      | cons hg' hs' =>
        obtain ⟨rfl, hax, hclock⟩ := abreast_of_gives hd ha hg hg'
        obtain ⟨rfl, hav, hlast⟩ := (ih hrest hax).1 _ _ hs'
        exact ⟨rfl, hav, by linarith⟩
    · intro reached h v' hu'
      cases hu' with
      | here pages hr => exact not_refuses_of_gives hd ha hg hr
      | later hg' hu' =>
        obtain ⟨-, hax, -⟩ := abreast_of_gives hd ha hg hg'
        exact (ih hrest hax).2 _ _ _ hu'

theorem abreast_of_waits {ms' : Int} (ha : Abreast u u') (hw : Waits u first ms v)
    (hw' : Waits u' first ms' v') : Abreast v v' := by
  obtain ⟨-, -, -⟩ := hw
  obtain ⟨-, -, -⟩ := hw'
  refine ⟨?_, ha.blank⟩
  change u'.pages.modify first _ = u.pages.modify first _
  rw [ha.pages]

theorem not_hinders_of_waits {ms' : Int} {h : Halt} (ht : Timed u (first :: more))
    (ha : Abreast u u') (hw : Waits u first ms v) : ¬ Hinders u' first ms' h v' := by
  obtain ⟨hpasses, hleft, -⟩ := hw
  intro hh
  cases hh with
  | interrupted hw' =>
    rw [ha.page first, hpasses] at hw'
    cases hw'
  | failed hw' =>
    rw [ha.page first, hpasses] at hw'
    cases hw'
  | exhausted _ hnone =>
    rw [ha.page first] at hnone
    exact hleft hnone
  | untimed _ _ hlater =>
    rw [ha.page first, ht.waited first rfl] at hlater
    cases hlater

end

def isWait : Call → Bool
  | .wait _ _ => true
  | _ => false

def waitsMade (w : World Rat) : Nat := w.calls.countP isWait

section

variable {strict relaxed settings : Settings} {label : String} {first : Nat} {more : List Nat}
  {started : Rat} {k : Nat} {u u' v v' w : World Rat} {snapshots : List Snapshot} {ms : Int}

theorem waitsMade_of_evaluations {reached : List Nat}
    (hc : v.calls = u.calls ++ reached.map Call.evaluate) : waitsMade v = waitsMade u := by
  have hnone : (reached.map Call.evaluate).countP isWait = 0 := by
    simp [List.countP_map, Function.comp_def, isWait]
  rw [waitsMade, hc, List.countP_append, hnone, Nat.add_zero, waitsMade]

theorem UnreadyRound.waitsMade {limits : Limits}
    (h : UnreadyRound limits settings first more started k u ms v) :
    waitsMade v = waitsMade u + 1 := by
  obtain ⟨lines, hs, -, hw⟩ := h
  have hone : [Call.wait first (some ms)].countP isWait = 1 := rfl
  rw [Poll.waitsMade, hw.calls, List.countP_append, hone]
  exact congrArg (· + 1) (waitsMade_of_evaluations hs.calls)

theorem shortfall_of_unready {limits : Limits}
    (hrun : round settings limits label (first :: more) started k u = (.ok none, w)) :
    ∃ snapshots v lacks, Check.each Session.collect (first :: more) u = (.ok snapshots, v) ∧
      snapshots.mapM shortfall = .ok lacks := by
  rw [round] at hrun
  obtain ⟨snapshots, v, he, hrun⟩ := Check.bind_ok hrun
  refine ⟨snapshots, v, ?_⟩
  cases hr : snapshots.all settings.isReady with
  | true =>
    rw [if_pos hr] at hrun
    obtain ⟨span, x, -, hrun⟩ := Check.bind_ok hrun
    obtain ⟨whole, y, -, hrun⟩ := Check.bind_ok hrun
    obtain ⟨_, z, -, hrun⟩ := Check.bind_ok hrun
    cases hrun
  | false =>
    rw [if_neg (by simp [hr])] at hrun
    obtain ⟨lacks, x, hlacks, -⟩ := Check.bind_ok hrun
    exact ⟨lacks, he, (Check.ok_of_ofFault hlacks).1⟩

theorem round_relaxed_of_live (h : Relaxes strict relaxed) (ht : Timed u (first :: more))
    (ha : Abreast u u')
    (hrun : round strict strict.limits label (first :: more) started k u =
      (.ok (some snapshots), v)) :
    waitsMade v = waitsMade u ∧
      ∃ v', round relaxed relaxed.limits label (first :: more) started k u' =
        (.ok (some snapshots), v') ∧ waitsMade v' = waitsMade u' := by
  have hx := round_executes strict.limits strict label first more started k u
  have hx' := round_executes relaxed.limits relaxed label first more started k u'
  rw [hrun] at hx
  cases hx with
  | answered hlast =>
    cases hlast with
    | live lines hs hr =>
      obtain ⟨hsame, hsampled⟩ := abreast_of_sampled hs ht.delayed ha
      have hready := h.all_isReady hr
      refine ⟨waitsMade_of_evaluations hs.calls, ?_⟩
      generalize round relaxed relaxed.limits label (first :: more) started k u' = r at hx' ⊢
      obtain ⟨answer, v'⟩ := r
      -- The other round sees the same snapshots, so it is ready as well.
      have hnot {snapshots' : List Snapshot} {y : World Rat}
          (hs' : Sampled u' (first :: more) snapshots' y) :
          snapshots'.all relaxed.isReady ≠ false := by
        rw [(hsame _ _ hs').1, hready]
        decide
      cases hx' with
      | answered hlast' =>
        cases hlast' with
        | live lines' hs' _ =>
          rw [(hsame _ _ hs').1]
          exact ⟨_, rfl, waitsMade_of_evaluations hs'.calls⟩
      | halted hlast' =>
        cases hlast' with
        | timedOut _ hs' hr' => exact absurd hr' (hnot hs')
        | unsampled hu' => exact absurd hu' (hsampled _ _ _)
        | unwaited _ hs' hp' =>
          obtain ⟨hr', -⟩ := hp'
          exact absurd hr' (hnot hs')
        | unclear _ hs' hf' => exact absurd hf'.of_exact.1 (hnot hs')
      | unready hu' =>
        obtain ⟨_, hs', hp', -⟩ := hu'
        obtain ⟨hr', -⟩ := hp'
        exact absurd hr' (hnot hs')

/-- At the same moment both polls pause alike, or the timeout of the stricter one cuts its pause
short. -/
theorem pauses_alike {now : Rat} {ms' : Int} {snapshots' : List Snapshot}
    (h : Relaxes strict relaxed)
    (hp : Pauses strict.limits strict started k snapshots now ms)
    (hp' : Pauses relaxed.limits relaxed started k snapshots' now ms') :
    ms' = ms ∨ strict.timeoutMs ≤ now - started + ms := by
  have hms := hp.length.2
  have hms' := hp'.length.2
  have hmore : ((strict.timeoutMs : Rat) - (now - started)).ceil ≤
      ((relaxed.timeoutMs : Rat) - (now - started)).ceil := by
    have hcast : (strict.timeoutMs : Rat) ≤ relaxed.timeoutMs := Int.cast_le.mpr h.timeout
    have hup := Rat.le_ceil (x := (relaxed.timeoutMs : Rat) - (now - started))
    exact Rat.ceil_le_iff.mpr (by linarith)
  have hceil := Rat.le_ceil (x := (strict.timeoutMs : Rat) - (now - started))
  rw [h.interval k] at hms'
  rcases le_total (strict.interval k) ((strict.timeoutMs : Rat) - (now - started)).ceil
    with hle | hle
  · left
    rw [hms, hms', min_eq_left hle, min_eq_left (hle.trans hmore)]
  · right
    rw [hms, min_eq_right hle]
    linarith

/-- A stricter poll that goes on after a round has not reached its timeout, so up to that round both
polls have kept the same time. -/
theorem clock_of_pauses (hs : Sampled u (first :: more) snapshots v) (ht : Timed u (first :: more))
    (hp : Pauses strict.limits strict started k snapshots v.clock ms)
    (hclock : u'.clock = u.clock ∨ strict.timeoutMs ≤ u.clock - started) : u'.clock = u.clock := by
  have hle := clock_le_of_sampled hs ht.unhurried.sampled
  have hlt := hp.length.1
  refine hclock.resolve_right fun hreached => ?_
  linarith

theorem not_halted_of_unready {lines : List Console.LogLine} {lacks : List String}
    {calls : List Call} {halt : Halt} (h : Relaxes strict relaxed) (ht : Timed u (first :: more))
    (ha : Abreast u u') (hclock : u'.clock = u.clock) (hs : Sampled u (first :: more) snapshots v)
    (hlacks : snapshots.mapM shortfall = .ok lacks)
    (hp : Pauses strict.limits strict started k snapshots v.clock ms)
    (hw : Waits { v with log := lines } first ms w) :
    ¬LastRound relaxed.limits relaxed label first more started k u' (.error halt) calls v' := by
  obtain ⟨hsame, hsampled⟩ := abreast_of_sampled hs ht.delayed ha
  have hbefore {snapshots' : List Snapshot} {x' : World Rat}
      (hs' : Sampled u' (first :: more) snapshots' x') :
      Timeline.reaches (Timeline.elapsed started x'.clock) relaxed.timeoutMs ≠ true := by
    intro hb
    have hnow := (hsame _ _ hs').2.2
    have hlt := hp.length.1
    have hreached : (relaxed.timeoutMs : Rat) ≤ x'.clock - started := of_decide_eq_true hb
    have hmore : (strict.timeoutMs : Rat) ≤ relaxed.timeoutMs := Int.cast_le.mpr h.timeout
    linarith
  intro hlast
  cases hlast with
  | timedOut _ hs' _ hT hb _ =>
    obtain rfl := Option.some.inj hT
    exact hbefore hs' hb
  | unsampled hu' => exact hsampled _ _ _ hu'
  | @unwaited x' _ _ _ _ lines' hs' _ hh' =>
    obtain ⟨-, hax, -⟩ := hsame _ _ hs'
    have hkept : Timed { v with log := lines } (first :: more) := ht.of_script hs.script
    have haxl : Abreast { v with log := lines } { x' with log := lines' } := ⟨hax.pages, hax.blank⟩
    exact not_hinders_of_waits hkept haxl hw hh'
  | unclear _ hs' hf' =>
    obtain ⟨-, hm | ⟨hb, -, -⟩⟩ := hf'.of_exact
    · rw [(hsame _ _ hs').1, hlacks] at hm
      cases hm
    · exact hbefore hs' hb

theorem abreast_of_unready {ms' : Int} {w' : World Rat} (h : Relaxes strict relaxed)
    (ht : Timed u (first :: more)) (ha : Abreast u u') (hclock : u'.clock = u.clock)
    (hu : UnreadyRound strict.limits strict first more started k u ms w)
    (hu' : UnreadyRound relaxed.limits relaxed first more started k u' ms' w') :
    Abreast w w' ∧ (w'.clock = w.clock ∨ strict.timeoutMs ≤ w.clock - started) := by
  obtain @⟨v, _, lines, hs, hp, hw⟩ := hu
  obtain @⟨v', _, lines', hs', hp', hw'⟩ := hu'
  obtain ⟨-, hav, hspan⟩ := (abreast_of_sampled hs ht.delayed ha).1 _ _ hs'
  have havl : Abreast { v with log := lines } { v' with log := lines' } := ⟨hav.pages, hav.blank⟩
  have hkept : Timed { v with log := lines } (first :: more) := ht.of_script hs.script
  have hnow : v'.clock = v.clock := by linarith
  have hend := clock_of_waits (hkept.waited first rfl) hw
  have hend' := clock_of_waits (by rw [havl.page first]; exact hkept.waited first rfl) hw'
  change _ = v.clock + _ at hend
  change _ = v'.clock + _ at hend'
  rw [hnow] at hp' hend'
  refine ⟨abreast_of_waits havl hw hw', ?_⟩
  rcases pauses_alike h hp hp' with hsame | hcut
  · left
    rw [hend, hend', hsame]
  · right
    linarith

theorem round_relaxed_of_unready (h : Relaxes strict relaxed) (ht : Timed u (first :: more))
    (ha : Abreast u u') (hclock : u'.clock = u.clock ∨ strict.timeoutMs ≤ u.clock - started)
    (hrun : round strict strict.limits label (first :: more) started k u = (.ok none, w)) :
    waitsMade w = waitsMade u + 1 ∧ Timed w (first :: more) ∧
      ((∃ snapshots v', round relaxed relaxed.limits label (first :: more) started k u' =
          (.ok (some snapshots), v') ∧ waitsMade v' = waitsMade u' ∧
          ∃ s, relaxed.isReady s ≠ strict.isReady s) ∨
        ∃ w', round relaxed relaxed.limits label (first :: more) started k u' = (.ok none, w') ∧
          waitsMade w' = waitsMade u' + 1 ∧ Abreast w w' ∧
          (w'.clock = w.clock ∨ strict.timeoutMs ≤ w.clock - started)) := by
  obtain ⟨told, x, lacks, htold, hlacks⟩ := shortfall_of_unready hrun
  have hx := round_executes strict.limits strict label first more started k u
  have hx' := round_executes relaxed.limits relaxed label first more started k u'
  rw [hrun] at hx
  cases hx with
  | unready hround =>
    have hmade := hround.waitsMade
    have hround' := hround
    obtain @⟨v, snapshots, lines, hs, hp, hw⟩ := hround
    have hsame := (abreast_of_sampled hs ht.delayed ha).1
    obtain rfl : told = snapshots :=
      ((abreast_of_sampled hs ht.delayed (.refl u)).1 _ _ (Session.sampled_of_each htold)).1
    have hkept : Timed { v with log := lines } (first :: more) := ht.of_script hs.script
    have hbegun := clock_of_pauses hs ht hp hclock
    refine ⟨hmade, hkept.of_script hw.script, ?_⟩
    generalize round relaxed relaxed.limits label (first :: more) started k u' = r at hx' ⊢
    obtain ⟨answer, y⟩ := r
    cases hx' with
    | answered hlast =>
      cases hlast with
      | live lines' hs' hr' =>
        refine .inl ⟨_, _, rfl, waitsMade_of_evaluations hs'.calls, ?_⟩
        rw [(hsame _ _ hs').1] at hr'
        obtain ⟨hnot, -⟩ := hp
        by_contra hall
        push Not at hall
        rw [funext hall, hnot] at hr'
        cases hr'
    | halted hlast => exact absurd hlast (not_halted_of_unready h ht ha hbegun hs hlacks hp hw)
    | unready hlater =>
      obtain ⟨haw, hend⟩ := abreast_of_unready h ht ha hbegun hround' hlater
      exact .inr ⟨_, rfl, hlater.waitsMade, haw, hend⟩

theorem waitsMade_le_of_rounds {limits : Limits} {pages : List Nat} {left : Nat}
    {r : Except Halt (List Snapshot)}
    (hrun : rounds settings limits label pages started left k u = (r, v)) :
    waitsMade u ≤ waitsMade v := by
  have hquiet := (quiet_rounds settings limits label pages started left k).world u
  rw [hrun] at hquiet
  exact hquiet.calls.sublist.countP_le

theorem rounds_relaxed (h : Relaxes strict relaxed) {left : Nat} (ht : Timed u (first :: more))
    (ha : Abreast u u') (hclock : u'.clock = u.clock ∨ strict.timeoutMs ≤ u.clock - started)
    (hrun : rounds strict strict.limits label (first :: more) started left k u =
      (.ok snapshots, v)) :
    ∃ snapshots' v', rounds relaxed relaxed.limits label (first :: more) started left k u' =
        (.ok snapshots', v') ∧
      waitsMade v' + waitsMade u ≤ waitsMade v + waitsMade u' ∧
      ((∀ s, relaxed.isReady s = strict.isReady s) →
        snapshots' = snapshots ∧ waitsMade v' + waitsMade u = waitsMade v + waitsMade u') := by
  induction left using Nat.strongRecOn generalizing k u u' with
  | ind left ih =>
    rw [rounds_run] at hrun ⊢
    rcases hround : round strict strict.limits label (first :: more) started k u
      with ⟨_ | _ | found, x⟩
    · rw [hround] at hrun
      cases hrun
    · rw [hround] at hrun
      cases left with
      | zero => cases hrun
      | succ fewer =>
        obtain ⟨hmade, hkept, hnext⟩ := round_relaxed_of_unready h ht ha hclock hround
        rcases hnext with ⟨found, v', hround', hmade', s, hs⟩ | ⟨w', hround', hmade', hax, hlater⟩
        · have hmore := waitsMade_le_of_rounds hrun
          rw [hround']
          exact ⟨found, v', rfl, by omega, fun hall => absurd (hall s) hs⟩
        · -- Both polls go on, on clocks that agree until the stricter one reaches its timeout.
          obtain ⟨snapshots', v', hrun', hle, heq⟩ := ih fewer (by omega) hkept hax hlater hrun
          rw [hround']
          refine ⟨snapshots', v', hrun', by omega, fun hall => ?_⟩
          obtain ⟨hsame, hcount⟩ := heq hall
          exact ⟨hsame, by omega⟩
    · rw [hround] at hrun
      cases hrun
      obtain ⟨hmade, v', hround', hmade'⟩ := round_relaxed_of_live h ht ha hround
      rw [hround']
      exact ⟨snapshots, v', rfl, by omega, fun _ => ⟨rfl, by omega⟩⟩

end

/-- The poll gives the snapshots in round `n`, the first round being round 0: it has waited `n`
times by then. -/
def LiveIn (settings : Settings) (label : String) (pages : List Nat) (w : World Rat) (n : Nat)
    (snapshots : List Snapshot) : Prop :=
  ∃ v, untilLive settings label pages w = (.ok snapshots, v) ∧ waitsMade v = waitsMade w + n

/-- A poll that asks for less finds the pages ready wherever the stricter one does, and no later; if
it only has more time, it finds them in the same round and with the same snapshots. -/
theorem untilLive_relaxed {strict relaxed : Settings} {label : String} {pages : List Nat}
    {w : World Rat} {n : Nat} {snapshots : List Snapshot} (h : Relaxes strict relaxed)
    (ht : Timed w pages) (hlive : LiveIn strict label pages w n snapshots) :
    (∃ m ≤ n, ∃ snapshots', LiveIn relaxed label pages w m snapshots') ∧
      (relaxed = { strict with timeoutMs := relaxed.timeoutMs } →
        LiveIn relaxed label pages w n snapshots) := by
  obtain ⟨v, hrun, hmade⟩ := hlive
  cases pages with
  | nil =>
    obtain ⟨lines, hstrict⟩ := untilLive_nil strict label w
    obtain ⟨lines', hrelaxed⟩ := untilLive_nil relaxed label w
    rw [hstrict] at hrun
    cases hrun
    have hzero : n = 0 := Nat.left_eq_add.mp hmade
    have hlive : LiveIn relaxed label [] w 0 [] := ⟨_, hrelaxed, rfl⟩
    subst hzero
    exact ⟨⟨0, Nat.le_refl 0, [], hlive⟩, fun _ => hlive⟩
  | cons first more =>
    change rounds strict strict.limits label (first :: more) w.clock (w.page first).waitsLeft 0 w =
      _ at hrun
    obtain ⟨snapshots', v', hrun', hle, heq⟩ := rounds_relaxed h ht (.refl w) (.inl rfl) hrun
    constructor
    · exact ⟨waitsMade v' - waitsMade w, by omega, snapshots', v', hrun', by
        have hmore := waitsMade_le_of_rounds hrun'
        omega⟩
    · intro honly
      obtain ⟨rfl, hcount⟩ := heq fun s => by rw [honly]; rfl
      exact ⟨v', hrun', by omega⟩

def growingPage : World Rat :=
  let playing (bytes : Int) : Json.Value := .record [
    ("videos", .list [.record [("videoWidth", .int 640), ("videoHeight", .int 480),
      ("videoTracks", .int 1)]]),
    ("pcStats", .list [.record [("inboundVideoBytes", .int bytes)]])]
  (World.start 0 [{
    samples := [.ok .null, .ok (playing 3000), .ok (playing 9000)], latencyMs := 5 }]).addPage

def hasty : Settings := { timeoutMs := 2500, intervalsMs := [1000, 2000] }

theorem untilLive_relaxed_growingPage :
    Relaxes hasty { hasty with timeoutMs := 9000, minInboundBytes := 2000 } ∧
    Relaxes hasty { hasty with timeoutMs := 9000 } ∧ Timed growingPage [0] ∧
    ∃ snapshots, LiveIn hasty "late" [0] growingPage 2 snapshots ∧
      (∃ m ≤ 2, ∃ snapshots', LiveIn { hasty with timeoutMs := 9000, minInboundBytes := 2000 }
        "late" [0] growingPage m snapshots') ∧
      LiveIn { hasty with timeoutMs := 9000 } "late" [0] growingPage 2 snapshots := by
  have htimed : Timed growingPage [0] := timed_of_plan fun k hk => by
    obtain rfl := List.mem_singleton.mp hk
    exact ⟨_, rfl, by decide⟩
  have hless : Relaxes hasty { hasty with timeoutMs := 9000, minInboundBytes := 2000 } :=
    ⟨rfl, by decide, by decide, by decide, id, id⟩
  have hlonger : Relaxes hasty { hasty with timeoutMs := 9000 } :=
    ⟨rfl, by decide, by decide, by decide, id, id⟩
  obtain ⟨snapshots, hfound⟩ : ∃ snapshots,
      (untilLive hasty "late" [0] growingPage).1.toOption = some snapshots :=
    Option.isSome_iff_exists.mp (by decide +kernel)
  have hlive : LiveIn hasty "late" [0] growingPage 2 snapshots :=
    ⟨_, Check.run_of_toOption hfound, by decide +kernel⟩
  exact ⟨hless, hlonger, htimed, snapshots, hlive, (untilLive_relaxed hless htimed hlive).1,
    (untilLive_relaxed hlonger htimed hlive).2 rfl⟩

end StreamWatch.Poll
