import StreamWatch.Proofs.Browser.Outcome
import StreamWatch.Proofs.Sample.RoundTrip
import StreamWatch.Session.Probe

/-! Samples and waits as relations between the worlds before and after them. Every relation holds
the answer of the page script that it rests on, and says what becomes of the whole world; only the
lines that samples leave in the log are not told. -/
namespace StreamWatch.Session

open Browser (Call Check World)
open Sample (Snapshot)

variable {τ : Type}

inductive Gives (u : World τ) (k : Nat) (s : Snapshot) : World τ → Prop
  | read {value : Json.Value} {t : τ} (lines : List Console.LogLine) :
      (u.page k).script.sampled (u.page k).evaluated u.clock = .ok t →
      (u.page k).script.sample (u.page k).evaluated = .ok value →
      Snapshot.ofAnswer value = .ok s →
      s.address.isWritable = true →
      Gives u k s { u.evaluating k with clock := t, log := lines }

inductive Refuses (u : World τ) (k : Nat) : Halt → World τ → Prop
  | untimed {f : Fault} :
      (u.page k).script.sampled (u.page k).evaluated u.clock = .error f →
      Refuses u k (.fault f) (u.evaluating k)
  | failed {message : String} {t : τ} :
      (u.page k).script.sampled (u.page k).evaluated u.clock = .ok t →
      (u.page k).script.sample (u.page k).evaluated = .error message →
      Refuses u k (.browser message) { u.evaluating k with clock := t }
  | unreadable {value : Json.Value} {f : Fault} {t : τ} :
      (u.page k).script.sampled (u.page k).evaluated u.clock = .ok t →
      (u.page k).script.sample (u.page k).evaluated = .ok value →
      Snapshot.ofAnswer value = .error f →
      Refuses u k (.fault f) { u.evaluating k with clock := t }
  | unplaced {value : Json.Value} {s : Snapshot} {t : τ} :
      (u.page k).script.sampled (u.page k).evaluated u.clock = .ok t →
      (u.page k).script.sample (u.page k).evaluated = .ok value →
      Snapshot.ofAnswer value = .ok s →
      s.address.isWritable = false →
      Refuses u k (.fault .unwritableNumber) { u.evaluating k with clock := t }

inductive Waits (u : World τ) (k : Nat) (ms : Int) : World τ → Prop
  | passed {t : τ} :
      (u.page k).script.wait (u.page k).waited = .passes →
      (u.page k).waitsLeft ≠ 0 →
      (u.page k).script.waited (u.page k).waited ms u.clock = .ok t →
      Waits u k ms { u.waiting k (some ms) with clock := t }

inductive Hinders (u : World τ) (k : Nat) (ms : Int) : Halt → World τ → Prop
  | interrupted :
      (u.page k).script.wait (u.page k).waited = .interrupted →
      Hinders u k ms .interrupted (u.waiting k (some ms))
  | failed {message : String} :
      (u.page k).script.wait (u.page k).waited = .fails message →
      Hinders u k ms (.browser message) (u.waiting k (some ms))
  | exhausted :
      (u.page k).script.wait (u.page k).waited = .passes →
      (u.page k).waitsLeft = 0 →
      Hinders u k ms (.browser Browser.waitLimitReached) (u.waiting k (some ms))
  | untimed {f : Fault} :
      (u.page k).script.wait (u.page k).waited = .passes →
      (u.page k).waitsLeft ≠ 0 →
      (u.page k).script.waited (u.page k).waited ms u.clock = .error f →
      Hinders u k ms (.fault f) (u.waiting k (some ms))

inductive Sampled : World τ → List Nat → List Snapshot → World τ → Prop
  | nil (u : World τ) : Sampled u [] [] u
  | cons {u v w : World τ} {k : Nat} {s : Snapshot} {pages : List Nat} {rest : List Snapshot} :
      Gives u k s v → Sampled v pages rest w → Sampled u (k :: pages) (s :: rest) w

/-- The pages are evaluated in turn up to one that halts the check, the last of `reached`. -/
inductive Unsampled : World τ → List Nat → List Nat → Halt → World τ → Prop
  | here {u v : World τ} {k : Nat} {h : Halt} (pages : List Nat) :
      Refuses u k h v → Unsampled u (k :: pages) [k] h v
  | later {u v w : World τ} {k : Nat} {s : Snapshot} {pages reached : List Nat} {h : Halt} :
      Gives u k s v → Unsampled v pages reached h w → Unsampled u (k :: pages) (k :: reached) h w

theorem logSnapshot_run {s : Snapshot} (h : s.address.isWritable = true) (w : World τ) :
    ∃ lines, logSnapshot s w = (.ok (), { w with log := lines }) := by
  obtain ⟨lines, hl⟩ := Check.forEach_log_run .debug .probe
    (fun error => s!"getStats() failed on {s.address.told}: {error}") s.errors w
  rw [logSnapshot, Json.Value.display, if_pos h, Check.bind_of_ok (Check.ofFault_ok _ w),
    Check.bind_of_ok hl]
  exact Check.log_run .debug .probe _ { w with log := lines }

theorem logSnapshot_refused {s : Snapshot} (h : s.address.isWritable = false) (w : World τ) :
    logSnapshot s w = (.error (.fault .unwritableNumber), w) := by
  rw [logSnapshot, Json.Value.display, if_neg (by simp [h])]
  rfl

theorem collect_executes (k : Nat) (u : World τ) :
    match collect k u with
    | (.ok s, v) => Gives u k s v
    | (.error h, v) => Refuses u k h v := by
  have he := Check.evaluate_run k u
  cases ht : (u.page k).script.sampled (u.page k).evaluated u.clock with
  | error f =>
    rw [ht] at he
    rw [collect, Check.bind_of_error he]
    exact .untimed ht
  | ok t =>
    cases hs : (u.page k).script.sample (u.page k).evaluated with
    | error message =>
      rw [ht, hs] at he
      rw [collect, Check.bind_of_error he]
      exact .failed ht hs
    | ok value =>
      rw [ht, hs] at he
      rw [collect, Check.bind_of_ok he]
      cases hv : Snapshot.ofAnswer value with
      | error f =>
        rw [Check.bind_of_error (Check.ofFault_error f _)]
        exact .unreadable ht hs hv
      | ok s =>
        rw [Check.bind_of_ok (Check.ofFault_ok s _)]
        cases ha : s.address.isWritable with
        | false =>
          rw [Check.bind_of_error (logSnapshot_refused ha _)]
          exact .unplaced ht hs hv ha
        | true =>
          obtain ⟨lines, hl⟩ := logSnapshot_run ha { u.evaluating k with clock := t }
          rw [Check.bind_of_ok hl]
          exact .read lines ht hs hv ha

theorem each_collect_executes (pages : List Nat) (u : World τ) :
    match Check.each collect pages u with
    | (.ok snapshots, v) => Sampled u pages snapshots v
    | (.error h, v) => ∃ reached, Unsampled u pages reached h v := by
  induction pages generalizing u with
  | nil => exact .nil u
  | cons k pages ih =>
    have hk := collect_executes k u
    rw [Check.each]
    rcases hc : collect k u with ⟨h | s, v⟩
    · rw [hc] at hk
      rw [Check.bind_of_error hc]
      exact ⟨[k], .here pages hk⟩
    · rw [hc] at hk
      rw [Check.bind_of_ok hc]
      have hr := ih v
      rcases he : Check.each collect pages v with ⟨h | rest, w⟩
      · rw [he] at hr
        obtain ⟨reached, hu⟩ := hr
        rw [Check.bind_of_error he]
        exact ⟨k :: reached, .later hk hu⟩
      · rw [he] at hr
        rw [Check.bind_of_ok he]
        exact .cons hk hr

theorem wait_executes (k : Nat) (ms : Int) (u : World τ) :
    match Check.wait k (some ms) u with
    | (.ok _, v) => Waits u k ms v
    | (.error h, v) => Hinders u k ms h v := by
  rw [Check.wait_run]
  cases hw : (u.page k).script.wait (u.page k).waited with
  | interrupted => exact .interrupted hw
  | fails message => exact .failed hw
  | passes =>
    by_cases hl : (u.page k).waitsLeft = 0
    · simp only [if_pos hl]
      exact .exhausted hw hl
    · simp only [if_neg hl]
      cases ht : (u.page k).script.waited (u.page k).waited ms u.clock with
      | error f => exact .untimed hw hl ht
      | ok t => exact .passed hw hl ht

theorem Gives.readable {u v : World τ} {k : Nat} {s : Snapshot} (h : Gives u k s v) :
    s.Readable := by
  obtain ⟨lines, -, -, hs, -⟩ := h
  exact Snapshot.readable_of_ofJson hs

theorem Sampled.length {u v : World τ} {pages : List Nat} {snapshots : List Snapshot}
    (h : Sampled u pages snapshots v) : snapshots.length = pages.length := by
  induction h with
  | nil u => rfl
  | cons _ _ ih => rw [List.length_cons, List.length_cons, ih]

theorem Sampled.readable {u v : World τ} {pages : List Nat} {snapshots : List Snapshot}
    (h : Sampled u pages snapshots v) : ∀ s ∈ snapshots, s.Readable := by
  induction h with
  | nil u => exact fun s hs => absurd hs List.not_mem_nil
  | cons hg _ ih => exact List.forall_mem_cons.mpr ⟨hg.readable, ih⟩

theorem gives_of_collect {u v : World τ} {k : Nat} {s : Snapshot}
    (h : collect k u = (.ok s, v)) : Gives u k s v := by
  have hx := collect_executes k u
  rwa [h] at hx

theorem sampled_of_each {u v : World τ} {pages : List Nat} {snapshots : List Snapshot}
    (h : Check.each collect pages u = (.ok snapshots, v)) : Sampled u pages snapshots v := by
  have hx := each_collect_executes pages u
  rwa [h] at hx

theorem Gives.calls {u v : World τ} {k : Nat} {s : Snapshot} (h : Gives u k s v) :
    v.calls = u.calls ++ [.evaluate k] := by
  obtain ⟨lines, -, -, -, -⟩ := h
  rfl

theorem Refuses.calls {u v : World τ} {k : Nat} {h : Halt} (hr : Refuses u k h v) :
    v.calls = u.calls ++ [.evaluate k] := by
  cases hr <;> rfl

theorem Waits.calls {u v : World τ} {k : Nat} {ms : Int} (h : Waits u k ms v) :
    v.calls = u.calls ++ [.wait k (some ms)] := by
  cases h
  rfl

theorem Hinders.calls {u v : World τ} {k : Nat} {ms : Int} {h : Halt} (hh : Hinders u k ms h v) :
    v.calls = u.calls ++ [.wait k (some ms)] := by
  cases hh <;> rfl

theorem Sampled.calls {u v : World τ} {pages : List Nat} {snapshots : List Snapshot}
    (h : Sampled u pages snapshots v) : v.calls = u.calls ++ pages.map Call.evaluate := by
  induction h with
  | nil u => simp
  | cons hg _ ih => simp [ih, hg.calls]

theorem Unsampled.calls {u v : World τ} {pages reached : List Nat} {h : Halt}
    (hu : Unsampled u pages reached h v) : v.calls = u.calls ++ reached.map Call.evaluate := by
  induction hu with
  | here pages hr => exact hr.calls
  | later hg _ ih => simp [ih, hg.calls]

theorem Sampled.waitsLeft {u v : World τ} {pages : List Nat} {snapshots : List Snapshot}
    (h : Sampled u pages snapshots v) (j : Nat) :
    (v.page j).waitsLeft = (u.page j).waitsLeft := by
  induction h with
  | nil u => rfl
  | @cons u _ _ k _ _ _ hg _ ih =>
    obtain ⟨lines, -, -, -, -⟩ := hg
    exact ih.trans (World.waitsLeft_evaluating u k j)

theorem Sampled.length_pages {u v : World τ} {pages : List Nat} {snapshots : List Snapshot}
    (h : Sampled u pages snapshots v) : v.pages.length = u.pages.length := by
  induction h with
  | nil u => rfl
  | cons hg _ ih =>
    obtain ⟨lines, -, -, -, -⟩ := hg
    simpa [World.evaluating] using ih

theorem Gives.script {u v : World τ} {k : Nat} {s : Snapshot} (h : Gives u k s v) (j : Nat) :
    (v.page j).script = (u.page j).script := by
  obtain ⟨lines, -, -, -, -⟩ := h
  exact World.script_evaluating u k j

theorem Sampled.script {u v : World τ} {pages : List Nat} {snapshots : List Snapshot}
    (h : Sampled u pages snapshots v) (j : Nat) : (v.page j).script = (u.page j).script := by
  induction h with
  | nil u => rfl
  | cons hg _ ih => exact ih.trans (hg.script j)

theorem Waits.script {u v : World τ} {k : Nat} {ms : Int} (h : Waits u k ms v) (j : Nat) :
    (v.page j).script = (u.page j).script := by
  cases h
  exact World.script_waiting u k (some ms) j

theorem Waits.waitsLeft {u v : World τ} {k : Nat} {ms : Int} (h : Waits u k ms v)
    (hk : k < u.pages.length) : (v.page k).waitsLeft + 1 = (u.page k).waitsLeft := by
  obtain ⟨-, hl, -⟩ := h
  have he := World.waitsLeft_waiting u (some ms) hk
  change ((u.waiting k (some ms)).page k).waitsLeft + 1 = _
  omega

theorem Waits.length_pages {u v : World τ} {k : Nat} {ms : Int} (h : Waits u k ms v) :
    v.pages.length = u.pages.length := by
  cases h
  simp [World.waiting]

end StreamWatch.Session
