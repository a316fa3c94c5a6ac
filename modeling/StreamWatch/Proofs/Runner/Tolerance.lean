import StreamWatch.Proofs.Poll.Rounds
import StreamWatch.Proofs.Runner.Isolation
import StreamWatch.Proofs.Sample.Tolerance

/-! What pages show does not stop a check. Samples of a shape that can be read, without infinite
counters or times that are none, cost neither a poll nor a check of several links its end: what is
left are the browser, the clock and the links themselves. -/
namespace StreamWatch

open Browser (Call Check Ends PageScript Timeline World)
open Json (Value)
open Sample (Snapshot)
open Session (Gives Hinders Refuses Sampled Unsampled Waits)

variable {τ : Type}

structure Sample.Harmless (value : Value) : Prop where
  shaped : ∃ fields videos peers, value.orElse (.record []) = .record fields ∧
    Snapshot.Shaped fields videos peers ∧ ¬Snapshot.Spoiled fields videos peers
  writable : ∀ s, Snapshot.ofAnswer value = .ok s → s.toJson.isWritable = true
  told : ∀ s, Snapshot.ofAnswer value = .ok s →
    Numeral.Integer.isWritable s.inboundBytes = true

theorem Sample.Harmless.readable {value : Value} (h : Sample.Harmless value) :
    ∃ s, Snapshot.ofAnswer value = .ok s := by
  obtain ⟨fields, videos, peers, record, shaped, sound⟩ := h.shaped
  obtain ⟨s, hs⟩ := shaped.reading.exists_ok_iff.mpr sound
  exact ⟨s, by rw [Snapshot.ofAnswer, record, shaped.reading.ok_iff.mpr hs]⟩

def Browser.PageScript.Harmless (script : PageScript τ) : Prop :=
  ∀ n value, script.sample n = .ok value → Sample.Harmless value

namespace Poll

def Harmless (u : World τ) (pages : List Nat) : Prop :=
  ∀ k ∈ pages, (u.page k).script.Harmless

section

variable {u v : World τ} {pages : List Nat} {k : Nat}

theorem Harmless.of_script (h : Harmless u pages)
    (hs : ∀ k, (v.page k).script = (u.page k).script) : Harmless v pages := by
  intro k hk
  rw [hs k]
  exact h k hk

theorem Harmless.told_of_sampled {snapshots : List Snapshot} (h : Harmless u pages)
    (hs : Sampled u pages snapshots v) :
    ∀ s ∈ snapshots, Numeral.Integer.isWritable s.inboundBytes = true := by
  induction hs with
  | nil u => simp
  | cons hg _ ih =>
    have later := ih (Harmless.of_script (fun j hj => h j (List.mem_cons_of_mem _ hj)) hg.script)
    obtain ⟨lines, -, hsample, hread⟩ := hg
    exact List.forall_mem_cons.mpr ⟨(h _ (by simp) _ _ hsample).told _ hread, later⟩

end

variable [Timeline τ]

/-- A fault of the clock, or of a limit that has no value or cannot be shown. -/
inductive Outside (limits : Limits) (u : World τ) (pages : List Nat) : Fault → Prop
  | sampled {k n : Nat} {t : τ} {f : Fault} (hk : k ∈ pages)
      (h : (u.page k).script.sampled n t = .error f) : Outside limits u pages f
  | waited {k n : Nat} {ms : Int} {t : τ} {f : Fault} (hk : k ∈ pages)
      (h : (u.page k).script.waited n ms t = .error f) : Outside limits u pages f
  | whole {span : τ} {f : Fault} (h : Timeline.whole span = .error f) : Outside limits u pages f
  | left {ms : Int} {span : τ} {f : Fault} (h : Timeline.left ms span = .error f) :
      Outside limits u pages f
  | noTimeout (h : limits.timeoutMs = none) : Outside limits u pages .wrongKind
  | overlong {ms : Int} (h : limits.timeoutMs = some ms)
      (hw : Numeral.Integer.isWritable ms = false) : Outside limits u pages .unwritableNumber
  | noInterval {attempt : Nat} (h : limits.intervalMs attempt = none) :
      Outside limits u pages .wrongKind

section

variable {limits : Limits} {settings : Settings} {label : String} {started : τ} {attempt : Nat}
  {u v : World τ} {first k : Nat} {more pages : List Nat} {snapshots : List Snapshot} {f : Fault}

theorem Outside.widen {more : List Nat} (h : Outside limits v pages f)
    (hs : ∀ k, (v.page k).script = (u.page k).script) (hsub : pages ⊆ more) :
    Outside limits u more f := by
  cases h with
  | sampled hk h => exact .sampled (hsub hk) (hs _ ▸ h)
  | waited hk h => exact .waited (hsub hk) (hs _ ▸ h)
  | whole h => exact .whole h
  | left h => exact .left h
  | noTimeout h => exact .noTimeout h
  | overlong h hw => exact .overlong h hw
  | noInterval h => exact .noInterval h

theorem outside_of_refuses (h : Harmless u pages) (hk : k ∈ pages)
    (hr : Refuses u k (.fault f) v) : Outside limits u pages f := by
  cases hr with
  | untimed ht => exact .sampled hk ht
  | unreadable _ hsample hread =>
    obtain ⟨s, hs⟩ := (h k hk _ _ hsample).readable
    cases hs.symm.trans hread
  | unplaced _ hsample hread hplace =>
    have hshown := Sample.Snapshot.isWritable_address ((h k hk _ _ hsample).writable _ hread)
    cases hplace.symm.trans hshown

theorem outside_of_unsampled {reached : List Nat} (h : Harmless u pages)
    (hu : Unsampled u pages reached (.fault f) v) : Outside limits u pages f := by
  generalize hhalt : Halt.fault f = halt at hu
  induction hu with
  | here pages hr =>
    subst hhalt
    exact outside_of_refuses h (by simp) hr
  | later hg _ ih =>
    have later : Harmless _ _ := fun j hj => h j (List.mem_cons_of_mem _ hj)
    exact (ih (later.of_script hg.script) hhalt).widen hg.script (List.subset_cons_self _ _)

theorem outside_of_hinders {ms : Int} (hk : k ∈ pages) (hh : Hinders u k ms (.fault f) v) :
    Outside limits u pages f := by
  cases hh with
  | untimed _ _ ht => exact .waited hk ht

theorem shown_of_told (h : ∀ s ∈ snapshots, Numeral.Integer.isWritable s.inboundBytes = true) :
    ∃ lacks, snapshots.mapM shortfall = .ok lacks := by
  apply Sample.exists_mapM_ok
  intro s hs
  have shown : Numeral.shown s.inboundBytes = .ok _ := if_pos (h s hs)
  rw [shortfall, shown]
  exact ⟨_, rfl⟩

theorem outside_of_unclear {now : τ}
    (h : ∀ s ∈ snapshots, Numeral.Integer.isWritable s.inboundBytes = true)
    (hu : Unclear limits settings started attempt snapshots now f) : Outside limits u pages f := by
  cases hu with
  | span _ ht => exact .whole ht
  | lacks _ hm =>
    obtain ⟨lacks, hl⟩ := shown_of_told h
    cases hl.symm.trans hm
  | noTimeout _ hT => exact .noTimeout hT
  | limit _ hT _ hw => exact .overlong hT hw
  | left _ _ _ hl => exact .left hl
  | noInterval _ _ _ _ hi => exact .noInterval hi

theorem LastRound.outside {calls : List Call} (h : Harmless u (first :: more))
    (hlast : LastRound limits settings label first more started attempt u (.error (.fault f))
      calls v) : Outside limits u (first :: more) f := by
  cases hlast with
  | unsampled hu => exact outside_of_unsampled h hu
  | unwaited lines hs _ hh =>
    exact (outside_of_hinders (by simp) hh).widen hs.script (List.Subset.refl _)
  | unclear lines hs hu => exact outside_of_unclear (h.told_of_sampled hs) hu

theorem UnreadyRounds.script {waits : List Int}
    (h : UnreadyRounds limits settings first more started attempt u waits v) (j : Nat) :
    (v.page j).script = (u.page j).script := by
  induction h with
  | nil attempt u => rfl
  | cons hr _ ih =>
    obtain ⟨lines, hs, -, hw⟩ := hr
    exact ih.trans ((hw.script j).trans (hs.script j))

theorem outside_of_untilLiveWithin {w : World τ} (isOpen : first < w.pages.length)
    (h : Harmless w (first :: more))
    (hf : (untilLiveWithin limits settings label (first :: more) w).1 = .error (.fault f)) :
    Outside limits w (first :: more) f := by
  obtain ⟨waits, u, calls, hrs, hlast⟩ := rounds_executes limits settings label first more w.clock
    (w.page first).waitsLeft 0 w isOpen rfl
  have hrun : untilLiveWithin limits settings label (first :: more) w =
      rounds settings limits label (first :: more) w.clock (w.page first).waitsLeft 0 w := rfl
  rw [← hrun, hf] at hlast
  exact (hlast.outside (h.of_script hrs.script)).widen hrs.script (List.Subset.refl _)

end

end Poll

namespace Browser

structure PageScript.Timely (script : PageScript τ) : Prop where
  sampled : ∀ n t, ∃ t', script.sampled n t = .ok t'
  waited : ∀ n ms t, ∃ t', script.waited n ms t = .ok t'
  uninterrupted : ∀ n, script.wait n ≠ .interrupted
  middle : ∃ point, Session.middle script.viewport = .ok point

theorem PageScript.Timely.orderly {script : PageScript τ} (ht : script.Timely)
    (hh : script.Harmless) : script.Orderly where
  sampled := ht.sampled
  waited := ht.waited
  uninterrupted := ht.uninterrupted
  middle := ht.middle
  sample n value hv := by
    have harmless := hh n value hv
    obtain ⟨s, hs⟩ := harmless.readable
    exact ⟨s, hs, harmless.writable s hs⟩

theorem PageScript.Orderly.timely {script : PageScript τ} (h : script.Orderly) : script.Timely :=
  ⟨h.sampled, h.waited, h.uninterrupted, h.middle⟩

structure World.Each (P : PageScript τ → Prop) (w : World τ) : Prop where
  pages : ∀ k, P (w.page k).script
  upcoming : ∀ s ∈ w.upcoming, P s
  blank : P w.blank

theorem World.Orderly.timely {w : World τ} (h : w.Orderly) : w.Each PageScript.Timely :=
  ⟨fun k => (h.pages k).timely, fun s hs => (h.upcoming s hs).timely, h.blank.timely⟩

theorem World.orderly_of_each {w : World τ} (timely : w.Each PageScript.Timely)
    (harmless : w.Each PageScript.Harmless) (openings : w.openings = {}) : w.Orderly where
  pages k := (timely.pages k).orderly (harmless.pages k)
  upcoming s hs := (timely.upcoming s hs).orderly (harmless.upcoming s hs)
  blank := timely.blank.orderly harmless.blank
  openings := openings

end Browser

namespace Runner.Matrix

variable {o : Options} {w : World τ} {directory report : String} {waitMs gapMs : Int}

theorem unsplit_of_halted {halt : Halt} (hp : Prepared o w directory report waitMs gapMs)
    (hh : (run o w).1 = .error halt) : ∃ link ∈ o.links, ¬Splits link := by
  obtain ⟨hfiles, hend⟩ := gather_ends hp
  rw [run, if_neg hp.links] at hh
  rcases hg : gather o o.links w with ⟨h | findings, u⟩
  · rw [hg] at hend
    exact hend.1
  · rw [hg] at hfiles hend
    obtain ⟨⟨-, hlinks, hwritable⟩, hhost⟩ := hend
    have hlength : findings.results.length = o.links.length := by rw [← hlinks, List.length_map]
    have hpayload : findings.toJson.isWritable = true :=
      Findings.isWritable_toJson hwritable (hlength ▸ hp.count) (hhost ▸ hp.host)
    have haccepts : u.files.Accepts (.ofText report) := hfiles ▸ hp.accepts
    obtain ⟨v, hwrite, -⟩ := Report.write_of_accepts true hpayload haccepts
    rw [Check.bind_of_ok hg, hp.output, Check.bind_of_ok (Check.given_some report u),
      Check.bind_of_ok hwrite] at hh
    cases hh

end Runner.Matrix

namespace Runner

open Sample.Snapshot (ReadFrom Shaped Spoiled ofJson)

/-- How far the contents of a page are tolerated. One sample: what is read of it, and that only an
infinite counter, a time that is none or an error without a text makes it a fault. Polls and checks
of several links: without those, and without sums beyond the digit limit, no fault comes from what
pages show. -/
theorem contents_tolerated [Timeline τ] :
    (∀ fields videos peers, Shaped fields videos peers →
      (∀ s, ofJson (.record fields) = .ok s ↔ ReadFrom fields videos peers s) ∧
      ((∃ f, ofJson (.record fields) = .error f) ↔ Spoiled fields videos peers) ∧
      (¬Spoiled fields videos peers → ∃ s, ofJson (.record fields) = .ok s ∧
        s.videos.length = videos.length ∧ s.peers.length = peers.length)) ∧
    (∀ (w : World τ) (limits : Poll.Limits) (settings : Poll.Settings) (label : String)
      (first : Nat) (more : List Nat) (f : Fault), first < w.pages.length →
      Poll.Harmless w (first :: more) →
      (Poll.untilLiveWithin limits settings label (first :: more) w).1 = .error (.fault f) →
      Poll.Outside limits w (first :: more) f) ∧
    ∀ (w : World τ) (o : Matrix.Options) (directory report : String) (waitMs gapMs : Int)
      (halt : Halt), w.openings = {} → w.Each PageScript.Timely → w.Each PageScript.Harmless →
      (w.Orderly → Matrix.Prepared o w directory report waitMs gapMs) →
      (Matrix.run o w).1 = .error halt → ∃ link ∈ o.links, ¬Matrix.Splits link := by
  refine ⟨?_, ?_, ?_⟩
  · intro fields videos peers shaped
    refine ⟨fun s => shaped.reading.ok_iff, shaped.reading.error_iff, fun sound => ?_⟩
    obtain ⟨s, hs⟩ := shaped.reading.exists_ok_iff.mpr sound
    refine ⟨s, shaped.reading.ok_iff.mpr hs, ?_, hs.peers.length_eq.symm⟩
    simpa using hs.videos.length_eq.symm
  · intro w limits settings label first more f isOpen harmless hf
    exact Poll.outside_of_untilLiveWithin isOpen harmless hf
  · intro w o directory report waitMs gapMs halt openings timely harmless prepared hh
    exact Matrix.unsplit_of_halted (prepared (World.orderly_of_each timely harmless openings)) hh

theorem harmless_null : Sample.Harmless .null where
  shaped := ⟨[], [], [], rfl, ⟨.inr ⟨rfl, .missing⟩, .missing⟩, by
    rintro (h | ⟨v, hv, -⟩ | ⟨p, hp, -⟩)
    · cases h
    · cases hv
    · cases hp⟩
  writable := by
    rintro _ ⟨⟩
    decide +kernel
  told := by
    rintro _ ⟨⟩
    decide +kernel

theorem harmless_ofPlan {plan : PageScript.Plan} (h : plan.samples = []) :
    (PageScript.ofPlan plan : PageScript Rat).Harmless := by
  intro n value hv
  have none : PageScript.sampleOf plan.samples n = .ok .null := by rw [h]; rfl
  obtain rfl := Except.ok.inj (none.symm.trans hv)
  exact harmless_null

def endlessPage : World Rat :=
  { World.start (0 : Rat) [] with
    blank := { PageScript.ofPlan {} with sampled := fun _ _ => .error .tooLarge } }.addPage

theorem contents_tolerated_blankPages :
    let video : List (String × Value) := [("videoWidth", .text "wide"), ("readyState", .null)]
    (∃ s, ofJson (.record [("videos", .list [.record video])]) = .ok s ∧
      s.videos.length = 1 ∧ s.peers.length = 0) ∧
    Poll.Outside (Poll.Settings.limits {}) endlessPage [0] .tooLarge ∧
    ∀ halt, (Matrix.run { links := Matrix.splitPair } Matrix.refusedThenBlank).1 = .error halt →
      ∃ link ∈ Matrix.splitPair, ¬Matrix.Splits link := by
  intro video
  obtain ⟨sample, poll, links⟩ := contents_tolerated (τ := Rat)
  have shaped : Shaped [("videos", .list [.record video])] [video] [] := ⟨.inl rfl, .missing⟩
  have sound : ¬Spoiled [("videos", .list [.record video])] [video] [] := by
    rw [← (sample _ _ _ shaped).2.1]
    rintro ⟨f, hf⟩
    cases hf
  have endless : Poll.Harmless endlessPage [0] := by
    intro k hk n value hv
    obtain rfl := List.mem_singleton.mp hk
    exact @harmless_ofPlan {} rfl n value hv
  have prepared :=
    @Matrix.prepared_refusedThenBlank Matrix.splitPair (by decide) (by decide +kernel)
  have harmless : Matrix.refusedThenBlank.Each PageScript.Harmless := by
    refine ⟨fun _ => @harmless_ofPlan {} rfl, fun s hs => ?_, @harmless_ofPlan {} rfl⟩
    obtain ⟨plan, hplan, rfl⟩ := List.mem_map.mp hs
    simp only [List.mem_cons, List.not_mem_nil, or_false] at hplan
    rcases hplan with rfl | rfl
    · exact harmless_ofPlan rfl
    · exact harmless_ofPlan rfl
  have halted : (Poll.untilLiveWithin (Poll.Settings.limits {}) {} "viewer" [0] endlessPage).1 =
      .error (.fault .tooLarge) := rfl
  exact ⟨(sample _ _ _ shaped).2.2 sound, poll _ _ _ _ _ _ _ (by decide) endless halted,
    fun halt => links _ _ _ _ _ _ halt prepared.pages.openings prepared.pages.timely harmless
      fun _ => prepared⟩

/-- An infinite counter, or a time that is no number, leaves nothing of a sample. -/
theorem contents_not_tolerated :
    ofJson (.record [("videos", .list [.record
      [("videoWidth", .float Numeral.Decimal.infinity)]])]) = .error .tooLarge ∧
    ofJson (.record [("videos", .list [.record [("currentTime", .text "soon")]])]) =
      .error (.notADecimal "soon") :=
  ⟨rfl, rfl⟩

end Runner
end StreamWatch
