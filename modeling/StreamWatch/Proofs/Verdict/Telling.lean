import StreamWatch.Proofs.Sample.RoundTrip
import StreamWatch.Verdict.Basic

/-! Which failures have a text. A comparison shows its two numbers, and a number beyond the digit
limit cannot be shown; one such number among the failures of a verdict leaves all of them untold. -/
namespace StreamWatch.Verdict

def Failure.numbers : Failure → List Int
  | fewBytes found floor => [found, floor]
  | fewAudioBytes found floor => [found, floor]
  | _ => []

/-- All failures have a text: no number in them is beyond the digit limit. -/
def Tellable (settings : Poll.Settings) (v : Verdict) : Prop :=
  ∀ f ∈ v.failures settings, ∀ n ∈ f.numbers, Numeral.Integer.isWritable n = true

theorem tellable_of_nil {settings : Poll.Settings} {v : Verdict} (h : v.failures settings = []) :
    v.Tellable settings := by
  intro f hf
  rw [h] at hf
  exact absurd hf List.not_mem_nil

theorem comparison_of_writable {found floor : Int}
    (h : ∀ n ∈ [found, floor], Numeral.Integer.isWritable n = true) :
    ∃ text, comparison found floor = .ok text := by
  have hfound : Numeral.shown found = .ok _ := if_pos (h found (by simp))
  have hfloor : Numeral.shown floor = .ok _ := if_pos (h floor (by simp))
  rw [comparison, hfound, hfloor]
  exact ⟨_, rfl⟩

theorem comparison_of_not_writable {found floor : Int}
    (h : ¬∀ n ∈ [found, floor], Numeral.Integer.isWritable n = true) :
    comparison found floor = .error .unwritableNumber := by
  by_cases hfound : Numeral.Integer.isWritable found = true
  · have hfloor : Numeral.Integer.isWritable floor ≠ true := fun hf => h (by simp [hfound, hf])
    have hshown : Numeral.shown found = .ok _ := if_pos hfound
    have hnone : Numeral.shown floor = .error .unwritableNumber := if_neg hfloor
    rw [comparison, hshown, hnone]
    rfl
  · have hnone : Numeral.shown found = .error .unwritableNumber := if_neg hfound
    rw [comparison, hnone]
    rfl

theorem Failure.message_of_writable {f : Failure}
    (h : ∀ n ∈ f.numbers, Numeral.Integer.isWritable n = true) : ∃ text, f.message = .ok text := by
  cases f with
  | fewBytes found floor =>
    obtain ⟨text, ht⟩ := comparison_of_writable h
    rw [Failure.message, ht]
    exact ⟨_, rfl⟩
  | fewAudioBytes found floor =>
    obtain ⟨text, ht⟩ := comparison_of_writable h
    rw [Failure.message, ht]
    exact ⟨_, rfl⟩
  | _ => exact ⟨_, rfl⟩

theorem Failure.message_of_not_writable {f : Failure}
    (h : ¬∀ n ∈ f.numbers, Numeral.Integer.isWritable n = true) :
    f.message = .error .unwritableNumber := by
  cases f with
  | fewBytes found floor =>
    rw [Failure.message, comparison_of_not_writable h]
    rfl
  | fewAudioBytes found floor =>
    rw [Failure.message, comparison_of_not_writable h]
    rfl
  | _ => exact absurd (fun n hn => absurd hn List.not_mem_nil) h

theorem texts_of_writable {failures : List Failure}
    (h : ∀ f ∈ failures, ∀ n ∈ f.numbers, Numeral.Integer.isWritable n = true) :
    ∃ texts, failures.mapM Failure.message = .ok texts :=
  Sample.exists_mapM_ok fun f hf => Failure.message_of_writable (h f hf)

theorem fault_of_not_writable {failures : List Failure}
    (h : ¬∀ f ∈ failures, ∀ n ∈ f.numbers, Numeral.Integer.isWritable n = true) :
    failures.mapM Failure.message = .error .unwritableNumber := by
  induction failures with
  | nil => exact absurd (fun f hf => absurd hf List.not_mem_nil) h
  | cons f rest ih =>
    rw [List.mapM_cons]
    by_cases hf : ∀ n ∈ f.numbers, Numeral.Integer.isWritable n = true
    · obtain ⟨text, htext⟩ := Failure.message_of_writable hf
      have hrest := ih fun hall => h (List.forall_mem_cons.mpr ⟨hf, hall⟩)
      rw [htext, Sample.ok_bind, hrest]
      rfl
    · rw [Failure.message_of_not_writable hf]
      rfl

end StreamWatch.Verdict
