import Mathlib.Algebra.Order.Ring.Rat
import Mathlib.Data.List.Nodup
import Mathlib.Tactic.Linarith
import StreamWatch.Proofs.Verdict.Rereading

/-! What the comparison of two snapshots decides. A video is compared with the last earlier one of
its index. Where the earlier indices are distinct, neither the order of the videos nor those that
occur on one side only matter; and as long as times are added exactly, nothing that stands still
counts as playing. -/
namespace StreamWatch

open Sample (Snapshot Video)

namespace Playback

def LastOf {α : Type} (key : α → Int) (x : α) (xs : List α) : Prop :=
  ∃ pre post, xs = pre ++ x :: post ∧ ∀ y ∈ post, key y ≠ key x

theorem LastOf.mem {α : Type} {key : α → Int} {x : α} {xs : List α} (h : LastOf key x xs) :
    x ∈ xs := by
  obtain ⟨pre, post, rfl, -⟩ := h
  simp

theorem lastOf_map_iff {α β : Type} {key : β → Int} {f : α → β} {y : β} {xs : List α} :
    LastOf key y (xs.map f) ↔ ∃ x, LastOf (fun x => key (f x)) x xs ∧ f x = y := by
  constructor
  · rintro ⟨pre, post, split, others⟩
    obtain ⟨older, newer, rfl, -, split⟩ := List.map_eq_append_iff.mp split
    obtain ⟨x, newer, rfl, rfl, rfl⟩ := List.map_eq_cons_iff.mp split
    exact ⟨x, ⟨older, newer, rfl, fun u hu => others _ (List.mem_map_of_mem hu)⟩, rfl⟩
  · rintro ⟨x, ⟨older, newer, rfl, others⟩, rfl⟩
    exact ⟨older.map f, newer.map f, by simp, by simpa using others⟩

variable {ρ : Type}

theorem lastTime?_eq_none_iff {index : Int} {times : List (Int × ρ)} :
    lastTime? index times = none ↔ index ∉ times.map Prod.fst := by
  simp only [lastTime?, Option.map_eq_none_iff, List.find?_eq_none, List.mem_reverse, List.mem_map,
    beq_iff_eq, not_exists, not_and]

theorem lastTime?_eq_some_iff {index : Int} {time : ρ} {times : List (Int × ρ)} :
    lastTime? index times = some time ↔ LastOf Prod.fst (index, time) times := by
  simp only [lastTime?, Option.map_eq_some_iff, List.find?_eq_some_iff_append, beq_iff_eq,
    Bool.not_eq_true', beq_eq_false_iff_ne]
  constructor
  · rintro ⟨⟨i, t⟩, ⟨rfl, newer, older, split, others⟩, rfl⟩
    refine ⟨older.reverse, newer.reverse, ?_, by simpa using others⟩
    simpa using congrArg List.reverse split
  · rintro ⟨pre, post, rfl, others⟩
    exact ⟨(index, time), ⟨rfl, post.reverse, pre.reverse, by simp, by simpa using others⟩, rfl⟩

theorem lastTime?_congr {index : Int} {xs ys : List (Int × ρ)}
    (same : ∀ t, (index, t) ∈ xs ↔ (index, t) ∈ ys)
    (one : ∀ t u, (index, t) ∈ ys → (index, u) ∈ ys → t = u) :
    lastTime? index xs = lastTime? index ys := by
  cases hx : lastTime? index xs with
  | none =>
    have missing : index ∉ ys.map Prod.fst := by
      simpa [← same] using lastTime?_eq_none_iff.mp hx
    exact (lastTime?_eq_none_iff.mpr missing).symm
  | some t =>
    have ht : (index, t) ∈ ys := (same t).mp (lastTime?_eq_some_iff.mp hx).mem
    cases hy : lastTime? index ys with
    | none => exact absurd (List.mem_map_of_mem ht) (lastTime?_eq_none_iff.mp hy)
    | some u => rw [one t u ht (lastTime?_eq_some_iff.mp hy).mem]

theorem eq_of_mem_of_nodup {times : List (Int × ρ)} (distinct : (times.map Prod.fst).Nodup)
    {index : Int} {t u : ρ} (ht : (index, t) ∈ times) (hu : (index, u) ∈ times) : t = u :=
  congrArg Prod.snd (List.inj_on_of_nodup_map distinct ht hu rfl)

section

variable [Add ρ] [LT ρ] [DecidableLT ρ] {threshold : ρ}

theorem advanced_iff_lastOf {before after : List (Int × ρ)} :
    advanced threshold before after = true ↔
      ∃ p ∈ after, ∃ q, LastOf Prod.fst q before ∧ q.1 = p.1 ∧ q.2 + threshold < p.2 := by
  simp only [advanced_iff, lastTime?_eq_some_iff]
  constructor
  · rintro ⟨p, hp, earlier, last, h⟩
    exact ⟨p, hp, (p.1, earlier), last, rfl, h⟩
  · rintro ⟨⟨_, t⟩, hp, ⟨i, earlier⟩, last, rfl, h⟩
    exact ⟨_, hp, earlier, last, h⟩

theorem not_advanced_of_unmatched {before after : List (Int × ρ)}
    (unmatched : matched before after = false) : advanced threshold before after = false := by
  rw [Bool.eq_false_iff, ne_eq, advanced_iff]
  rintro ⟨p, hp, t, ht, -⟩
  have none := List.any_eq_false.mp unmatched p hp
  simp [ht] at none

theorem advanced_eq_of_perm {before before' after after' moreBefore moreAfter : List (Int × ρ)}
    (distinct : (before.map Prod.fst).Nodup)
    (permBefore : before'.Perm (before ++ moreBefore))
    (permAfter : after'.Perm (after ++ moreAfter))
    (gone : ∀ p ∈ moreBefore, p.1 ∉ after'.map Prod.fst)
    (new : ∀ p ∈ moreAfter, p.1 ∉ before.map Prod.fst) :
    advanced threshold before' after' = advanced threshold before after := by
  have earlier : ∀ p ∈ after', lastTime? p.1 before' = lastTime? p.1 before := by
    intro p hp
    have seen : p.1 ∈ after'.map Prod.fst := List.mem_map_of_mem hp
    apply lastTime?_congr
    · intro t
      have : (p.1, t) ∉ moreBefore := fun h => gone (p.1, t) h seen
      simp [permBefore.mem_iff, this]
    · intro t u
      exact eq_of_mem_of_nodup distinct
  have unmatched : ∀ p ∈ moreAfter, lastTime? p.1 before = none :=
    fun p hp => lastTime?_eq_none_iff.mpr (new p hp)
  rw [Bool.eq_iff_iff, advanced_iff, advanced_iff]
  constructor
  · rintro ⟨p, hp, t, ht, h⟩
    rw [earlier p hp] at ht
    rcases List.mem_append.mp (permAfter.mem_iff.mp hp) with old | added
    · exact ⟨p, old, t, ht, h⟩
    · simp [unmatched p added] at ht
  · rintro ⟨p, hp, t, ht, h⟩
    have hp' : p ∈ after' := permAfter.mem_iff.mpr (List.mem_append_left _ hp)
    exact ⟨p, hp', t, (earlier p hp').trans ht, h⟩

end

theorem not_advanced_of_le {threshold : Rat} (nonneg : 0 ≤ threshold)
    {before after : List (Int × Rat)}
    (still : ∀ p ∈ after, ∀ q, LastOf Prod.fst q before → q.1 = p.1 → p.2 ≤ q.2) :
    advanced threshold before after = false := by
  rw [Bool.eq_false_iff, ne_eq, advanced_iff_lastOf]
  rintro ⟨p, hp, q, last, same, h⟩
  have : p.2 ≤ q.2 := still p hp q last same
  linarith

theorem not_advanced_self {threshold : Rat} (nonneg : 0 ≤ threshold)
    {times : List (Int × Rat)} (distinct : (times.map Prod.fst).Nodup) :
    advanced threshold times times = false := by
  apply not_advanced_of_le nonneg
  rintro ⟨i, t⟩ hp ⟨_, u⟩ last rfl
  exact (eq_of_mem_of_nodup distinct hp last.mem).le

end Playback

namespace Sample.Snapshot

def indices (s : Snapshot) : List Int := s.videos.map Video.index

theorem map_fst_times (s : Snapshot) : s.times.map Prod.fst = s.indices := by
  simp [times, indices, Function.comp_def]

theorem playbackAdvanced_iff {before after : Snapshot} {threshold : Float} :
    before.playbackAdvanced after threshold = true ↔
      ∃ v ∈ after.videos, ∃ w, Playback.LastOf Video.index w before.videos ∧ w.index = v.index ∧
        w.time + threshold < v.time := by
  rw [playbackAdvanced, Playback.advanced_iff_lastOf]
  simp only [times, Playback.lastOf_map_iff, List.mem_map]
  constructor
  · rintro ⟨_, ⟨v, hv, rfl⟩, _, ⟨w, last, rfl⟩, h⟩
    exact ⟨v, hv, w, last, h⟩
  · rintro ⟨v, hv, w, last, h⟩
    exact ⟨_, ⟨v, hv, rfl⟩, _, ⟨w, last, rfl⟩, h⟩

/-- A threshold is only looked at where videos match. Where none do, nothing advanced. -/
theorem playbackAdvancedBy_of_number {before after : Snapshot} {threshold : Float}
    {t : Json.Value} (ht : Playback.thresholdOf t = .ok threshold) :
    before.playbackAdvancedBy after t = .ok (before.playbackAdvanced after threshold) := by
  rw [playbackAdvancedBy, ht]
  split
  · rfl
  · next unmatched =>
    rw [playbackAdvanced, Playback.not_advanced_of_unmatched (Bool.eq_false_iff.mpr unmatched)]

theorem playbackAdvanced_eq_of_perm {before before' after after' : Snapshot} {threshold : Float}
    {moreBefore moreAfter : List Video} (distinct : before.indices.Nodup)
    (permBefore : before'.videos.Perm (before.videos ++ moreBefore))
    (permAfter : after'.videos.Perm (after.videos ++ moreAfter))
    (gone : ∀ v ∈ moreBefore, v.index ∉ after'.indices)
    (new : ∀ v ∈ moreAfter, v.index ∉ before.indices) :
    before'.playbackAdvanced after' threshold = before.playbackAdvanced after threshold := by
  let timed (v : Video) : Int × Float := (v.index, v.time)
  have permBefore : before'.times.Perm (before.times ++ moreBefore.map timed) := by
    simpa only [timed, times, List.map_append] using permBefore.map timed
  have permAfter : after'.times.Perm (after.times ++ moreAfter.map timed) := by
    simpa only [timed, times, List.map_append] using permAfter.map timed
  apply Playback.advanced_eq_of_perm (by rwa [map_fst_times]) permBefore permAfter
  · simpa only [List.forall_mem_map, map_fst_times] using gone
  · simpa only [List.forall_mem_map, map_fst_times] using new

/-- What the comparison decides, by any threshold; which changes of the two snapshots it cannot see
where the earlier indices are distinct; and that, with exact times, playback that never moved
forward did not advance. -/
theorem playbackAdvanced_spec (before after : Snapshot) (threshold : Float) :
    (before.playbackAdvanced after threshold = true ↔
      ∃ v ∈ after.videos, ∃ w, Playback.LastOf Video.index w before.videos ∧ w.index = v.index ∧
        w.time + threshold < v.time) ∧
    (∀ t, Playback.thresholdOf t = .ok threshold →
      before.playbackAdvancedBy after t = .ok (before.playbackAdvanced after threshold)) ∧
    (before.indices.Nodup → ∀ (before' after' : Snapshot) (moreBefore moreAfter : List Video),
      before'.videos.Perm (before.videos ++ moreBefore) →
      after'.videos.Perm (after.videos ++ moreAfter) →
      (∀ v ∈ moreBefore, v.index ∉ after'.indices) →
      (∀ v ∈ moreAfter, v.index ∉ before.indices) →
      before'.playbackAdvanced after' threshold = before.playbackAdvanced after threshold) ∧
    ∀ (margin : Rat) (earlier later : List (Int × Rat)), 0 ≤ margin →
      ((∀ p ∈ later, ∀ q, Playback.LastOf Prod.fst q earlier → q.1 = p.1 → p.2 ≤ q.2) →
        Playback.advanced margin earlier later = false) ∧
      ((earlier.map Prod.fst).Nodup → Playback.advanced margin earlier earlier = false) := by
  refine ⟨playbackAdvanced_iff, ?_, ?_, ?_⟩
  · intro t ht
    exact playbackAdvancedBy_of_number ht
  · intro distinct before' after' moreBefore moreAfter permBefore permAfter gone new
    exact playbackAdvanced_eq_of_perm distinct permBefore permAfter gone new
  · intro margin earlier later nonneg
    exact ⟨Playback.not_advanced_of_le nonneg, Playback.not_advanced_self nonneg⟩

theorem playbackAdvanced_spec_swapped :
    let video (i : Int) (t : Float) : Video := { index := i, time := t }
    let page (videos : List Video) : Snapshot := { timestamp := 0, address := .null, videos }
    let before := page [video 0 1.0, video 1 2.0]
    let after := page [video 0 1.0, video 1 2.5]
    let before' := page [video 1 2.0, video 7 0.0, video 0 1.0]
    let after' := page [video 1 2.5, video 9 50.0, video 0 1.0]
    before.playbackAdvancedBy after (.bool true) = .ok (before.playbackAdvanced after 1.0) ∧
      before'.playbackAdvanced after' 1.0 = before.playbackAdvanced after 1.0 ∧
      Playback.advanced (2 / 5 : Rat) [(0, 1), (1, 2)] [(1, 2), (0, 1 / 2)] = false ∧
      Playback.advanced (2 / 5 : Rat) [(0, 1), (1, 2)] [(0, 1), (1, 2)] = false := by
  intro video page before after before' after'
  obtain ⟨-, byNumber, unseen, still⟩ := playbackAdvanced_spec before after 1.0
  have reordered : before'.playbackAdvanced after' 1.0 = before.playbackAdvanced after 1.0 := by
    apply unseen (by decide) before' after' [video 7 0.0] [video 9 50.0]
    · exact List.perm_append_singleton (video 0 1.0) [video 1 2.0, video 7 0.0]
    · exact List.perm_append_singleton (video 0 1.0) [video 1 2.5, video 9 50.0]
    · decide
    · decide
  have nonneg : (0 : Rat) ≤ 2 / 5 := by norm_num
  have backwards : ∀ p ∈ [(1, 2), (0, 1 / 2)], ∀ q,
      Playback.LastOf Prod.fst q [(0, 1), (1, (2 : Rat))] → q.1 = p.1 → p.2 ≤ q.2 := by
    intro p hp q last same
    have hq := last.mem
    simp only [List.mem_cons, List.not_mem_nil, or_false] at hp hq
    rcases hp with rfl | rfl <;> rcases hq with rfl | rfl
    all_goals first | exact absurd same (by decide) | norm_num
  have distinct : (([(0, 1), (1, 2)] : List (Int × Rat)).map Prod.fst).Nodup := by decide
  exact ⟨byNumber _ rfl, reordered, (still _ _ _ nonneg).1 backwards,
    (still _ _ [] nonneg).2 distinct⟩

end Sample.Snapshot
end StreamWatch
