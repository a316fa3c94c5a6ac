import Mathlib.Data.List.TakeWhile
import StreamWatch.Text.Classes

/-! What trimming leaves of a text: a part with blanks before and behind it that neither begins nor
ends with one. There is only one such part, so what stands in the margins does not matter. -/
namespace StreamWatch.Text

variable {p : Char → Bool} {s core left right : List Char}

theorem trimOf_map (p : Char → Bool) (f : Char → Char) (s : List Char) :
    trimOf p (s.map f) = (trimOf (p ∘ f) s).map f := by
  simp [trimOf, dropEndWhile, List.dropWhile_map, ← List.map_reverse, Function.comp_def]

theorem exists_dropEndWhile (p : Char → Bool) (s : List Char) :
    ∃ right, s = dropEndWhile p s ++ right ∧ ∀ c ∈ right, p c = true := by
  refine ⟨(s.reverse.takeWhile p).reverse, ?_, ?_⟩
  · rw [dropEndWhile, ← List.reverse_append, List.takeWhile_append_dropWhile, List.reverse_reverse]
  · intro c hc
    exact List.mem_takeWhile_imp (List.mem_reverse.mp hc)

theorem exists_trimOf (p : Char → Bool) (s : List Char) :
    ∃ left right, s = left ++ trimOf p s ++ right ∧ (∀ c ∈ left, p c = true) ∧
      ∀ c ∈ right, p c = true := by
  obtain ⟨right, hs, hright⟩ := exists_dropEndWhile p (s.dropWhile p)
  refine ⟨s.takeWhile p, right, ?_, fun c hc => List.mem_takeWhile_imp hc, hright⟩
  rw [List.append_assoc, trimOf, ← hs, List.takeWhile_append_dropWhile]

theorem dropEndWhile_append (hright : ∀ c ∈ right, p c = true) (s : List Char) :
    dropEndWhile p (s ++ right) = dropEndWhile p s := by
  have hright' : ∀ c ∈ right.reverse, p c = true := by simpa using hright
  rw [dropEndWhile, List.reverse_append, List.dropWhile_append_of_pos hright', dropEndWhile]

theorem trimOf_append (hleft : ∀ c ∈ left, p c = true) (hright : ∀ c ∈ right, p c = true)
    (s : List Char) : trimOf p (left ++ s ++ right) = trimOf p s := by
  rw [trimOf, List.append_assoc, List.dropWhile_append_of_pos hleft, List.dropWhile_append, trimOf]
  split
  · next none =>
    have hright' : right.dropWhile p = [] := by simpa using hright
    rw [hright', List.isEmpty_iff.mp none]
  · exact dropEndWhile_append hright _

structure Trimmed (p : Char → Bool) (s core : List Char) : Prop where
  margins : ∃ left right, s = left ++ core ++ right ∧ (∀ c ∈ left, p c = true) ∧
    ∀ c ∈ right, p c = true
  first : ∀ c ∈ core.head?, p c = false
  last : ∀ c ∈ core.getLast?, p c = false

theorem dropWhile_of_first (h : ∀ c ∈ s.head?, p c = false) : s.dropWhile p = s := by
  cases s with
  | nil => rfl
  | cons c r => exact List.dropWhile_cons_of_neg (by simp [h c rfl])

theorem first_dropWhile (p : Char → Bool) (s : List Char) :
    ∀ c ∈ (s.dropWhile p).head?, p c = false := by
  intro c hc
  have := List.head?_dropWhile_not p s
  rw [hc] at this
  exact this

theorem trimOf_of_ends (first : ∀ c ∈ s.head?, p c = false)
    (last : ∀ c ∈ s.getLast?, p c = false) : trimOf p s = s := by
  have last' : ∀ c ∈ s.reverse.head?, p c = false := by rwa [List.head?_reverse]
  rw [trimOf, dropWhile_of_first first, dropEndWhile, dropWhile_of_first last', List.reverse_reverse]

theorem trimOf_of_forall (h : ∀ c ∈ s, p c = false) : trimOf p s = s :=
  trimOf_of_ends (fun c hc => h c (List.mem_of_mem_head? hc))
    fun c hc => h c (List.mem_of_getLast? hc)

theorem trimmed_trimOf (p : Char → Bool) (s : List Char) : Trimmed p s (trimOf p s) where
  margins := exists_trimOf p s
  first := by
    intro c hc
    obtain ⟨right, hs, -⟩ := exists_dropEndWhile p (s.dropWhile p)
    refine first_dropWhile p s c ?_
    rw [hs, List.head?_append]
    exact Option.or_eq_some_iff.mpr (.inl hc)
  last := by
    rw [trimOf, dropEndWhile, List.getLast?_reverse]
    exact first_dropWhile p _

theorem trimOf_eq_iff : trimOf p s = core ↔ Trimmed p s core := by
  constructor
  · rintro rfl
    exact trimmed_trimOf p s
  · rintro ⟨⟨left, right, rfl, hleft, hright⟩, first, last⟩
    rw [trimOf_append hleft hright, trimOf_of_ends first last]

theorem trimOf_eq_nil_iff : trimOf p s = [] ↔ ∀ c ∈ s, p c = true := by
  rw [trimOf_eq_iff]
  constructor
  · rintro ⟨⟨left, right, rfl, hleft, hright⟩, -, -⟩
    rw [List.append_nil, List.forall_mem_append]
    exact ⟨hleft, hright⟩
  · intro h
    exact ⟨⟨s, [], by simp, h, by simp⟩, by simp, by simp⟩

end StreamWatch.Text
