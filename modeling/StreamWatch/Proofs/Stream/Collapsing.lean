import StreamWatch.Stream.Identifier

/-! Marked runs. Of a text only the plain characters are kept, and one underscore stands for all
that is between two of them. The relation says so about whole runs, where the function goes from
character to character; they agree on every text. -/
namespace StreamWatch.Stream

/-- Plain characters are kept, and a run of others, as long as it can be, becomes one underscore. -/
inductive Collapsed (plain : Char → Bool) : List Char → List Char → Prop
  | nil : Collapsed plain [] []
  | keep {c : Char} {s t : List Char} (h : plain c = true) (rest : Collapsed plain s t) :
      Collapsed plain (c :: s) (c :: t)
  | mark {run s t : List Char} (nonempty : run ≠ []) (out : ∀ c ∈ run, plain c = false)
      (ends : ∀ c ∈ s.head?, plain c = true) (rest : Collapsed plain s t) :
      Collapsed plain (run ++ s) ('_' :: t)

variable {plain : Char → Bool} {s t : List Char}

theorem Collapsed.mem (h : Collapsed plain s t) : ∀ c ∈ t, plain c = true ∨ c = '_' := by
  induction h with
  | nil => nofun
  | keep hc _ ih => exact List.forall_mem_cons.mpr ⟨.inl hc, ih⟩
  | mark _ _ _ _ ih => exact List.forall_mem_cons.mpr ⟨.inr rfl, ih⟩

theorem collapsed_collapseFrom (plain : Char → Bool) (s : List Char) :
    Collapsed plain s (collapseFrom plain false s) ∧
    ∃ run rest, s = run ++ rest ∧ (∀ c ∈ run, plain c = false) ∧
      (∀ c ∈ rest.head?, plain c = true) ∧ Collapsed plain rest (collapseFrom plain true s) := by
  induction s with
  | nil => exact ⟨.nil, [], [], rfl, nofun, nofun, .nil⟩
  | cons c s ih =>
    obtain ⟨fresh, run, rest, rfl, out, ends, within⟩ := ih
    cases hc : plain c with
    | true =>
      have kept (inRun : Bool) : collapseFrom plain inRun (c :: (run ++ rest)) =
          c :: collapseFrom plain false (run ++ rest) := by rw [collapseFrom, if_pos hc]
      rw [kept, kept]
      refine ⟨.keep hc fresh, [], _, rfl, nofun, ?_, .keep hc fresh⟩
      rintro _ ⟨⟩
      exact hc
    | false =>
      have out' : ∀ d ∈ c :: run, plain d = false := List.forall_mem_cons.mpr ⟨hc, out⟩
      have hc' : ¬plain c = true := by simp [hc]
      refine ⟨?_, c :: run, rest, rfl, out', ends, ?_⟩
      · rw [collapseFrom, if_neg hc', if_neg (by decide)]
        exact .mark (List.cons_ne_nil c run) out' ends within
      · rw [collapseFrom, if_neg hc', if_pos rfl]
        exact within

theorem collapseFrom_append {run : List Char} (out : ∀ c ∈ run, plain c = false)
    (s : List Char) : collapseFrom plain true (run ++ s) = collapseFrom plain true s := by
  induction run with
  | nil => rfl
  | cons c run ih =>
    obtain ⟨hc, out⟩ := List.forall_mem_cons.mp out
    rw [List.cons_append, collapseFrom, if_neg (by simp [hc]), if_pos rfl, ih out]

theorem collapseFrom_of_ends (ends : ∀ c ∈ s.head?, plain c = true) :
    collapseFrom plain true s = collapseFrom plain false s := by
  cases s with
  | nil => rfl
  | cons c s =>
    have hc : plain c = true := ends c rfl
    simp only [collapseFrom, hc, if_true]

theorem collapse_eq_iff : collapse plain s = t ↔ Collapsed plain s t := by
  constructor
  · rintro rfl
    exact (collapsed_collapseFrom plain s).1
  · intro h
    rw [collapse]
    induction h with
    | nil => rfl
    | keep hc _ ih => rw [collapseFrom, if_pos hc, ih]
    | mark nonempty out ends _ ih =>
      obtain ⟨c, run, rfl⟩ := List.exists_cons_of_ne_nil nonempty
      obtain ⟨hc, out⟩ := List.forall_mem_cons.mp out
      rw [List.cons_append, collapseFrom, if_neg (by simp [hc]), if_neg (by decide),
        collapseFrom_append out, collapseFrom_of_ends ends, ih]

end StreamWatch.Stream
