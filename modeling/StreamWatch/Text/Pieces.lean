/-! Cutting text at a separator. `pieces` is inverted by `List.intercalate`; `upTo` and `past?` are
the two sides of the first separator, `afterLast` the right side of the last one. -/
namespace StreamWatch.Text

def pieces (sep : Char) : List Char → List (List Char)
  | [] => [[]]
  | c :: r =>
    if c = sep then [] :: pieces sep r
    else match pieces sep r with
      | [] => [[c]]
      | p :: ps => (c :: p) :: ps

def upTo (sep : Char) (s : List Char) : List Char := s.takeWhile (· != sep)

def past? (sep : Char) (s : List Char) : Option (List Char) := (s.dropWhile (· != sep)).tail?

def afterLast (sep : Char) (s : List Char) : List Char := (s.reverse.takeWhile (· != sep)).reverse

/-- The first `n` characters; a negative `n` leaves out that many at the end. -/
def keep (n : Int) (s : List Char) : List Char :=
  if 0 ≤ n then s.take n.toNat else s.take (s.length - n.natAbs)

def holds (part : List Char) : List Char → Bool
  | [] => part.isEmpty
  | c :: r => part.isPrefixOf (c :: r) || holds part r

theorem pieces_ne_nil (sep : Char) (s : List Char) : pieces sep s ≠ [] := by
  cases s with
  | nil => simp [pieces]
  | cons c r =>
    simp only [pieces]
    split
    · simp
    · split <;> simp

theorem intercalate_pieces (sep : Char) (s : List Char) : [sep].intercalate (pieces sep s) = s := by
  induction s with
  | nil => rfl
  | cons c r ih =>
    simp only [pieces]
    split
    next h =>
      subst h
      cases hp : pieces c r with
      | nil => exact absurd hp (pieces_ne_nil c r)
      | cons p ps =>
        rw [hp] at ih
        simpa [List.intercalate, List.intersperse] using ih
    next h =>
      cases hp : pieces sep r with
      | nil => exact absurd hp (pieces_ne_nil sep r)
      | cons p ps =>
        rw [hp] at ih
        cases ps with
        | nil => simpa [List.intercalate, List.intersperse] using ih
        | cons q qs => simpa [List.intercalate, List.intersperse] using ih

theorem notMem_of_mem_pieces {sep : Char} {s p : List Char} (h : p ∈ pieces sep s) : sep ∉ p := by
  induction s generalizing p with
  | nil =>
    obtain rfl := List.mem_singleton.mp h
    exact List.not_mem_nil
  | cons c r ih =>
    rw [pieces] at h
    split at h
    next =>
      rcases List.mem_cons.mp h with rfl | h
      · exact List.not_mem_nil
      · exact ih h
    next hc =>
      cases hp : pieces sep r with
      | nil => exact absurd hp (pieces_ne_nil sep r)
      | cons q qs =>
        rw [hp] at h ih
        rcases List.mem_cons.mp h with rfl | h
        · have hq := ih List.mem_cons_self
          rw [List.mem_cons, not_or]
          exact ⟨Ne.symm hc, hq⟩
        · exact ih (List.mem_cons_of_mem q h)

variable {sep : Char} {a : List Char}

theorem pieces_append (h : sep ∉ a) (b : List Char) :
    pieces sep (a ++ sep :: b) = a :: pieces sep b := by
  induction a with
  | nil => rw [List.nil_append, pieces, if_pos rfl]
  | cons c r ih =>
    rw [List.mem_cons, not_or] at h
    rw [List.cons_append, pieces, if_neg (Ne.symm h.1), ih h.2]

theorem pieces_of_notMem (h : sep ∉ a) : pieces sep a = [a] := by
  induction a with
  | nil => rfl
  | cons c r ih =>
    rw [List.mem_cons, not_or] at h
    rw [pieces, if_neg (Ne.symm h.1), ih h.2]

theorem intercalate_cons (p : List Char) {ps : List (List Char)} (h : ps ≠ []) :
    [sep].intercalate (p :: ps) = p ++ sep :: [sep].intercalate ps := by
  obtain ⟨q, qs, rfl⟩ := List.exists_cons_of_ne_nil h
  simp [List.intercalate]

theorem mem_intercalate {c : Char} {ps : List (List Char)} (h : c ∈ [sep].intercalate ps) :
    c = sep ∨ ∃ p ∈ ps, c ∈ p := by
  induction ps with
  | nil => simp [List.intercalate] at h
  | cons p ps ih =>
    by_cases hps : ps = []
    · subst hps
      exact .inr ⟨p, by simp, by simpa [List.intercalate] using h⟩
    · rw [intercalate_cons p hps, List.mem_append, List.mem_cons] at h
      rcases h with h | h | h
      · exact .inr ⟨p, by simp, h⟩
      · exact .inl h
      · obtain hc | ⟨q, hq, hc⟩ := ih h
        · exact .inl hc
        · exact .inr ⟨q, List.mem_cons_of_mem p hq, hc⟩

theorem pieces_intercalate {p : List Char} {ps : List (List Char)}
    (h : ∀ q ∈ p :: ps, sep ∉ q) : pieces sep ([sep].intercalate (p :: ps)) = p :: ps := by
  induction ps generalizing p with
  | nil =>
    have hp := pieces_of_notMem (h p (by simp))
    simpa [List.intercalate] using hp
  | cons q qs ih =>
    have hp := h p (by simp)
    have hqs := ih fun t ht => h t (List.mem_cons_of_mem p ht)
    rw [intercalate_cons p (by simp), pieces_append hp, hqs]

theorem bne_of_notMem (h : sep ∉ a) : ∀ c ∈ a, (c != sep) = true := by
  intro c hc
  rw [bne_iff_ne]
  rintro rfl
  exact h hc

theorem upTo_append (h : sep ∉ a) (b : List Char) : upTo sep (a ++ sep :: b) = a := by
  rw [upTo, List.takeWhile_append_of_pos (bne_of_notMem h)]
  simp

theorem past?_append (h : sep ∉ a) (b : List Char) : past? sep (a ++ sep :: b) = some b := by
  rw [past?, List.dropWhile_append_of_pos (bne_of_notMem h)]
  simp

theorem upTo_of_notMem (h : sep ∉ a) : upTo sep a = a := by
  have ha : (a ++ []).takeWhile (· != sep) = a ++ [].takeWhile (· != sep) :=
    List.takeWhile_append_of_pos (bne_of_notMem h)
  simpa [upTo] using ha

theorem past?_of_notMem (h : sep ∉ a) : past? sep a = none := by
  have ha : (a ++ []).dropWhile (· != sep) = [].dropWhile (· != sep) :=
    List.dropWhile_append_of_pos (bne_of_notMem h)
  rw [List.append_nil] at ha
  rw [past?, ha]
  rfl

theorem afterLast_append (h : sep ∉ a) (b : List Char) : afterLast sep (b ++ sep :: a) = a := by
  have hturned : (b ++ sep :: a).reverse = a.reverse ++ sep :: b.reverse := by simp
  have hcut := upTo_append (a := a.reverse) (by simpa using h) b.reverse
  rw [upTo] at hcut
  rw [afterLast, hturned, hcut, List.reverse_reverse]

theorem afterLast_of_notMem (h : sep ∉ a) : afterLast sep a = a := by
  have hcut := upTo_of_notMem (a := a.reverse) (by simpa using h)
  rw [upTo] at hcut
  rw [afterLast, hcut, List.reverse_reverse]

theorem map_intercalate {f : Char → Char} (h : f sep = sep) (ps : List (List Char)) :
    ([sep].intercalate ps).map f = [sep].intercalate (ps.map (List.map f)) := by
  induction ps with
  | nil => rfl
  | cons p ps ih =>
    by_cases hps : ps = []
    · subst hps
      simp [List.intercalate]
    · rw [intercalate_cons p hps, List.map_append, List.map_cons, ih, h, List.map_cons,
        intercalate_cons _ (by simpa using hps)]

end StreamWatch.Text
