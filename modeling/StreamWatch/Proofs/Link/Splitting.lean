import StreamWatch.Link.Parts

/-! The query of a link. Where a link is a text without question marks and number signs, then a
question mark and a query, cleaning it and splitting off its scheme and its authority shorten only
that text: its query is found again, and there is no fragment. -/
namespace StreamWatch.Link.Parts

def BeforeQuery (s : List Char) : Prop := '?' ∉ s ∧ '#' ∉ s

def isLasting (c : Char) : Bool := c != '\t' && c != '\r' && c != '\n' && c != '#'

theorem BeforeQuery.of_subset {s t : List Char} (h : BeforeQuery s) (ht : t ⊆ s) :
    BeforeQuery t :=
  ⟨fun hc => h.1 (ht hc), fun hc => h.2 (ht hc)⟩

def EndsWithQuery (query s : List Char) : Prop :=
  ∃ before, BeforeQuery before ∧ s = before ++ '?' :: query

variable {query s : List Char}

theorem endsWithQuery_clean (hq : query.all isLasting) (hs : EndsWithQuery query s) :
    EndsWithQuery query (clean s) := by
  obtain ⟨before, hb, rfl⟩ := hs
  have hkeep : query.filter (fun c => c ≠ '\t' && c ≠ '\r' && c ≠ '\n') = query := by
    refine List.filter_eq_self.mpr fun c hc => ?_
    have h := List.all_eq_true.mp hq c hc
    simp only [isLasting, Bool.and_eq_true, bne_iff_ne, ne_eq] at h
    simp [h]
  -- Leading blanks are dropped up to the question mark at the latest.
  have hdrop : ∃ rest, rest ⊆ before ∧
      (before ++ '?' :: query).dropWhile (fun c => c.toNat ≤ 0x20) = rest ++ '?' :: query := by
    clear hb
    induction before with
    | nil => exact ⟨[], List.nil_subset _, rfl⟩
    | cons c r ih =>
      by_cases hc : c.toNat ≤ 0x20
      · obtain ⟨rest, hr, he⟩ := ih
        refine ⟨rest, List.subset_cons_of_subset c hr, ?_⟩
        rw [List.cons_append, List.dropWhile_cons_of_pos (by simpa using hc), he]
      · refine ⟨c :: r, List.Subset.refl _, ?_⟩
        rw [List.cons_append, List.dropWhile_cons_of_neg (by simpa using hc)]
  obtain ⟨rest, hr, he⟩ := hdrop
  refine ⟨rest.filter fun c => c ≠ '\t' && c ≠ '\r' && c ≠ '\n',
    hb.of_subset fun c hc => hr (List.mem_filter.mp hc).1, ?_⟩
  rw [clean, he, List.filter_append, List.filter_cons_of_pos (by decide), hkeep]

theorem endsWithQuery_splitScheme (hs : EndsWithQuery query s) :
    EndsWithQuery query (splitScheme s).2 := by
  unfold splitScheme
  split
  · next c name rest hname hrest =>
    split
    · next hscheme =>
      obtain ⟨before, hb, rfl⟩ := hs
      rw [Bool.and_eq_true] at hscheme
      -- A scheme has no question mark, so the colon that ends it stands before the query.
      have hcolon : ':' ∈ before := by
        refine Decidable.byContradiction fun hc => ?_
        have hmark : '?' ∈ Text.upTo ':' (before ++ '?' :: query) := by
          rw [Text.upTo, List.takeWhile_append_of_pos (Text.bne_of_notMem hc)]
          simp
        rw [hname] at hmark
        exact absurd (List.all_eq_true.mp hscheme.2 '?' hmark) (by decide)
      obtain ⟨left, right, hsplit, hleft⟩ := List.eq_append_cons_of_mem hcolon
      subst hsplit
      rw [List.append_assoc, List.cons_append, Text.past?_append hleft] at hrest
      cases hrest
      exact ⟨right, hb.of_subset (by simp), rfl⟩
    · exact hs
  · exact hs

theorem endsWithQuery_dropWhile {before : List Char} (hb : BeforeQuery before) :
    EndsWithQuery query ((before ++ '?' :: query).dropWhile (!endsAuthority ·)) := by
  induction before with
  | nil => exact ⟨[], hb, rfl⟩
  | cons c r ih =>
    by_cases hc : endsAuthority c = true
    · refine ⟨c :: r, hb, ?_⟩
      rw [List.cons_append, List.dropWhile_cons_of_neg (by simpa using hc)]
    · rw [List.cons_append, List.dropWhile_cons_of_pos (by simpa using hc)]
      exact ih (hb.of_subset (List.subset_cons_self c r))

theorem endsWithQuery_splitAuthority (hs : EndsWithQuery query s) :
    EndsWithQuery query (splitAuthority s).2 := by
  unfold splitAuthority
  split
  · next r =>
    obtain ⟨before, hb, he⟩ := hs
    -- Both slashes stand before the question mark.
    cases before with
    | nil => cases he
    | cons c before =>
      cases before with
      | nil => cases he
      | cons d before =>
        cases he
        exact endsWithQuery_dropWhile (hb.of_subset (by simp))
  · exact hs

theorem query_of_ofText {parts : Parts} {before : List Char} (hb : BeforeQuery before)
    (hq : query.all isLasting) (h : ofText (before ++ '?' :: query) = .ok parts) :
    parts.query = query ∧ parts.fragment = [] := by
  have hrest := endsWithQuery_splitAuthority (endsWithQuery_splitScheme
    (endsWithQuery_clean hq ⟨before, hb, rfl⟩))
  rw [ofText] at h
  rcases hscheme : splitScheme (clean (before ++ '?' :: query)) with ⟨scheme, rest⟩
  rw [hscheme] at h hrest
  dsimp only at h hrest
  rcases hauthority : splitAuthority rest with ⟨authority, rest⟩
  rw [hauthority] at h hrest
  dsimp only at h hrest
  obtain ⟨left, hleft, rfl⟩ := hrest
  have hnone : '#' ∉ left ++ '?' :: query := by
    rw [List.mem_append, List.mem_cons, not_or, not_or]
    refine ⟨hleft.2, by decide, fun hc => ?_⟩
    exact absurd (List.all_eq_true.mp hq '#' hc) (by decide)
  rw [Text.upTo_of_notMem hnone, Text.past?_of_notMem hnone, Text.past?_append hleft.1] at h
  cases hbrackets : checkBrackets authority with
  | error f =>
    rw [hbrackets] at h
    cases h
  | ok _ =>
    cases hform : checkNormalForm authority with
    | error f =>
      rw [hbrackets, hform] at h
      cases h
    | ok _ =>
      rw [hbrackets, hform] at h
      cases h
      exact ⟨rfl, rfl⟩

end StreamWatch.Link.Parts
