import Mathlib
import StreamWatch.Link.Parts

/-! Splitting a link that was joined. What splitting finds can be joined to a link that splits into
the same parts, as long as there is an authority: no part holds a character that would end it, and
cleaning and small letters change nothing the second time. -/
namespace StreamWatch.Link.Parts

theorem upTo_subset (sep : Char) (s : List Char) : Text.upTo sep s ⊆ s :=
  (List.takeWhile_prefix _).subset

theorem notMem_upTo (sep : Char) (s : List Char) : sep ∉ Text.upTo sep s := by
  intro h
  unfold Text.upTo at h
  have hne := List.mem_takeWhile_imp h
  exact absurd hne (by simp)

theorem past?_subset (sep : Char) (s : List Char) : (Text.past? sep s).getD [] ⊆ s := by
  intro c hc
  refine (List.dropWhile_suffix (· != sep)).subset ?_
  unfold Text.past? at hc
  cases hs : s.dropWhile (· != sep) with
  | nil =>
    rw [hs] at hc
    exact absurd hc (by simp)
  | cons d rest =>
    rw [hs] at hc
    exact List.mem_cons_of_mem d hc

def marked (mark : Char) (s : List Char) : List Char := if s = [] then [] else mark :: s

theorem mem_marked {mark : Char} {s : List Char} {c : Char} (h : c ∈ marked mark s) :
    c = mark ∨ c ∈ s := by
  unfold marked at h
  split at h
  · cases h
  · exact List.mem_cons.mp h

theorem upTo_marked {mark : Char} {s : List Char} (h : mark ∉ s) (t : List Char) :
    Text.upTo mark (s ++ marked mark t) = s := by
  unfold marked
  split
  · rw [List.append_nil, Text.upTo_of_notMem h]
  · exact Text.upTo_append h t

theorem past?_marked {mark : Char} {s : List Char} (h : mark ∉ s) (t : List Char) :
    (Text.past? mark (s ++ marked mark t)).getD [] = t := by
  unfold marked
  split
  · next ht => rw [List.append_nil, Text.past?_of_notMem h, Option.getD_none, ht]
  · rw [Text.past?_append h, Option.getD_some]

def isClean (c : Char) : Bool := c ≠ '\t' && c ≠ '\r' && c ≠ '\n'

structure IsScheme (name : List Char) : Prop where
  letter : ∃ c rest, name = c :: rest ∧ c.isAlpha = true
  chars : ∀ c ∈ name, isSchemeChar c = true
  lower : name.map Char.toLower = name

theorem IsScheme.ne_nil {name : List Char} (h : IsScheme name) : name ≠ [] := by
  obtain ⟨c, rest, rfl, -⟩ := h.letter
  exact List.cons_ne_nil c rest

def ofRest (scheme authority rest : List Char) : Parts where
  scheme := scheme
  authority := authority
  path := Text.upTo '?' (Text.upTo '#' rest)
  query := (Text.past? '?' (Text.upTo '#' rest)).getD []
  fragment := (Text.past? '#' rest).getD []

theorem ofText_eq_ok_iff {s scheme rest authority rest' : List Char} {p : Parts}
    (hscheme : splitScheme (clean s) = (scheme, rest))
    (hauthority : splitAuthority rest = (authority, rest')) :
    ofText s = .ok p ↔ checkBrackets authority = .ok () ∧ checkNormalForm authority = .ok () ∧
      ofRest scheme authority rest' = p := by
  rw [ofText, hscheme]
  dsimp only
  rw [hauthority]
  dsimp only
  cases hbrackets : checkBrackets authority with
  | error f => exact ⟨nofun, fun h => nomatch h.1⟩
  | ok _ =>
    cases hform : checkNormalForm authority with
    | error f => exact ⟨nofun, fun h => nomatch h.2.1⟩
    | ok _ => exact ⟨fun h => ⟨rfl, rfl, Except.ok.inj h⟩, fun h => congrArg Except.ok h.2.2⟩

structure Formed (p : Parts) : Prop where
  scheme : p.scheme = [] ∨ IsScheme p.scheme
  authority : ∀ c ∈ p.authority, endsAuthority c = false
  rooted : p.authority ≠ [] → p.path = [] ∨ p.path.head? = some '/'
  path : '?' ∉ p.path ∧ '#' ∉ p.path
  query : '#' ∉ p.query
  clean : ∀ c ∈ p.authority ++ p.path ++ p.query ++ p.fragment, isClean c = true
  brackets : checkBrackets p.authority = .ok ()
  normalForm : checkNormalForm p.authority = .ok ()

theorem isSchemeChar_toLower {c : Char} (h : isSchemeChar c = true) :
    isSchemeChar c.toLower = true := by
  by_cases hu : c.isUpper = true
  · have ha : c.toLower.isAlpha = true := by
      rw [Char.isAlpha_toLower_eq_isAlpha, Char.isAlpha, hu, Bool.true_or]
    rw [isSchemeChar, Char.isAlphanum, ha]
    rfl
  · rwa [Char.toLower_eq_of_not_isUpper hu]

theorem isScheme_map_toLower {c : Char} {name : List Char} (hc : c.isAlpha = true)
    (h : (c :: name).all isSchemeChar = true) : IsScheme ((c :: name).map Char.toLower) where
  letter := ⟨c.toLower, name.map Char.toLower, rfl, by rwa [Char.isAlpha_toLower_eq_isAlpha]⟩
  chars d hd := by
    obtain ⟨e, he, rfl⟩ := List.mem_map.mp hd
    exact isSchemeChar_toLower (List.all_eq_true.mp h e he)
  lower := by
    rw [List.map_map]
    exact List.map_congr_left fun d _ => Char.toLower_toLower_eq_toLower d

theorem splitScheme_spec {s scheme rest : List Char} (h : splitScheme s = (scheme, rest)) :
    (scheme = [] ∨ IsScheme scheme) ∧ rest ⊆ s := by
  unfold splitScheme at h
  split at h
  · next c name past hname hpast =>
    split at h
    · next hchars =>
      rw [Bool.and_eq_true] at hchars
      cases h
      have hsub := past?_subset ':' s
      rw [hpast, Option.getD_some] at hsub
      exact ⟨.inr (isScheme_map_toLower hchars.1 hchars.2), hsub⟩
    · cases h
      exact ⟨.inl rfl, List.Subset.refl s⟩
  · cases h
    exact ⟨.inl rfl, List.Subset.refl s⟩

def Follows (rest : List Char) : Prop := ∀ c, rest.head? = some c → endsAuthority c = true

theorem splitAuthority_spec {s authority rest : List Char}
    (h : splitAuthority s = (authority, rest)) :
    (∀ c ∈ authority, endsAuthority c = false) ∧ (authority ≠ [] → Follows rest) ∧
      authority ⊆ s ∧ rest ⊆ s := by
  unfold splitAuthority at h
  split at h
  · next r =>
    cases h
    refine ⟨fun c hc => ?_, fun _ c hc => ?_, fun c hc => ?_, fun c hc => ?_⟩
    · have hends := List.mem_takeWhile_imp hc
      simpa using hends
    · have hends := List.head?_dropWhile_not (!endsAuthority ·) r
      rw [hc] at hends
      simpa using hends
    · exact List.mem_cons_of_mem _ (List.mem_cons_of_mem _ ((List.takeWhile_prefix _).subset hc))
    · exact List.mem_cons_of_mem _ (List.mem_cons_of_mem _ ((List.dropWhile_suffix _).subset hc))
  · cases h
    exact ⟨nofun, fun h => absurd rfl h, List.nil_subset _, List.Subset.refl s⟩

/-- After an authority the path is empty or starts with a slash: the other characters that end an
authority start the query and the fragment. -/
theorem rooted_ofRest {rest : List Char} (h : Follows rest) (scheme authority : List Char) :
    (ofRest scheme authority rest).path = [] ∨
      (ofRest scheme authority rest).path.head? = some '/' := by
  cases rest with
  | nil => exact .inl rfl
  | cons c rest =>
    have hc := h c rfl
    simp only [endsAuthority, Bool.or_eq_true, beq_iff_eq] at hc
    rcases hc with (rfl | rfl) | rfl
    · exact .inr rfl
    · exact .inl rfl
    · exact .inl rfl

theorem formed_of_ofText {s : List Char} {p : Parts} (h : ofText s = .ok p) : Formed p := by
  obtain ⟨scheme, rest, hscheme⟩ : ∃ scheme rest, splitScheme (Parts.clean s) = (scheme, rest) :=
    ⟨_, _, rfl⟩
  obtain ⟨authority, rest', hauthority⟩ :
      ∃ authority rest', splitAuthority rest = (authority, rest') := ⟨_, _, rfl⟩
  obtain ⟨hbrackets, hform, rfl⟩ := (ofText_eq_ok_iff hscheme hauthority).mp h
  obtain ⟨hname, hrest⟩ := splitScheme_spec hscheme
  obtain ⟨hends, hfollows, hsub, hrest'⟩ := splitAuthority_spec hauthority
  have hbefore : Text.upTo '#' rest' ⊆ rest' := upTo_subset '#' rest'
  refine ⟨hname, hends, fun ha => rooted_ofRest (hfollows ha) scheme authority, ⟨?_, ?_⟩, ?_, ?_,
    hbrackets, hform⟩
  · exact notMem_upTo '?' _
  · exact fun hc => notMem_upTo '#' rest' (upTo_subset '?' _ hc)
  · exact fun hc => notMem_upTo '#' rest' (past?_subset '?' _ hc)
  · intro c hc
    have hmem : c ∈ rest := by
      simp only [List.mem_append] at hc
      rcases hc with ((hc | hc) | hc) | hc
      · exact hsub hc
      · exact hrest' (hbefore (upTo_subset '?' _ hc))
      · exact hrest' (hbefore (past?_subset '?' _ hc))
      · exact hrest' (past?_subset '#' _ hc)
    exact (List.mem_filter.mp (hrest hmem)).2

def afterAuthority (p : Parts) : List Char :=
  p.path ++ marked '?' p.query ++ marked '#' p.fragment

section

variable {p : Parts}

theorem toText_eq (h : Formed p) (ha : p.authority ≠ []) :
    p.toText = (if p.scheme = [] then [] else p.scheme ++ [':']) ++
      '/' :: '/' :: (p.authority ++ afterAuthority p) := by
  have hslash : ¬(p.path ≠ [] ∧ p.path.head? ≠ some '/') := by
    rintro ⟨hne, hhead⟩
    exact (h.rooted ha).elim hne hhead
  simp [toText, writesAuthority, ha, hslash, afterAuthority, marked]

theorem follows_afterAuthority (h : Formed p) (ha : p.authority ≠ []) :
    Follows (afterAuthority p) := by
  intro c hc
  unfold afterAuthority marked at hc
  rcases h.rooted ha with hpath | hpath
  · rw [hpath] at hc
    by_cases hq : p.query = []
    · by_cases hf : p.fragment = []
      · simp [hq, hf] at hc
      · simp only [hq, hf, if_true, if_false, List.nil_append, List.head?_cons,
          Option.some.injEq] at hc
        rw [← hc]
        rfl
    · simp only [hq, if_false, List.nil_append, List.cons_append, List.head?_cons,
        Option.some.injEq] at hc
      rw [← hc]
      rfl
  · obtain ⟨rest, hrest⟩ := List.head?_eq_some_iff.mp hpath
    rw [hrest] at hc
    obtain rfl := Option.some.inj hc
    rfl

theorem isAlpha_gt_blank {c : Char} (h : c.isAlpha = true) : ¬c.toNat ≤ 0x20 := by
  have hl : c.isLower = true ∨ c.isUpper = true := by
    rw [Char.isAlpha, Bool.or_eq_true] at h
    exact h.symm
  simp only [Char.isLower, Char.isUpper, Bool.and_eq_true, decide_eq_true_eq,
    UInt32.le_iff_toNat_le, ge_iff_le] at hl
  change (97 ≤ c.toNat ∧ c.toNat ≤ 122) ∨ (65 ≤ c.toNat ∧ c.toNat ≤ 90) at hl
  omega

theorem isClean_of_isSchemeChar {c : Char} (h : isSchemeChar c = true) : isClean c = true := by
  have hne {d : Char} (hd : isSchemeChar d = false) : c ≠ d := by
    rintro rfl
    rw [h] at hd
    cases hd
  simp only [isClean, Bool.and_eq_true, decide_eq_true_eq]
  exact ⟨⟨hne (by decide), hne (by decide)⟩, hne (by decide)⟩

theorem isClean_of_mem_toText (h : Formed p) (ha : p.authority ≠ []) {c : Char}
    (hc : c ∈ p.toText) : isClean c = true := by
  have hparts := h.clean c
  rw [toText_eq h ha] at hc
  simp only [afterAuthority, List.mem_append, List.mem_cons] at hc hparts
  rcases hc with hc | rfl | rfl | hc | (hc | hc) | hc
  · rcases h.scheme with hs | hs
    · simp [hs] at hc
    · rw [if_neg hs.ne_nil, List.mem_append, List.mem_singleton] at hc
      rcases hc with hc | rfl
      · exact isClean_of_isSchemeChar (hs.chars c hc)
      · rfl
  · rfl
  · rfl
  · exact hparts (.inl (.inl (.inl hc)))
  · exact hparts (.inl (.inl (.inr hc)))
  · rcases mem_marked hc with rfl | hc
    · rfl
    · exact hparts (.inl (.inr hc))
  · rcases mem_marked hc with rfl | hc
    · rfl
    · exact hparts (.inr hc)

theorem clean_toText (h : Formed p) (ha : p.authority ≠ []) : clean p.toText = p.toText := by
  have hfirst : p.toText.dropWhile (fun c => c.toNat ≤ 0x20) = p.toText := by
    rw [toText_eq h ha]
    rcases h.scheme with hs | hs
    · rw [hs]
      rfl
    · obtain ⟨d, rest, hd, halpha⟩ := hs.letter
      rw [hd, if_neg (List.cons_ne_nil d rest)]
      exact List.dropWhile_cons_of_neg (by simpa using isAlpha_gt_blank halpha)
  rw [clean, hfirst]
  exact List.filter_eq_self.mpr fun c hc => isClean_of_mem_toText h ha hc

theorem splitScheme_append {name : List Char} (letter : ∃ c rest, name = c :: rest ∧ c.isAlpha = true)
    (chars : ∀ c ∈ name, isSchemeChar c = true) (rest : List Char) :
    splitScheme (name ++ ':' :: rest) = (name.map Char.toLower, rest) := by
  have hcolon : ':' ∉ name := fun hc => absurd (chars _ hc) (by decide)
  obtain ⟨c, tail, hname, halpha⟩ := letter
  have hall : (c :: tail).all isSchemeChar = true := List.all_eq_true.mpr (hname ▸ chars)
  rw [splitScheme, Text.upTo_append hcolon, Text.past?_append hcolon, hname]
  dsimp only
  rw [halpha, hall]
  rfl

theorem splitScheme_scheme {name : List Char} (h : IsScheme name) (rest : List Char) :
    splitScheme (name ++ ':' :: rest) = (name, rest) := by
  rw [splitScheme_append h.letter h.chars, h.lower]

theorem splitScheme_slash (rest : List Char) : splitScheme ('/' :: rest) = ([], '/' :: rest) := by
  unfold splitScheme
  split
  · next c name past hname hpast =>
    obtain rfl : c = '/' := by
      have hhead : Text.upTo ':' ('/' :: rest) = '/' :: Text.upTo ':' rest := rfl
      rw [hhead] at hname
      exact (List.cons.inj hname).1.symm
    rfl
  · rfl

theorem splitScheme_toText (h : Formed p) (ha : p.authority ≠ []) :
    splitScheme p.toText = (p.scheme, '/' :: '/' :: (p.authority ++ afterAuthority p)) := by
  rw [toText_eq h ha]
  rcases h.scheme with hs | hs
  · rw [if_pos hs, hs, List.nil_append, splitScheme_slash]
  · rw [if_neg hs.ne_nil, List.append_assoc, List.singleton_append, splitScheme_scheme hs]

theorem splitAuthority_slashes {authority rest : List Char}
    (ha : ∀ c ∈ authority, endsAuthority c = false) (hr : Follows rest) :
    splitAuthority ('/' :: '/' :: (authority ++ rest)) = (authority, rest) := by
  have hin : ∀ c ∈ authority, (!endsAuthority c) = true := by
    intro c hc
    rw [ha c hc]
    rfl
  have hout : rest.takeWhile (!endsAuthority ·) = [] ∧ rest.dropWhile (!endsAuthority ·) = rest := by
    cases rest with
    | nil => exact ⟨rfl, rfl⟩
    | cons c rest =>
      have hc : ¬(!endsAuthority c) = true := by simp [hr c rfl]
      exact ⟨List.takeWhile_cons_of_neg hc, List.dropWhile_cons_of_neg hc⟩
  rw [splitAuthority, List.takeWhile_append_of_pos hin, List.dropWhile_append_of_pos hin, hout.1,
    hout.2, List.append_nil]

theorem ofRest_afterAuthority (h : Formed p) :
    ofRest p.scheme p.authority (afterAuthority p) = p := by
  have hmark : '#' ∉ p.path ++ marked '?' p.query := by
    intro hc
    rcases List.mem_append.mp hc with hc | hc
    · exact h.path.2 hc
    · exact (mem_marked hc).elim (by decide) h.query
  rw [ofRest, afterAuthority, upTo_marked hmark, past?_marked hmark, upTo_marked h.path.1,
    past?_marked h.path.1]

/-- A link that was joined of parts with an authority splits into just these. -/
theorem ofText_toText (h : Formed p) (ha : p.authority ≠ []) : ofText p.toText = .ok p := by
  have hscheme := splitScheme_toText h ha
  rw [← clean_toText h ha] at hscheme
  have hauthority := splitAuthority_slashes h.authority (follows_afterAuthority h ha)
  exact (ofText_eq_ok_iff hscheme hauthority).mpr
    ⟨h.brackets, h.normalForm, ofRest_afterAuthority h⟩

end
end StreamWatch.Link.Parts
