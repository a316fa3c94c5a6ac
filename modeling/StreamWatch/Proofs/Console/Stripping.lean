import Mathlib.Data.List.TakeWhile
import StreamWatch.Console.Colour

/-! Lines away from a terminal. The codes are removed in one pass from left to right, so a code that
has others in the middle of it is put together by their removal. A line has a code left in it just
where the message had such an interrupted one. -/
namespace StreamWatch.Console

def IsCode (code : List Char) : Prop :=
  ∃ digits, (∀ c ∈ digits, isCodeChar c = true) ∧ code = escape :: '[' :: digits ++ ['m']

def HasCode (s : List Char) : Prop := ∃ code, IsCode code ∧ code <:+: s

/-- Left out of the first text are whole codes, which leaves the second. -/
inductive Stripped : List Char → List Char → Prop
  | nil : Stripped [] []
  | keep (c : Char) {s t : List Char} (rest : Stripped s t) : Stripped (c :: s) (c :: t)
  | drop {code s t : List Char} (h : IsCode code) (rest : Stripped s t) : Stripped (code ++ s) t

/-- A code, but with one whole code or more in the middle of it. -/
def IsInterrupted (s : List Char) : Prop :=
  ∃ inner digits, (∀ c ∈ digits, isCodeChar c = true) ∧ Stripped inner ('[' :: digits) ∧
    inner ≠ '[' :: digits ∧ s = escape :: inner ++ ['m']

def HasInterrupted (s : List Char) : Prop := ∃ part, IsInterrupted part ∧ part <:+: s

section

variable {s t rest code : List Char}

theorem pastCode?_eq_some_iff :
    pastCode? s = some rest ↔ ∃ code, IsCode code ∧ s = code ++ rest := by
  constructor
  · intro h
    unfold pastCode? at h
    split at h
    · next e r =>
      split at h
      · next he =>
        split at h
        · next more hdrop =>
          cases h
          refine ⟨_, ⟨r.takeWhile isCodeChar, fun c hc => List.mem_takeWhile_imp hc, rfl⟩, ?_⟩
          have hsplit : r = r.takeWhile isCodeChar ++ 'm' :: rest := by
            rw [← hdrop, List.takeWhile_append_dropWhile]
          calc e :: '[' :: r = escape :: '[' :: (r.takeWhile isCodeChar ++ 'm' :: rest) := by
                rw [he, ← hsplit]
            _ = _ := by simp
        · cases h
      · cases h
    · cases h
  · rintro ⟨_, ⟨digits, hdigits, rfl⟩, rfl⟩
    have hdrop : (digits ++ 'm' :: rest).dropWhile isCodeChar = 'm' :: rest := by
      rw [List.dropWhile_append_of_pos hdigits]
      exact List.dropWhile_cons_of_neg (by decide)
    have hcode : escape :: '[' :: digits ++ ['m'] ++ rest =
        escape :: '[' :: (digits ++ 'm' :: rest) := by simp
    rw [hcode, pastCode?, if_pos rfl, hdrop]
    rfl

theorem stripCodes_code_append (h : IsCode code) (s : List Char) :
    stripCodes (code ++ s) = stripCodes s := by
  have hpast : pastCode? (code ++ s) = some s := pastCode?_eq_some_iff.mpr ⟨code, h, rfl⟩
  rw [stripCodes]
  split
  · next more hmore =>
    rw [hpast] at hmore
    cases hmore
    rfl
  · next hnone =>
    rw [hpast] at hnone
    cases hnone

theorem stripCodes_cons {c : Char} (h : pastCode? (c :: s) = none) :
    stripCodes (c :: s) = c :: stripCodes s := by
  rw [stripCodes]
  split
  · next more hmore =>
    rw [h] at hmore
    cases hmore
  · rfl

theorem stripCodes_nil : stripCodes [] = [] := by
  rw [stripCodes]
  rfl

theorem pastCode?_of_ne {c : Char} (h : c ≠ escape) (s : List Char) : pastCode? (c :: s) = none := by
  cases hpast : pastCode? (c :: s) with
  | none => rfl
  | some rest =>
    obtain ⟨_, ⟨digits, -, rfl⟩, hs⟩ := pastCode?_eq_some_iff.mp hpast
    exact absurd (List.cons.inj hs).1 h

theorem strip_induction {P : List Char → Prop} (nil : P [])
    (code : ∀ code s, IsCode code → P s → P (code ++ s))
    (char : ∀ c s, pastCode? (c :: s) = none → P s → P (c :: s)) (s : List Char) : P s := by
  induction s using stripCodes.induct with
  | case1 s rest hpast ih =>
    obtain ⟨k, hk, rfl⟩ := pastCode?_eq_some_iff.mp hpast
    exact code k rest hk ih
  | case2 hnone => exact nil
  | case3 c s hnone ih => exact char c s hnone ih

theorem stripped_stripCodes (s : List Char) : Stripped s (stripCodes s) := by
  induction s using strip_induction with
  | nil =>
    rw [stripCodes_nil]
    exact .nil
  | code code s hcode ih =>
    rw [stripCodes_code_append hcode]
    exact .drop hcode ih
  | char c s hnone ih =>
    rw [stripCodes_cons hnone]
    exact .keep c ih

end

section

variable {s t u inner digits : List Char}

theorem Stripped.exists_cons {c : Char} (h : Stripped s (t ++ c :: u)) :
    ∃ before after, s = before ++ c :: after ∧ Stripped before t ∧ Stripped after u := by
  generalize hr : t ++ c :: u = r at h
  induction h generalizing t with
  | nil => simp at hr
  | keep d rest ih =>
    cases t with
    | nil =>
      obtain ⟨rfl, rfl⟩ := List.cons.inj hr
      exact ⟨[], _, rfl, .nil, rest⟩
    | cons e t =>
      rw [List.cons_append, List.cons.injEq] at hr
      obtain ⟨rfl, hr⟩ := hr
      obtain ⟨before, after, rfl, hbefore, hafter⟩ := ih hr
      exact ⟨e :: before, after, rfl, .keep e hbefore, hafter⟩
  | @drop code s r hcode rest ih =>
    obtain ⟨before, after, rfl, hbefore, hafter⟩ := ih hr
    exact ⟨code ++ before, after, by simp, .drop hcode hbefore, hafter⟩

theorem hasInterrupted_of_hasCode (h : HasCode (stripCodes s)) : HasInterrupted s := by
  have wider {r s : List Char} (hr : HasInterrupted r) (hs : r <:+: s) : HasInterrupted s := by
    obtain ⟨part, hpart, hin⟩ := hr
    exact ⟨part, hpart, hin.trans hs⟩
  induction s using strip_induction with
  | nil =>
    obtain ⟨_, ⟨digits, -, rfl⟩, hin⟩ := h
    rw [stripCodes_nil, List.infix_nil] at hin
    cases hin
  | code code s hcode ih =>
    rw [stripCodes_code_append hcode] at h
    exact wider (ih h) (List.suffix_append code s).isInfix
  | char c s hnone ih =>
    rw [stripCodes_cons hnone] at h
    obtain ⟨_, ⟨digits, hdigits, rfl⟩, hin⟩ := h
    rcases List.infix_cons_iff.mp hin with hhead | hin
    · -- The code starts at a character that was kept, so something was removed from within it.
      obtain ⟨after, hafter⟩ := hhead
      rw [List.cons_append, List.cons_append, List.cons.injEq, List.append_assoc,
        List.singleton_append] at hafter
      obtain ⟨rfl, hafter⟩ := hafter
      have hstripped := stripped_stripCodes s
      rw [← hafter] at hstripped
      obtain ⟨inner, more, rfl, hinner, -⟩ := hstripped.exists_cons
      refine ⟨escape :: inner ++ ['m'], ⟨inner, digits, hdigits, hinner, ?_, rfl⟩, [], more, ?_⟩
      · rintro rfl
        have hcode : pastCode? (escape :: ('[' :: digits ++ 'm' :: more)) = some more :=
          pastCode?_eq_some_iff.mpr ⟨_, ⟨digits, hdigits, rfl⟩, by simp⟩
        rw [hcode] at hnone
        cases hnone
      · simp
    · exact wider (ih ⟨_, ⟨digits, hdigits, rfl⟩, hin⟩) (List.suffix_cons c s).isInfix

theorem escape_notMem (hdigits : ∀ c ∈ digits, isCodeChar c = true) :
    escape ∉ '[' :: digits ++ ['m'] := by
  have hno : escape ∉ digits := fun h => absurd (hdigits _ h) (by decide)
  simp only [List.mem_append, List.mem_cons, List.not_mem_nil, or_false, not_or]
  exact ⟨⟨by decide, hno⟩, by decide⟩

theorem pastCode?_append_escape {c : Char} (h : pastCode? (c :: s) = none) (r : List Char) :
    pastCode? (c :: s ++ escape :: r) = none := by
  cases hpast : pastCode? (c :: s ++ escape :: r) with
  | none => rfl
  | some rest =>
    obtain ⟨code, hcode, hs⟩ := pastCode?_eq_some_iff.mp hpast
    have hnot (bs : List Char) : c :: s ≠ code ++ bs := by
      intro hsplit
      rw [pastCode?_eq_some_iff.mpr ⟨code, hcode, hsplit⟩] at h
      cases h
    rcases List.append_eq_append_iff.mp hs with ⟨as, hover, has⟩ | ⟨bs, hwithin, -⟩
    · cases as with
      | nil => exact absurd (by rw [hover]; simp) (hnot [])
      | cons a as =>
        obtain rfl : escape = a := (List.cons.inj has).1
        obtain ⟨digits, hdigits, rfl⟩ := hcode
        have htail : '[' :: digits ++ ['m'] = s ++ escape :: as := (List.cons.inj hover).2
        have hin : escape ∈ '[' :: digits ++ ['m'] := by
          rw [htail]
          simp
        exact absurd hin (escape_notMem hdigits)
    · exact absurd hwithin (hnot bs)

theorem stripCodes_append_escape (s r : List Char) :
    stripCodes (s ++ escape :: r) = stripCodes s ++ stripCodes (escape :: r) := by
  induction s using strip_induction with
  | nil => rw [stripCodes_nil, List.nil_append, List.nil_append]
  | code code s hcode ih =>
    rw [List.append_assoc, stripCodes_code_append hcode, stripCodes_code_append hcode, ih]
  | char c s hnone ih =>
    have hlonger := pastCode?_append_escape hnone r
    rw [List.cons_append] at hlonger ⊢
    rw [stripCodes_cons hlonger, stripCodes_cons hnone, ih, List.cons_append]

theorem Stripped.stripCodes_append (h : Stripped s t) (ht : escape ∉ t) (rest : List Char) :
    stripCodes (s ++ rest) = t ++ stripCodes rest := by
  induction h with
  | nil => rfl
  | keep c _ ih =>
    rw [List.mem_cons, not_or] at ht
    rw [List.cons_append, stripCodes_cons (pastCode?_of_ne (Ne.symm ht.1) _), ih ht.2,
      List.cons_append]
  | drop hcode _ ih => rw [List.append_assoc, stripCodes_code_append hcode, ih ht]

theorem Stripped.exists_escape (h : Stripped s t) (hne : s ≠ t) :
    ∃ before after, s = before ++ escape :: after ∧ before ⊆ t := by
  induction h with
  | nil => exact absurd rfl hne
  | @keep c s t _ ih =>
    obtain ⟨before, after, rfl, hsub⟩ := ih fun h => hne (h ▸ rfl)
    exact ⟨c :: before, after, rfl, List.cons_subset_cons c hsub⟩
  | @drop code s t hcode _ _ =>
    obtain ⟨digits, -, rfl⟩ := hcode
    exact ⟨[], '[' :: digits ++ ['m'] ++ s, rfl, List.nil_subset _⟩

theorem pastCode?_interrupted (hdigits : ∀ c ∈ digits, isCodeChar c = true)
    (h : Stripped inner ('[' :: digits)) (hne : inner ≠ '[' :: digits) (rest : List Char) :
    pastCode? (escape :: (inner ++ 'm' :: rest)) = none := by
  cases hpast : pastCode? (escape :: (inner ++ 'm' :: rest)) with
  | none => rfl
  | some more =>
    obtain ⟨before, after, rfl, hsub⟩ := h.exists_escape hne
    obtain ⟨_, ⟨ds, hds, rfl⟩, hs⟩ := pastCode?_eq_some_iff.mp hpast
    -- Up to the first other character both readings agree, and there one has an escape, one an `m`.
    have within {ds : List Char} (hds : ∀ c ∈ ds, isCodeChar c = true) :
        ∀ c ∈ '[' :: ds, (c == '[' || isCodeChar c) = true := by
      intro c hc
      rcases List.mem_cons.mp hc with rfl | hc
      · rfl
      · rw [hds c hc, Bool.or_true]
    have hleft : (before ++ escape :: (after ++ 'm' :: rest)).dropWhile
        (fun c => c == '[' || isCodeChar c) = escape :: (after ++ 'm' :: rest) := by
      rw [List.dropWhile_append_of_pos fun c hc => within hdigits c (hsub hc)]
      exact List.dropWhile_cons_of_neg (by decide)
    have hright : ('[' :: ds ++ 'm' :: more).dropWhile (fun c => c == '[' || isCodeChar c) =
        'm' :: more := by
      rw [List.dropWhile_append_of_pos (within hds)]
      exact List.dropWhile_cons_of_neg (by decide)
    have hsame : before ++ escape :: (after ++ 'm' :: rest) = '[' :: ds ++ 'm' :: more := by
      simpa using (List.cons.inj hs).2
    rw [hsame, hright] at hleft
    exact absurd (List.cons.inj hleft).1 (by decide)

theorem hasCode_of_hasInterrupted (h : HasInterrupted s) : HasCode (stripCodes s) := by
  obtain ⟨_, ⟨inner, digits, hdigits, hinner, hne, rfl⟩, before, after, rfl⟩ := h
  have hno : escape ∉ '[' :: digits := fun hc =>
    escape_notMem hdigits (List.mem_append_left _ hc)
  have hnone := pastCode?_interrupted hdigits hinner hne after
  have hm : stripCodes ('m' :: after) = 'm' :: stripCodes after :=
    stripCodes_cons (pastCode?_of_ne (by decide) after)
  have htext : before ++ (escape :: inner ++ ['m']) ++ after =
      before ++ escape :: (inner ++ 'm' :: after) := by simp
  refine ⟨_, ⟨digits, hdigits, rfl⟩, stripCodes before, stripCodes after, ?_⟩
  rw [htext, stripCodes_append_escape, stripCodes_cons hnone, hinner.stripCodes_append hno, hm]
  simp

theorem hasCode_stripCodes_iff : HasCode (stripCodes s) ↔ HasInterrupted s :=
  ⟨hasInterrupted_of_hasCode, hasCode_of_hasInterrupted⟩

end

theorem hasInterrupted_cons {c : Char} (h : c ≠ escape) {s : List Char} :
    HasInterrupted (c :: s) ↔ HasInterrupted s := by
  constructor
  · rintro ⟨_, ⟨inner, digits, hdigits, hinner, hne, rfl⟩, hin⟩
    rcases List.infix_cons_iff.mp hin with ⟨after, hhead⟩ | hin
    · exact absurd (List.cons.inj hhead).1.symm h
    · exact ⟨_, ⟨inner, digits, hdigits, hinner, hne, rfl⟩, hin⟩
  · rintro ⟨part, hpart, hin⟩
    exact ⟨part, hpart, hin.trans (List.suffix_cons c s).isInfix⟩

theorem hasInterrupted_dressed (tone : Tone) (message : String) :
    HasInterrupted (tone.dressed message).toList ↔ HasInterrupted message.toList := by
  cases tone with
  | note =>
    have hfront : (Tone.dressed .note message).toList = '=' :: '>' :: ' ' :: message.toList := by
      rw [Tone.dressed, String.toList_append]
      rfl
    rw [hfront, hasInterrupted_cons (by decide), hasInterrupted_cons (by decide),
      hasInterrupted_cons (by decide)]
  | _ => rfl

/-- Away from a terminal every message is shown, in any colour and tone, as what is left of it when
whole codes are taken out in one pass; the line has a code in it just where the message has one that
is interrupted by others. -/
theorem line_hasCode_iff (message : String) :
    (∀ colour, ∃ text, line false message colour = .ok text ∧
      Stripped message.toList text.toList ∧
      (HasCode text.toList ↔ HasInterrupted message.toList)) ∧
    ∀ tone, ∃ text, toneLine false tone message = .ok text ∧
      Stripped (tone.dressed message).toList text.toList ∧
      (HasCode text.toList ↔ HasInterrupted message.toList) := by
  have hline (message : String) (colour : Option String) :
      line false message colour = .ok (.ofList (stripCodes message.toList)) := by
    cases colour <;> rfl
  have hstripped (message : String) :
      Stripped message.toList (String.ofList (stripCodes message.toList)).toList := by
    rw [String.toList_ofList]
    exact stripped_stripCodes message.toList
  have hcode (message : String) :
      HasCode (String.ofList (stripCodes message.toList)).toList ↔
        HasInterrupted message.toList := by
    rw [String.toList_ofList]
    exact hasCode_stripCodes_iff
  refine ⟨fun colour => ⟨_, hline message colour, hstripped message, hcode message⟩,
    fun tone => ⟨_, hline (tone.dressed message) (some tone.colour), hstripped _, ?_⟩⟩
  rw [hcode, hasInterrupted_dressed]

theorem line_shows_code :
    line false "\x1b[\x1b[0mm" (some "F00") = .ok "\x1b[m" ∧ HasCode "\x1b[m".toList :=
  ⟨by decide +kernel, _, ⟨[], nofun, rfl⟩, List.infix_rfl⟩

end StreamWatch.Console
