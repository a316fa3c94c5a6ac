import Mathlib.Data.Nat.Digits.Defs
import StreamWatch.Proofs.Numeral.Layout
import StreamWatch.Text.Pieces

/-! Which texts are whole numbers. A literal is an optional sign and decimal digits of any script,
in groups parted by single underscores, between blanks other than the information separators. Those
within the digit limit are read, and nothing else is. -/
namespace StreamWatch.Numeral

open Text (digitValue? pieces)

theorem plainChar_cases (c : Char) :
    (c.toNat < 0x7F ∧ plainChar c = c) ∨
    (0x7F ≤ c.toNat ∧ Text.isBlank c = true ∧ plainChar c = ' ') ∨
    (0x7F ≤ c.toNat ∧ Text.isBlank c = false ∧
      ((∃ d < 10, digitValue? c = some d ∧ plainChar c = Char.ofNat (0x30 + d)) ∨
        digitValue? c = none ∧ plainChar c = '?')) := by
  rw [plainChar]
  by_cases low : c.toNat < 0x7F
  · simp [low]
  · have high : 0x7F ≤ c.toNat := by omega
    cases blank : Text.isBlank c with
    | true => simp [low, high]
    | false =>
      cases value : digitValue? c with
      | none => simp [low, high]
      | some d => simp [low, high, Text.digitValue?_lt value]

def IsMargin (c : Char) : Prop := Text.isBlank c = true ∧ ¬(0x1C ≤ c.toNat ∧ c.toNat ≤ 0x1F)

instance : DecidablePred IsMargin := fun _ => inferInstanceAs (Decidable (_ ∧ _))

theorem isAsciiBlank_plainChar_iff {c : Char} :
    Text.isAsciiBlank (plainChar c) = true ↔ IsMargin c := by
  rcases plainChar_cases c with
    ⟨low, hp⟩ | ⟨high, blank, hp⟩ | ⟨high, blank, ⟨d, hd, -, hp⟩ | ⟨-, hp⟩⟩
  · have space : c = ' ' ↔ c.toNat = 0x20 := by
      rw [← Char.toNat_inj]
      rfl
    simp only [hp, IsMargin, Text.isAsciiBlank, Text.isBlank, Bool.or_eq_true, Bool.and_eq_true,
      decide_eq_true_eq, beq_iff_eq, space]
    omega
  · have : ¬c.toNat ≤ 0x1F := by omega
    simp [hp, IsMargin, blank, this, Text.isAsciiBlank]
  · have all : ∀ d : Fin 10, Text.isAsciiBlank (Char.ofNat (0x30 + d)) = false := by decide
    simp [hp, IsMargin, blank, all ⟨d, hd⟩]
  · simp [hp, IsMargin, blank, Text.isAsciiBlank]

theorem digitValue?_of_isBlank {c : Char} (h : Text.isBlank c = true) : digitValue? c = none := by
  have codes : c.toNat ∈ List.range' 0x09 5 ++ List.range' 0x1C 5 ++ List.range' 0x2000 11 ++
      [0x85, 0xA0, 0x1680, 0x2028, 0x2029, 0x202F, 0x205F, 0x3000] := by
    simp only [Text.isBlank, Bool.or_eq_true, Bool.and_eq_true, decide_eq_true_eq,
      beq_iff_eq] at h
    simp only [List.mem_append, List.mem_range'_1, List.mem_cons, List.not_mem_nil, or_false]
    omega
  have all : ∀ n ∈ List.range' 0x09 5 ++ List.range' 0x1C 5 ++ List.range' 0x2000 11 ++
      [0x85, 0xA0, 0x1680, 0x2028, 0x2029, 0x202F, 0x205F, 0x3000],
      (Text.digitZeros.find? fun z => z ≤ n && n < z + 10) = none := by decide
  rw [digitValue?, all _ codes, Option.map_none]

theorem digit?_plainChar (c : Char) : Integer.digit? 10 (plainChar c) = digitValue? c := by
  rcases plainChar_cases c with
    ⟨low, hp⟩ | ⟨high, blank, hp⟩ | ⟨high, blank, ⟨d, hd, hv, hp⟩ | ⟨hv, hp⟩⟩
  · have all : ∀ n : Fin 0x7F, Integer.digit? 10 (Char.ofNat n) = digitValue? (Char.ofNat n) := by
      decide
    rw [hp]
    simpa using all ⟨c.toNat, low⟩
  · rw [hp, digitValue?_of_isBlank blank]
    rfl
  · have all : ∀ d : Fin 10, Integer.digit? 10 (Char.ofNat (0x30 + d)) = some d.val := by decide
    rw [hp, hv]
    exact all ⟨d, hd⟩
  · rw [hp, hv]
    rfl

theorem plainChar_eq_iff {c m : Char} (hm : m ∈ ['+', '-', '_']) : plainChar c = m ↔ c = m := by
  obtain ⟨space, unknown, ascii, digit⟩ : m ≠ ' ' ∧ m ≠ '?' ∧ m.toNat < 0x7F ∧
      ∀ d : Fin 10, Char.ofNat (0x30 + d) ≠ m := by
    simp only [List.mem_cons, List.not_mem_nil, or_false] at hm
    rcases hm with rfl | rfl | rfl <;> decide
  rcases plainChar_cases c with ⟨-, hp⟩ | ⟨high, -, hp⟩ | ⟨high, -, ⟨d, hd, -, hp⟩ | ⟨-, hp⟩⟩
  · rw [hp]
  all_goals
    have other : c ≠ m := by
      rintro rfl
      omega
    simp only [hp, other, iff_false]
  · exact space.symm
  · exact digit ⟨d, hd⟩
  · exact unknown.symm

namespace Integer

def Grouped (s : List Char) : Prop :=
  ∀ g ∈ pieces '_' s, g ≠ [] ∧ ∀ c ∈ g, (digitValue? c).isSome = true

def digitsOf (s : List Char) : List Nat := s.filterMap digitValue?

inductive Sign : List Char → Nat → Int → Prop
  | none (m : Nat) : Sign [] m m
  | plus (m : Nat) : Sign ['+'] m m
  | minus (m : Nat) : Sign ['-'] m (-m)

inductive Literal : List Char → Int → Prop
  | intro {left sign digits right : List Char} {n : Int}
      (left_margin : ∀ c ∈ left, IsMargin c) (right_margin : ∀ c ∈ right, IsMargin c)
      (grouped : Grouped digits) (short : (digitsOf digits).length ≤ Fault.digitLimit)
      (signed : Sign sign (Nat.ofDigits 10 (digitsOf digits).reverse) n) :
      Literal (left ++ (sign ++ digits) ++ right) n

def Continued (owed : Bool) (s : List Char) : Prop :=
  ∃ g gs, pieces '_' s = g :: gs ∧ (owed = true → g ≠ []) ∧
    (∀ c ∈ g, (digitValue? c).isSome = true) ∧
    ∀ g ∈ gs, g ≠ [] ∧ ∀ c ∈ g, (digitValue? c).isSome = true

theorem continued_true_iff {s : List Char} : Continued true s ↔ Grouped s := by
  obtain ⟨g, gs, hs⟩ := List.exists_cons_of_ne_nil (Text.pieces_ne_nil '_' s)
  simp [Continued, Grouped, hs, and_assoc]

theorem continued_nil_iff {owed : Bool} : Continued owed [] ↔ owed = false := by
  cases owed <;> simp [Continued, pieces]

theorem continued_underscore_iff {owed : Bool} {s : List Char} :
    Continued owed ('_' :: s) ↔ owed = false ∧ Continued true s := by
  rw [continued_true_iff]
  cases owed <;> simp [Continued, Grouped, pieces]

theorem continued_cons_iff {owed : Bool} {c : Char} {s : List Char} (hc : c ≠ '_') :
    Continued owed (c :: s) ↔ (digitValue? c).isSome = true ∧ Continued false s := by
  obtain ⟨g, gs, hs⟩ := List.exists_cons_of_ne_nil (Text.pieces_ne_nil '_' s)
  simp [Continued, pieces, hc, hs, and_assoc]

theorem run?_eq_some_iff {s : List Char} {value count : Nat} {owed : Bool} {v k : Nat} :
    run? 10 value count owed (s.map plainChar) = some ⟨v, k, []⟩ ↔
      Continued owed s ∧ v = (digitsOf s).foldl (fun n d => n * 10 + d) value ∧
        k = count + (digitsOf s).length := by
  induction s generalizing value count owed with
  | nil => cases owed <;> simp [run?, continued_nil_iff, digitsOf, eq_comm]
  | cons c r ih =>
    have mark : plainChar c = '_' ↔ c = '_' := plainChar_eq_iff (by simp)
    rw [List.map_cons, run?, digit?_plainChar]
    by_cases hc : c = '_'
    · have none : digitValue? '_' = none := by decide
      rw [if_pos (mark.mpr hc)]
      subst hc
      cases owed <;> simp [continued_underscore_iff, ih, digitsOf, none]
    · rw [continued_cons_iff hc, if_neg (mt mark.mp hc)]
      cases hd : digitValue? c with
      | none => cases owed <;> simp
      | some d =>
        simp only [ih, digitsOf, hd, List.filterMap_cons, List.foldl_cons, List.length_cons,
          Option.isSome_some, true_and]
        rw [Nat.add_right_comm, Nat.add_assoc]

theorem foldl_digits (ds : List Nat) :
    ds.foldl (fun n d => n * 10 + d) 0 = Nat.ofDigits 10 ds.reverse := by
  rw [Nat.ofDigits_eq_foldr, List.foldr_reverse]
  congr 1
  funext n d
  simp [Nat.mul_comm, Nat.add_comm]

theorem pastRadix_ten (s : List Char) : pastRadix 10 s = s := by
  rw [pastRadix.eq_def]
  split <;> simp

def core (s : List Char) : List Char := Text.trimOf (Text.isAsciiBlank ∘ plainChar) s

theorem plain_eq (s : List Char) : plain s = (core s).map plainChar := by
  rw [plain, Text.trimOf_map, core]

theorem exists_core (s : List Char) : ∃ left right, s = left ++ core s ++ right ∧
    (∀ c ∈ left, IsMargin c) ∧ ∀ c ∈ right, IsMargin c := by
  obtain ⟨left, right, hs, hleft, hright⟩ := Text.exists_trimOf (Text.isAsciiBlank ∘ plainChar) s
  exact ⟨left, right, hs, fun c hc => isAsciiBlank_plainChar_iff.mp (hleft c hc),
    fun c hc => isAsciiBlank_plainChar_iff.mp (hright c hc)⟩

theorem core_append {left s right : List Char} (hleft : ∀ c ∈ left, IsMargin c)
    (hright : ∀ c ∈ right, IsMargin c) (hs : ∀ c ∈ s, ¬IsMargin c) :
    core (left ++ s ++ right) = s := by
  simp only [← isAsciiBlank_plainChar_iff] at hleft hright hs
  exact (Text.trimOf_append hleft hright _).trans (Text.trimOf_of_forall (by simpa using hs))

theorem exists_signed (s : List Char) : ∃ negative sign rest, s = sign ++ rest ∧
    signed (s.map plainChar) = (negative, rest.map plainChar) ∧
    ∀ m : Nat, Sign sign m (if negative then -(m : Int) else m) := by
  cases s with
  | nil => exact ⟨false, [], [], rfl, rfl, .none⟩
  | cons c r =>
    by_cases minus : c = '-'
    · subst minus
      exact ⟨true, ['-'], r, rfl, rfl, .minus⟩
    by_cases plus : c = '+'
    · subst plus
      exact ⟨false, ['+'], r, rfl, rfl, .plus⟩
    have minus' : plainChar c ≠ '-' := mt (plainChar_eq_iff (by simp)).mp minus
    have plus' : plainChar c ≠ '+' := mt (plainChar_eq_iff (by simp)).mp plus
    exact ⟨false, [], c :: r, rfl, by simp [signed, minus', plus'], .none⟩

theorem not_isMargin_of_isSome {c : Char} (h : (digitValue? c).isSome = true) : ¬IsMargin c := by
  rintro ⟨blank, -⟩
  simp [digitValue?_of_isBlank blank] at h

theorem Grouped.isSome_or_eq {s : List Char} (h : Grouped s) :
    ∀ c ∈ s, (digitValue? c).isSome = true ∨ c = '_' := by
  intro c hc
  rw [← Text.intercalate_pieces '_' s] at hc
  rcases Text.mem_intercalate hc with rfl | ⟨g, hg, hc⟩
  · exact .inr rfl
  · exact .inl ((h g hg).2 c hc)

theorem Grouped.exists_cons {s : List Char} (h : Grouped s) :
    ∃ c r, s = c :: r ∧ (digitValue? c).isSome = true := by
  cases s with
  | nil => simp [Grouped, pieces] at h
  | cons c r =>
    refine ⟨c, r, rfl, (h.isSome_or_eq c (by simp)).resolve_right ?_⟩
    rintro rfl
    simp [Grouped, pieces] at h

theorem signed_of_sign {sign digits : List Char} {m : Nat} {n : Int} (h : Sign sign m n)
    (grouped : Grouped digits) : ∃ negative,
      signed ((sign ++ digits).map plainChar) = (negative, digits.map plainChar) ∧
      n = if negative then -(m : Int) else m := by
  obtain ⟨c, r, rfl, hc⟩ := grouped.exists_cons
  cases h with
  | none =>
    have other (x : Char) (hx : x ∈ ['+', '-', '_']) (hd : digitValue? x = none) :
        plainChar c ≠ x := by
      rw [ne_eq, plainChar_eq_iff hx]
      rintro rfl
      simp [hd] at hc
    exact ⟨false,
      by simp [signed, other '+' (by simp) (by decide), other '-' (by simp) (by decide)],
      rfl⟩
  | plus => exact ⟨false, rfl, rfl⟩
  | minus => exact ⟨true, rfl, rfl⟩

theorem Sign.not_isMargin {sign : List Char} {m : Nat} {n : Int} (h : Sign sign m n) :
    ∀ c ∈ sign, ¬IsMargin c := by
  cases h with
  | none => simp
  | plus => exact List.forall_mem_singleton.mpr (by decide)
  | minus => exact List.forall_mem_singleton.mpr (by decide)

theorem read_of_literal {s : List Char} {n : Int} (h : Literal s n) : read 10 s = .ok n := by
  cases h with
  | @intro left sign digits right _ hleft hright grouped short hsign =>
    have underscore : ¬IsMargin '_' := by decide
    have inner : ∀ c ∈ sign ++ digits, ¬IsMargin c := by
      intro c hc
      rcases List.mem_append.mp hc with hc | hc
      · exact hsign.not_isMargin c hc
      · rcases grouped.isSome_or_eq c hc with hd | rfl
        · exact not_isMargin_of_isSome hd
        · exact underscore
    obtain ⟨negative, hsigned, hn⟩ := signed_of_sign hsign grouped
    have hrun : run? 10 0 0 true (digits.map plainChar) =
        some ⟨Nat.ofDigits 10 (digitsOf digits).reverse, (digitsOf digits).length, []⟩ :=
      run?_eq_some_iff.mpr ⟨continued_true_iff.mpr grouped, (foldl_digits _).symm, by simp⟩
    simp only [read, plain_eq, core_append hleft hright inner, hsigned, pastRadix_ten, hrun]
    simp [Nat.not_lt.mpr short, hn]

theorem Literal.exists_digit {s : List Char} {n : Int} (h : Literal s n) :
    ∃ c ∈ s, (digitValue? c).isSome = true := by
  cases h with
  | intro _ _ grouped _ _ =>
    obtain ⟨c, r, rfl, hc⟩ := grouped.exists_cons
    exact ⟨c, by simp, hc⟩

theorem Literal.notMem {s : List Char} {n : Int} (h : Literal s n) {c : Char}
    (margin : ¬IsMargin c) (mark : c ∉ ['+', '-', '_']) (digit : digitValue? c = none) :
    c ∉ s := by
  cases h with
  | @intro left sign digits right _ hleft hright grouped _ hsign =>
    have notSign : c ∉ sign := by
      cases hsign <;> simp_all
    have notDigits : c ∉ digits := by
      intro hc
      rcases grouped.isSome_or_eq c hc with hd | rfl
      · simp [digit] at hd
      · simp at mark
    have notLeft : c ∉ left := fun hc => margin (hleft c hc)
    have notRight : c ∉ right := fun hc => margin (hright c hc)
    simp [notLeft, notSign, notDigits, notRight]

theorem literal_of_read {s : List Char} {n : Int} (h : read 10 s = .ok n) : Literal s n := by
  obtain ⟨left, right, hs, hleft, hright⟩ := exists_core s
  obtain ⟨negative, sign, digits, hcore, hsigned, hsign⟩ := exists_signed (core s)
  simp only [read, plain_eq, hsigned, pastRadix_ten] at h
  cases hrun : run? 10 0 0 true (digits.map plainChar) with
  | none => simp [hrun] at h
  | some run =>
    obtain ⟨v, k, rest⟩ := run
    simp only [hrun] at h
    split at h
    · cases h
    next short =>
      split at h
      next none =>
        subst none
        obtain ⟨continued, rfl, rfl⟩ := run?_eq_some_iff.mp hrun
        rw [hs, hcore]
        cases h
        rw [foldl_digits]
        refine .intro hleft hright (continued_true_iff.mp continued) ?_ (hsign _)
        simpa using short
      · cases h

theorem read_ok_iff {s : List Char} {n : Int} : read 10 s = .ok n ↔ Literal s n :=
  ⟨literal_of_read, read_of_literal⟩

theorem read_error_iff {s : List Char} :
    (∃ fault, read 10 s = .error fault) ↔ ∀ n, ¬Literal s n := by
  simp only [← read_ok_iff]
  cases h : read 10 s <;> simp

theorem eq_of_read_error {s : List Char} {fault : Fault} (h : read 10 s = .error fault) :
    fault = .notAnInteger 10 (.ofList s) ∨ ∃ count, fault = .tooManyDigits count := by
  simp only [read] at h
  split at h
  · cases h
    exact .inl rfl
  · split at h
    · cases h
      exact .inr ⟨_, rfl⟩
    · split at h <;> cases h
      exact .inl rfl

theorem digitValue?_of_isDigit {c : Char} (h : c.isDigit = true) :
    digitValue? c = some (c.toNat - '0'.toNat) := by
  obtain ⟨low, high⟩ := Char.isDigit_iff_toNat.mp h
  have below : c.toNat < 0x30 + 10 := by
    have : c.toNat ≤ 0x39 := high
    omega
  have zero : 0x30 ≤ c.toNat := low
  simp [digitValue?, Text.digitZeros, zero, below]

theorem digitsOf_of_isDigit {s : List Char} (h : ∀ c ∈ s, c.isDigit = true) :
    digitsOf s = s.map fun c => c.toNat - '0'.toNat := by
  induction s with
  | nil => rfl
  | cons c r ih =>
    rw [List.forall_mem_cons] at h
    rw [digitsOf, List.filterMap_cons_some (digitValue?_of_isDigit h.1), ← digitsOf, ih h.2,
      List.map_cons]

theorem digitsOf_writeNat (n : Nat) :
    digitsOf (writeNat n) = (writeNat n).map fun c => c.toNat - '0'.toNat :=
  digitsOf_of_isDigit fun _ => isDigit_of_mem_writeNat

theorem ofDigits_writeNat (n : Nat) : Nat.ofDigits 10 (digitsOf (writeNat n)).reverse = n := by
  have read : Nat.ofDigitChars 10 (writeNat n) 0 = n := Nat.ofDigitChars_ten_toDigits
  rw [← foldl_digits, digitsOf_writeNat, List.foldl_map]
  simpa only [Nat.ofDigitChars_eq_foldl, Nat.mul_comm 10] using read

theorem length_digitsOf_writeNat {n : Nat} (h : n < Nat.pow 10 Fault.digitLimit) :
    (digitsOf (writeNat n)).length ≤ Fault.digitLimit := by
  have limit : 0 < Fault.digitLimit := by decide
  generalize Fault.digitLimit = limit at *
  rw [digitsOf_writeNat, List.length_map]
  exact (Nat.length_toDigits_le_iff (by decide) limit).mpr h

theorem grouped_writeNat (n : Nat) : Grouped (writeNat n) := by
  obtain ⟨c, r, hn, hc, hr⟩ := writeNat_eq_cons n
  have whole : pieces '_' (writeNat n) = [writeNat n] := by
    apply Text.pieces_of_notMem
    intro h
    simpa using isDigit_of_mem_writeNat h
  intro g hg
  rw [whole, List.mem_singleton] at hg
  subst hg
  refine ⟨by simp [hn], fun c hc => ?_⟩
  simp [digitValue?_of_isDigit (isDigit_of_mem_writeNat hc)]

theorem literal_write {left right : List Char} {n : Int} (hleft : ∀ c ∈ left, IsMargin c)
    (hright : ∀ c ∈ right, IsMargin c) (h : isWritable n = true) :
    Literal (left ++ write n ++ right) n := by
  have short : n.natAbs < Nat.pow 10 Fault.digitLimit := of_decide_eq_true h
  have written (m : Nat) {sign : List Char} (hm : m < Nat.pow 10 Fault.digitLimit) {k : Int}
      (hk : Sign sign m k) : Literal (left ++ (sign ++ writeNat m) ++ right) k :=
    .intro hleft hright (grouped_writeNat m) (length_digitsOf_writeNat hm)
      (by rwa [ofDigits_writeNat])
  cases n with
  | ofNat m => exact written m short (.none m)
  | negSucc m => exact written (m + 1) short (.minus (m + 1))

end Integer

end StreamWatch.Numeral
