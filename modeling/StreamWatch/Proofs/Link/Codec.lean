import StreamWatch.Link.Query
import StreamWatch.Proofs.Text.Utf8

/-! Percent and form encoding, and their decoding. What is encoded consists of the characters that
are kept, percent signs and hexadecimal digits, so it is of ASCII and holds no separator; a query of
any parameters therefore decodes to just these. -/
namespace StreamWatch.Link

open Text (past? pieces upTo)

theorem bounds_of_isUnreserved {c : Char} (h : isUnreserved c = true) :
    0x2D ≤ c.toNat ∧ c.toNat < 0x7F := by
  change (((((((decide (65 ≤ c.val ∧ c.val ≤ 90)) ||
    (decide (97 ≤ c.val) && decide (c.val ≤ 122))) ||
    (decide (48 ≤ c.val) && decide (c.val ≤ 57))) ||
    c == '_') || c == '.') || c == '-') || c == '~') = true at h
  simp only [Bool.or_eq_true, Bool.and_eq_true, decide_eq_true_eq, beq_iff_eq,
    UInt32.le_iff_toNat_le] at h
  change (((((((65 ≤ c.toNat ∧ c.toNat ≤ 90) ∨ (97 ≤ c.toNat ∧ c.toNat ≤ 122)) ∨
    (48 ≤ c.toNat ∧ c.toNat ≤ 57)) ∨ c = '_') ∨ c = '.') ∨ c = '-') ∨ c = '~') at h
  rcases h with ((((h | rfl) | rfl) | rfl) | rfl)
  · omega
  all_goals decide

theorem isUnreserved_upperHexDigit {n : Nat} (h : n < 16) :
    isUnreserved (Text.upperHexDigit n) = true := by
  have all : ∀ m : Fin 16, isUnreserved (Text.upperHexDigit m) = true := by decide
  exact all ⟨n, h⟩

/-- The characters that may be kept beside the unreserved ones without harm to the decoding. -/
def Keepable (also : Char → Bool) : Prop := ∀ c, also c = true → isAscii c = true ∧ c ≠ '%'

theorem mem_escapeByte {b : UInt8} {c : Char} (h : c ∈ escapeByte b) :
    isUnreserved c = true ∨ c = '%' := by
  have hb := b.toNat_lt
  simp only [escapeByte, List.mem_cons, List.not_mem_nil, or_false] at h
  rcases h with rfl | rfl | rfl
  · exact .inr rfl
  · exact .inl (isUnreserved_upperHexDigit (by omega))
  · exact .inl (isUnreserved_upperHexDigit (by omega))

theorem mem_quote {also : Char → Bool} {s : List Char} {c : Char} (h : c ∈ quote also s) :
    isUnreserved c = true ∨ also c = true ∨ c = '%' := by
  obtain ⟨d, -, hd⟩ := List.mem_flatMap.mp h
  unfold quoteChar at hd
  split at hd
  · next hk =>
    rw [List.mem_singleton.mp hd]
    rw [Bool.or_eq_true] at hk
    exact hk.imp_right .inl
  · obtain ⟨b, -, hb⟩ := List.mem_flatMap.mp hd
    exact (mem_escapeByte hb).imp_right .inr

theorem isAscii_of_isUnreserved {c : Char} (h : isUnreserved c = true) : isAscii c = true := by
  have hb := bounds_of_isUnreserved h
  rw [isAscii, decide_eq_true_eq]
  omega

section

variable {also : Char → Bool}

theorem unescape_escapeByte (b : UInt8) (r : List Char) :
    unescape (escapeByte b ++ r) = b :: unescape r := by
  have hb := b.toNat_lt
  have hhigh := Text.hexValue?_upperHexDigit (n := b.toNat / 16) (by omega)
  have hlow := Text.hexValue?_upperHexDigit (n := b.toNat % 16) (by omega)
  have hwhole : b.toNat / 16 * 16 + b.toNat % 16 = b.toNat := by omega
  rw [escapeByte, List.cons_append, List.cons_append, List.cons_append, List.nil_append, unescape,
    hhigh, hlow]
  dsimp only
  rw [hwhole, UInt8.ofNat_toNat]

theorem unescape_escapeBytes (bytes : List UInt8) (r : List Char) :
    unescape (bytes.flatMap escapeByte ++ r) = bytes ++ unescape r := by
  induction bytes with
  | nil => rfl
  | cons b bytes ih =>
    rw [List.flatMap_cons, List.append_assoc, unescape_escapeByte, ih, List.cons_append]

theorem unescape_cons {c : Char} (h : c ≠ '%') (r : List Char) :
    unescape (c :: r) = .ofNat c.toNat :: unescape r := by
  rw [unescape]
  exact fun _ _ _ he _ => h he

theorem unescape_quoteChar (hk : Keepable also) (c : Char) (r : List Char) :
    unescape (quoteChar also c ++ r) = Text.Utf8.encodeChar c ++ unescape r := by
  unfold quoteChar
  split
  · next h =>
    have hc : isAscii c = true ∧ c ≠ '%' := by
      rcases Bool.or_eq_true _ _ ▸ h with hu | ha
      · refine ⟨isAscii_of_isUnreserved hu, ?_⟩
        rintro rfl
        exact absurd hu (by decide)
      · exact hk c ha
    have hn : c.toNat < 0x80 := of_decide_eq_true hc.1
    rw [List.singleton_append, unescape_cons hc.2, Text.Utf8.encodeChar, if_pos hn]
    rfl
  · exact unescape_escapeBytes _ r

theorem unescape_quote (hk : Keepable also) (s : List Char) :
    unescape (quote also s) = Text.Utf8.encode s := by
  unfold quote Text.Utf8.encode
  induction s with
  | nil => rfl
  | cons c r ih => rw [List.flatMap_cons, List.flatMap_cons, unescape_quoteChar hk, ih]

theorem unquoteFrom_of_ascii {s : List Char} (h : ∀ c ∈ s, isAscii c = true) (run : List Char) :
    unquoteFrom run s = Text.Utf8.decode (unescape (run.reverse ++ s)) := by
  induction s generalizing run with
  | nil => rw [unquoteFrom, List.append_nil]
  | cons c r ih =>
    have hc := h c List.mem_cons_self
    have hr := ih (fun d hd => h d (List.mem_cons_of_mem c hd)) (c :: run)
    rw [unquoteFrom, if_pos hc, hr, List.reverse_cons, List.append_assoc, List.singleton_append]

theorem isAscii_of_mem_quote (hk : Keepable also) {s : List Char} {c : Char}
    (h : c ∈ quote also s) : isAscii c = true := by
  rcases mem_quote h with h | h | rfl
  · exact isAscii_of_isUnreserved h
  · exact (hk c h).1
  · rfl

/-- A quoted text is unquoted to what it was, whatever characters were kept. -/
theorem unquote_quote (hk : Keepable also) (s : List Char) : unquote (quote also s) = s := by
  have h := unquoteFrom_of_ascii (fun c => isAscii_of_mem_quote hk (s := s)) []
  rw [unquote, h, List.reverse_nil, List.nil_append, unescape_quote hk, Text.Utf8.decode_encode]

end

namespace Params

def isKept (c : Char) : Bool := c == '*' || c == ' '

theorem keepable_isKept : Keepable isKept := by
  intro c h
  rcases (by simpa [isKept] using h : c = '*' ∨ c = ' ') with rfl | rfl
  · decide
  · decide

theorem mem_encodePiece {s : List Char} {c : Char} (h : c ∈ encodePiece s) :
    isUnreserved c = true ∨ c = '*' ∨ c = '+' ∨ c = '%' := by
  obtain ⟨d, hd, rfl⟩ := List.mem_map.mp h
  rcases mem_quote hd with hd | hd | rfl
  · left
    split
    · next hs =>
      rw [hs] at hd
      exact absurd hd (by decide)
    · exact hd
  · rcases (by simpa using hd : d = '*' ∨ d = ' ') with rfl | rfl
    · exact .inr (.inl rfl)
    · exact .inr (.inr (.inl rfl))
  · exact .inr (.inr (.inr rfl))

theorem decodePiece_quote {also : Char → Bool} (hk : Keepable also) (hp : also '+' = false)
    (s : List Char) : decodePiece (quote also s) = s := by
  have hmap : (quote also s).map (fun c => if c = '+' then ' ' else c) = quote also s := by
    refine (List.map_congr_left fun c hc => ?_).trans (List.map_id _)
    refine if_neg ?_
    rintro rfl
    rcases mem_quote hc with h | h | h
    · exact absurd h (by decide)
    · rw [hp] at h
      cases h
    · exact absurd h (by decide)
  rw [decodePiece, hmap, unquote_quote hk]

theorem decodePiece_encodePiece (s : List Char) : decodePiece (encodePiece s) = s := by
  have hmap : (encodePiece s).map (fun c => if c = '+' then ' ' else c) = quote isKept s := by
    rw [encodePiece, List.map_map]
    refine (List.map_congr_left fun c hc => ?_).trans (List.map_id _)
    -- A plus sign that is kept would come back as a blank.
    have hplus : c ≠ '+' := by
      rintro rfl
      rcases mem_quote hc with h | h | h
      · exact absurd h (by decide)
      · exact absurd h (by decide)
      · exact absurd h (by decide)
    by_cases hs : c = ' '
    · simp [hs]
    · simp [hs, hplus]
  rw [decodePiece, hmap, unquote_quote keepable_isKept]

theorem decodePair_append {name : List Char} (h : '=' ∉ name) (value : List Char) :
    decodePair (name ++ '=' :: value) =
      (.ofList (decodePiece name), .ofList (decodePiece value)) := by
  rw [decodePair, Text.upTo_append h, Text.past?_append h, Option.getD_some]

theorem notMem_encodePiece {c : Char} (hu : isUnreserved c = false) (h : c ∉ ['*', '+', '%'])
    (s : List Char) : c ∉ encodePiece s := by
  intro hc
  rcases mem_encodePiece hc with hc | hc
  · rw [hu] at hc
    cases hc
  · exact h (by simpa using hc)

theorem decodePair_encodePair (p : String × String) : decodePair (encodePair p) = p := by
  rw [encodePair, decodePair_append (notMem_encodePiece (by decide) (by decide) _),
    decodePiece_encodePiece, decodePiece_encodePiece, String.ofList_toList, String.ofList_toList]

theorem mem_encodePair {p : String × String} {c : Char} (h : c ∈ encodePair p) :
    isUnreserved c = true ∨ c = '*' ∨ c = '+' ∨ c = '%' ∨ c = '=' := by
  have hp {s : List Char} (hs : c ∈ encodePiece s) :
      isUnreserved c = true ∨ c = '*' ∨ c = '+' ∨ c = '%' ∨ c = '=' := by
    rcases mem_encodePiece hs with h | h | h | h
    · exact .inl h
    · exact .inr (.inl h)
    · exact .inr (.inr (.inl h))
    · exact .inr (.inr (.inr (.inl h)))
  rw [encodePair, List.mem_append, List.mem_cons] at h
  rcases h with h | h | h
  · exact hp h
  · exact .inr (.inr (.inr (.inr h)))
  · exact hp h

theorem decode_intercalate {p : List Char} {ps : List (List Char)}
    (h : ∀ q ∈ p :: ps, '&' ∉ q ∧ q ≠ []) :
    decode (['&'].intercalate (p :: ps)) = (p :: ps).map decodePair := by
  have hfilter : (p :: ps).filter (· ≠ []) = p :: ps :=
    List.filter_eq_self.mpr fun q hq => decide_eq_true (h q hq).2
  rw [decode, Text.pieces_intercalate fun q hq => (h q hq).1, hfilter]

theorem encodePair_separate {params : Params} {q : List Char} (h : q ∈ params.map encodePair) :
    '&' ∉ q ∧ q ≠ [] := by
  obtain ⟨p, -, rfl⟩ := List.mem_map.mp h
  refine ⟨fun h => ?_, by simp [encodePair]⟩
  rcases mem_encodePair h with h | h
  · exact absurd h (by decide)
  · exact absurd h (by decide)

theorem map_decodePair_encodePair (params : Params) :
    (params.map encodePair).map decodePair = params := by
  rw [List.map_map]
  exact (List.map_congr_left fun p _ => decodePair_encodePair p).trans (List.map_id _)

theorem mem_encode {params : Params} {c : Char} (h : c ∈ params.encode) :
    isUnreserved c = true ∨ c ∈ ['*', '+', '%', '=', '&'] := by
  rcases Text.mem_intercalate h with rfl | ⟨piece, hpiece, hc⟩
  · exact .inr (by decide)
  · obtain ⟨p, -, rfl⟩ := List.mem_map.mp hpiece
    rcases mem_encodePair hc with hc | hc | hc | hc | hc
    · exact .inl hc
    all_goals
      rw [hc]
      exact .inr (by decide)

theorem decode_encode (params : Params) : decode params.encode = params := by
  cases params with
  | nil => rfl
  | cons p ps =>
    have h : ∀ q ∈ encodePair p :: ps.map encodePair, '&' ∉ q ∧ q ≠ [] :=
      fun q hq => @encodePair_separate (p :: ps) q hq
    rw [encode, List.map_cons, decode_intercalate h, ← List.map_cons, map_decodePair_encodePair]

end Params
end StreamWatch.Link
