import StreamWatch.Json.Printer
import StreamWatch.Json.Reader

/-! Texts in quotes read back. The reader sees the UTF-16 units of a character, in whichever way it
was written, and joins the halves of a split one again. -/
namespace StreamWatch.Json

def units (c : Char) : List Nat :=
  if c.toNat < 0x10000 then [c.toNat]
  else [0xD800 + (c.toNat - 0x10000) / 0x400, 0xDC00 + (c.toNat - 0x10000) % 0x400]

theorem not_surrogate (c : Char) : c.toNat < 0xD800 ∨ 0xE000 ≤ c.toNat := by
  rcases c.valid with h | h
  · exact .inl h
  · exact .inr (by have := h.1; unfold Char.toNat; omega)

theorem toNat_lt (c : Char) : c.toNat < 0x110000 := by
  rcases c.valid with h | h
  · exact Nat.lt_trans h (by decide)
  · exact h.2

theorem codes?_unitEscape {n : Nat} (h : n < 0x10000) (t : List Char) :
    codes? (unitEscape n ++ t) = (codes? t).map fun (ns, rest) => (n :: ns, rest) := by
  have hunit : unit? (Text.hexDigit (n / 16 / 16 / 16 % 16)) (Text.hexDigit (n / 16 / 16 % 16))
      (Text.hexDigit (n / 16 % 16)) (Text.hexDigit (n % 16)) = some n := by
    have hn : ((n / 16 / 16 / 16 % 16 * 16 + n / 16 / 16 % 16) * 16 + n / 16 % 16) * 16 + n % 16 =
        n := by omega
    simp [unit?, Text.hexValue?_hexDigit, Nat.mod_lt, hn]
  simp only [unitEscape, Text.hexDigits, List.nil_append, List.cons_append]
  rw [codes?, hunit]
  cases codes? t with
  | none => rfl
  | some p => rfl

theorem codes?_short {d : Char} {n : Nat} (hu : d ≠ 'u') (hd : escaped? d = some n)
    (t : List Char) :
    codes? ('\\' :: d :: t) = (codes? t).map fun (ns, rest) => (n :: ns, rest) := by
  rw [codes?, hd]
  · cases codes? t with
    | none => rfl
    | some p => rfl
  · intro _ _ _ _ _ h
    exact absurd h hu

theorem codes?_plain {c : Char} (hq : c ≠ '\x22') (hb : c ≠ '\\') (hc : 0x20 ≤ c.toNat)
    (t : List Char) :
    codes? (c :: t) = (codes? t).map fun (ns, rest) => (c.toNat :: ns, rest) := by
  rw [codes?.eq_def]
  split
  · contradiction
  · simp_all
  · simp_all
  · next c' r h =>
    cases h
    rw [if_neg hq, if_neg (Nat.not_lt.mpr hc)]

inductive Written (c : Char) : List Char → Prop
  | short {d : Char} (hu : d ≠ 'u') (hd : d.toNat < 0x80) (read : escaped? d = some c.toNat)
      (small : c.toNat < 0x10000) : Written c ['\\', d]
  | plain (hq : c ≠ '\x22') (hb : c ≠ '\\') (low : 0x20 ≤ c.toNat) (high : c.toNat < 0x7F) :
      Written c [c]
  | unit (small : c.toNat < 0x10000) : Written c (unitEscape c.toNat)
  | pair (large : 0x10000 ≤ c.toNat) :
      Written c (unitEscape (0xD800 + (c.toNat - 0x10000) / 0x400) ++
        unitEscape (0xDC00 + (c.toNat - 0x10000) % 0x400))

theorem written_escapeChar (c : Char) : Written c (escapeChar c) := by
  by_cases short : c ∈ ['\x22', '\\', '\n', '\r', '\t', '\x08', '\x0c']
  · simp only [List.mem_cons, List.not_mem_nil, or_false] at short
    rcases short with rfl | rfl | rfl | rfl | rfl | rfl | rfl <;>
      exact .short (by decide) (by decide) rfl (by decide)
  simp only [List.mem_cons, List.not_mem_nil, or_false, not_or] at short
  obtain ⟨hq, hb, hn, hr, ht, hbs, hf⟩ := short
  simp only [escapeChar, hq, hb, hn, hr, ht, hbs, hf, if_false]
  by_cases plain : 0x20 ≤ c.toNat ∧ c.toNat < 0x7F
  · rw [if_pos plain]
    exact .plain hq hb plain.1 plain.2
  rw [if_neg plain]
  by_cases small : c.toNat < 0x10000
  · rw [if_pos small]
    exact .unit small
  · rw [if_neg small]
    exact .pair (Nat.le_of_not_lt small)

theorem codes?_escapeChar (c : Char) (t : List Char) :
    codes? (escapeChar c ++ t) = (codes? t).map fun (ns, rest) => (units c ++ ns, rest) := by
  have hlt := toNat_lt c
  have one (h : c.toNat < 0x10000) : units c = [c.toNat] := if_pos h
  have written := written_escapeChar c
  generalize escapeChar c = s at written ⊢
  cases written with
  | short hu hd read small =>
    rw [one small]
    exact codes?_short hu read t
  | plain hq hb low high =>
    rw [one (by omega)]
    exact codes?_plain hq hb low t
  | unit small =>
    rw [one small]
    exact codes?_unitEscape small t
  | pair large =>
    rw [units, if_neg (Nat.not_lt.mpr large), List.append_assoc, codes?_unitEscape (by omega),
      codes?_unitEscape (by omega), Option.map_map]
    rfl

theorem codes?_flatMap (s t : List Char) :
    codes? (s.flatMap escapeChar ++ '\x22' :: t) = some (s.flatMap units, t) := by
  induction s with
  | nil => simp [codes?]
  | cons c s ih =>
    rw [List.flatMap_cons, List.append_assoc, codes?_escapeChar, ih]
    rfl

theorem joinUnits?_single {n : Nat} (hn : n < 0xD800 ∨ 0xE000 ≤ n) (ns : List Nat) :
    joinUnits? (n :: ns) = (joinUnits? ns).map (Char.ofNat n :: ·) := by
  have hhigh : isHigh n = false := by simp [isHigh]; omega
  have hlow : isLow n = false := by simp [isLow]; omega
  cases ns with
  | nil => simp [joinUnits?, hhigh, hlow]
  | cons m r => simp [joinUnits?, hhigh, hlow]

theorem joinUnits?_units (c : Char) (ns : List Nat) :
    joinUnits? (units c ++ ns) = (joinUnits? ns).map (c :: ·) := by
  rw [units]
  by_cases small : c.toNat < 0x10000
  · rw [if_pos small, List.singleton_append, joinUnits?_single (not_surrogate c),
      Char.ofNat_toNat]
  · have hlt := toNat_lt c
    have hhigh : isHigh (0xD800 + (c.toNat - 0x10000) / 0x400) = true := by
      simp [isHigh]; omega
    have hlow : isLow (0xDC00 + (c.toNat - 0x10000) % 0x400) = true := by
      simp [isLow]; omega
    have joined : 0x10000 + (0xD800 + (c.toNat - 0x10000) / 0x400 - 0xD800) * 0x400 +
        (0xDC00 + (c.toNat - 0x10000) % 0x400 - 0xDC00) = c.toNat := by omega
    rw [if_neg small, List.cons_append, List.singleton_append, joinUnits?, if_pos hhigh,
      if_pos hlow, joined, Char.ofNat_toNat]

theorem joinUnits?_flatMap (s : List Char) : joinUnits? (s.flatMap units) = some s := by
  induction s with
  | nil => rfl
  | cons c s ih => rw [List.flatMap_cons, joinUnits?_units, ih, Option.map_some]

theorem readText?_flatMap (s t : List Char) :
    readText? (s.flatMap escapeChar ++ '\x22' :: t) = some (.ofList s, t) := by
  simp [readText?, codes?_flatMap, joinUnits?_flatMap]

theorem printText_append (s t : List Char) :
    printText s ++ t = '\x22' :: (s.flatMap escapeChar ++ '\x22' :: t) := by
  simp [printText]

def IsAscii (s : List Char) : Prop := ∀ c ∈ s, c.toNat < 0x80

instance : DecidablePred IsAscii := List.decidableBAll fun c : Char => c.toNat < 0x80

theorem isAscii_nil : IsAscii [] := fun _ h => absurd h List.not_mem_nil

theorem IsAscii.append {s t : List Char} (hs : IsAscii s) (ht : IsAscii t) : IsAscii (s ++ t) :=
  fun c hc => (List.mem_append.mp hc).elim (hs c) (ht c)

theorem isAscii_cons {c : Char} {s : List Char} (hc : c.toNat < 0x80) (hs : IsAscii s) :
    IsAscii (c :: s) :=
  List.forall_mem_cons.mpr ⟨hc, hs⟩

theorem hexDigit_lt {n : Nat} (h : n < 16) : (Text.hexDigit n).toNat < 0x80 := by
  have all : ∀ m : Fin 16, (Text.hexDigit m).toNat < 0x80 := by decide
  exact all ⟨n, h⟩

theorem isAscii_unitEscape (n : Nat) : IsAscii (unitEscape n) := by
  have digits (width m : Nat) : IsAscii (Text.hexDigits width m) := by
    induction width generalizing m with
    | zero => exact isAscii_nil
    | succ w ih =>
      exact (ih _).append (isAscii_cons (hexDigit_lt (Nat.mod_lt _ (by decide))) isAscii_nil)
  exact isAscii_cons (by decide) (isAscii_cons (by decide) (digits 4 n))

theorem isAscii_escapeChar (c : Char) : IsAscii (escapeChar c) := by
  have written := written_escapeChar c
  generalize escapeChar c = s at written ⊢
  cases written with
  | short _ hd _ _ => exact isAscii_cons (by decide) (isAscii_cons hd isAscii_nil)
  | plain _ _ _ high => exact isAscii_cons (by omega) isAscii_nil
  | unit _ => exact isAscii_unitEscape _
  | pair _ => exact (isAscii_unitEscape _).append (isAscii_unitEscape _)

theorem isAscii_printText (s : List Char) : IsAscii (printText s) := by
  refine isAscii_cons (by decide) (IsAscii.append (fun c hc => ?_) ?_)
  · obtain ⟨d, -, hd⟩ := List.mem_flatMap.mp hc
    exact isAscii_escapeChar d c hd
  · exact isAscii_cons (by decide) isAscii_nil

end StreamWatch.Json
