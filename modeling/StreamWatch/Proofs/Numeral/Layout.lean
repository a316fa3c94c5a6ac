import StreamWatch.Numeral.Decimal
import StreamWatch.Proofs.Text.Trimming

/-! How a decimal number is laid out: a digit in front, and a point or an exponent after it. -/
namespace StreamWatch

theorem Text.ne_of_isDigit {c d : Char} (hc : c.isDigit = true) (hd : d.isDigit = false) : c ≠ d :=
  fun h => Bool.noConfusion ((h ▸ hc).symm.trans hd)

namespace Numeral

open Integer (writeNat)

theorem isDigit_of_mem_writeNat {n : Nat} {c : Char} (h : c ∈ writeNat n) : c.isDigit = true :=
  Nat.isDigit_of_mem_toDigits (by decide) (by decide) h

theorem writeNat_eq_cons (n : Nat) : ∃ c r, writeNat n = c :: r ∧ c.isDigit = true ∧
    ∀ d ∈ r, d.isDigit = true := by
  have digit : ∀ c ∈ writeNat n, c.isDigit = true := fun _ => isDigit_of_mem_writeNat
  cases h : writeNat n with
  | nil => exact absurd h Nat.toDigits_ne_nil
  | cons c r =>
    rw [h] at digit
    exact ⟨c, r, rfl, List.forall_mem_cons.mp digit⟩

namespace Decimal

def IsMark (c : Char) : Prop := c.isDigit = true ∨ c = '.' ∨ c = 'e' ∨ c = '+' ∨ c = '-'

structure Layout (s : List Char) : Prop where
  first : ∃ c r, s = c :: r ∧ c.isDigit = true
  mark : ∃ c ∈ s, c.isDigit = false
  all : ∀ c ∈ s, IsMark c

structure Digits (s : List Char) : Prop where
  first : ∃ c r, s = c :: r
  all : ∀ c ∈ s, c.isDigit = true

theorem digits_trimZeros {s : List Char} (h : ∀ c ∈ s, c.isDigit = true) :
    Digits (trimZeros s) := by
  rw [trimZeros]
  split
  · exact ⟨⟨_, _, rfl⟩, by simp⟩
  · next r hr =>
    cases hd : Text.dropEndWhile (· == '0') s with
    | nil => exact absurd hd hr
    | cons c r =>
      refine ⟨⟨c, r, rfl⟩, fun d hmem => h d ?_⟩
      rw [← hd, Text.dropEndWhile, List.mem_reverse] at hmem
      exact List.mem_reverse.mp ((List.dropWhile_sublist _).mem hmem)

theorem isMark_writeExponent (e : Int) : ∀ c ∈ writeExponent e, IsMark c := by
  refine List.forall_mem_cons.mpr ⟨.inr (.inr (.inl rfl)), List.forall_mem_cons.mpr ⟨?_, ?_⟩⟩
  · split
    · exact .inr (.inr (.inr (.inr rfl)))
    · exact .inr (.inr (.inr (.inl rfl)))
  · intro c hc
    rcases List.mem_append.mp hc with hc | hc
    · rw [(List.mem_replicate.mp hc).2]
      exact .inl rfl
    · exact .inl (isDigit_of_mem_writeNat hc)

theorem Digits.layout {s tail : List Char} {c : Char} (hs : Digits s) (hc : c = '.' ∨ c = 'e')
    (ht : ∀ d ∈ tail, IsMark d) : Layout (s ++ c :: tail) := by
  obtain ⟨⟨d, r, rfl⟩, all⟩ := hs
  refine ⟨⟨d, _, rfl, all d (by simp)⟩, ⟨c, by simp, ?_⟩, fun x hx => ?_⟩
  · rcases hc with rfl | rfl <;> rfl
  · rcases List.mem_append.mp hx with hx | hx
    · exact .inl (all x hx)
    · rcases List.mem_cons.mp hx with rfl | hx
      · exact .inr (hc.imp_right .inl)
      · exact ht x hx

theorem layout_layOut (d : Nat) (k : Int) : Layout (layOut d k) := by
  have hdigits : Digits (trimZeros (writeNat d)) :=
    digits_trimZeros fun _ => isDigit_of_mem_writeNat
  rw [layOut]
  generalize trimZeros (writeNat d) = digits at hdigits ⊢
  obtain ⟨⟨c, r, rfl⟩, all⟩ := hdigits
  have mark (x : Char) (hx : x ∈ c :: r) : IsMark x := .inl (all x hx)
  have zero {n : Nat} {x : Char} (hx : x ∈ List.replicate n '0') : x.isDigit = true := by
    rw [(List.mem_replicate.mp hx).2]
    rfl
  have one : Digits [c] := ⟨⟨c, [], rfl⟩, fun x hx => all x (by simp_all)⟩
  have exponent := isMark_writeExponent (((writeNat d).length : Int) + k - 1)
  split
  · next small =>
    split
    · refine Digits.layout (s := ['0']) ⟨⟨_, _, rfl⟩, by simp⟩ (.inl rfl) fun x hx => ?_
      exact (List.mem_append.mp hx).elim (fun h => .inl (zero h)) (mark x)
    · next pos =>
      split
      · refine Digits.layout ⟨⟨c, _, rfl⟩, fun x hx => ?_⟩ (.inl rfl) (by simp [IsMark])
        exact (List.mem_append.mp hx).elim (all x) zero
      · obtain ⟨n, hn⟩ : ∃ n, (((writeNat d).length : Int) + k).toNat = n + 1 :=
          ⟨(((writeNat d).length : Int) + k).toNat - 1, by omega⟩
        rw [hn]
        refine Digits.layout ⟨⟨c, r.take n, rfl⟩, fun x hx => all x (List.mem_of_mem_take hx)⟩
          (.inl rfl) fun x hx => mark x (List.mem_of_mem_drop hx)
  · cases r with
    | nil => exact one.layout (.inr rfl) fun x hx => exponent x (List.mem_cons_of_mem _ hx)
    | cons c' r =>
      refine one.layout (.inl rfl) fun x hx => ?_
      exact (List.mem_append.mp hx).elim (fun h => mark x (List.mem_cons_of_mem _ h)) (exponent x)

theorem layout_writeMagnitude (m : Nat) (e : Int) : Layout (writeMagnitude m e) := by
  rw [writeMagnitude]
  split
  · exact Digits.layout (s := ['0']) ⟨⟨_, _, rfl⟩, by simp⟩ (.inl rfl) (by simp [IsMark])
  · exact layout_layOut _ _

theorem plain_of_marks {s : List Char} (h : ∀ c ∈ s, IsMark c) : plain s = s := by
  have digit {c : Char} (hc : c.isDigit = true) : 0x30 ≤ c.toNat ∧ c.toNat ≤ 0x39 :=
    Char.isDigit_iff_toNat.mp hc
  have same : s.map plainChar = s.map id := by
    refine List.map_congr_left fun c hc => if_pos ?_
    rcases h c hc with hd | rfl | rfl | rfl | rfl
    · exact Nat.lt_of_le_of_lt (digit hd).2 (by decide)
    all_goals decide
  have seen (c : Char) (hc : c ∈ s) : Text.isAsciiBlank c = false := by
    rcases h c hc with hd | rfl | rfl | rfl | rfl
    · have high := (digit hd).1
      have space : c ≠ ' ' := Text.ne_of_isDigit hd rfl
      simp [Text.isAsciiBlank, space]
      omega
    all_goals rfl
  rw [plain, same, List.map_id, Text.trimOf_of_forall seen]

theorem bare?_of_notMem {s : List Char} (h : '_' ∉ s) (after : Bool) : bare? after s = some s := by
  induction s generalizing after with
  | nil => rfl
  | cons c r ih =>
    rw [List.mem_cons, not_or] at h
    rw [bare?, if_neg (Ne.symm h.1), ih h.2, Option.map_some]
    intro _ _ hc
    exact absurd hc.symm h.1

theorem bare?_plain {s : List Char} (h : ∀ c ∈ s, IsMark c) : bare? false (plain s) = some s := by
  have no_underscore : '_' ∉ s := by
    intro hmem
    have hmark := h _ hmem
    simp [IsMark] at hmark
  rw [plain_of_marks h, bare?_of_notMem no_underscore]

theorem named?_of_isDigit {c : Char} (hc : c.isDigit = true) (r : List Char) :
    named? (c :: r) = none := by
  have hlower : c.toLower = c := by
    refine dif_neg fun h => ?_
    have high := (Char.isDigit_iff_toNat.mp hc).2
    have low : 'A'.toNat ≤ c.toNat := h.1
    exact absurd (Nat.le_trans low high) (by decide)
  have other (name : List Char) (d : Char) (hd : d.isDigit = false)
      (h : String.ofList ((c :: r).map Char.toLower) = String.ofList (d :: name)) : False := by
    have := String.ofList_injective h
    rw [List.map_cons, hlower] at this
    exact Text.ne_of_isDigit hc hd (List.cons.inj this).1
  rw [named?]
  split
  · next h => exact (other _ 'i' rfl h).elim
  · next h => exact (other _ 'i' rfl h).elim
  · next h => exact (other _ 'n' rfl h).elim
  · rfl

theorem Layout.read? {s : List Char} (h : Layout s) :
    Decimal.read? s = magnitude? s ∧ Decimal.read? ('-' :: s) = (magnitude? s).map (- ·) := by
  obtain ⟨c, r, rfl, hc⟩ := h.first
  have minus : ∀ d ∈ '-' :: c :: r, IsMark d :=
    List.forall_mem_cons.mpr ⟨.inr (.inr (.inr (.inr rfl))), h.all⟩
  have hplus : c ≠ '+' := Text.ne_of_isDigit hc rfl
  have hminus : c ≠ '-' := Text.ne_of_isDigit hc rfl
  constructor
  · rw [Decimal.read?, bare?_plain h.all]
    simp [signed, hplus, hminus, named?_of_isDigit hc]
  · rw [Decimal.read?, bare?_plain minus]
    cases hm : magnitude? (c :: r) <;> simp [signed, named?_of_isDigit hc, hm]

end Decimal
end Numeral
end StreamWatch
