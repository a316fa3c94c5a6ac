import StreamWatch.Sample.Number

/-! The two zeros of binary numbers. A number that equals zero is one of them, and a comparison
cannot tell them apart, also where one of them is a summand: a sum with either has the same value,
and if it is zero itself, only its sign can differ. -/
namespace StreamWatch.Numeral.Binary64

open Float.Model Float.Model.UnpackedFloat

def IsZero (x : Float) : Prop := ∃ s, x.toModel.unpack = .zero s

theorem isZero_zero : IsZero 0.0 := ⟨.positive, rfl⟩

theorem isZero_of_beq {x : Float} (h : (x == 0) = true) : IsZero x := by
  change (x.toModel.unpack.compare (Float.toModel 0).unpack == some .eq) = true at h
  have hz : (Float.toModel 0).unpack = .zero .positive := rfl
  rw [hz] at h
  unfold IsZero
  generalize x.toModel.unpack = u at h ⊢
  rcases u with s | _ | s | ⟨s, m, e⟩
  · cases s <;> cases h
  · cases h
  · exact ⟨s, rfl⟩
  · cases s <;> cases h

theorem eq_of_toBits {x y : Float} (h : x.toModel.toBits = y.toModel.toBits) : x = y := by
  rcases x with ⟨⟨a, ha⟩⟩
  rcases y with ⟨⟨b, hb⟩⟩
  cases h
  rfl

theorem components_of_unpack_zero {spec : Format} {b : BitVec spec.numBits} {s : Sign}
    (h : UnpackedFloat.unpack spec b = .zero s) :
    unpackExponent b = 0#_ ∧ unpackMantissa b = 0#_ := by
  unfold UnpackedFloat.unpack at h
  dsimp only at h
  by_cases top : unpackExponent b = -1#_
  · rw [if_pos top] at h
    by_cases fraction : unpackMantissa b = 0#_
    · rw [if_pos fraction] at h
      cases h
    · rw [if_neg fraction] at h
      cases h
  rw [if_neg top] at h
  by_cases exponent : unpackExponent b = 0#_
  · rw [if_pos exponent] at h
    by_cases fraction : unpackMantissa b = 0#_
    · exact ⟨exponent, fraction⟩
    · rw [dif_neg fraction] at h
      cases h
  · rw [if_neg exponent] at h
    cases h

theorem IsZero.eq {x : Float} (h : IsZero x) : x = 0.0 ∨ x = -0.0 := by
  obtain ⟨s, hs⟩ := h
  obtain ⟨exponent, fraction⟩ := components_of_unpack_zero hs
  have he := congrArg BitVec.toNat exponent
  have hf := congrArg BitVec.toNat fraction
  have hb := x.toModel.toBits.toBitVec.isLt
  simp [unpackMantissa, unpackExponent, Nat.shiftRight_eq_div_pow] at he hf hb
  have hn : x.toModel.toBits.toNat = 0 ∨ x.toModel.toBits.toNat = 2 ^ 63 := by omega
  rcases hn with hn | hn
  · exact .inl (eq_of_toBits (UInt64.toNat_inj.mp hn))
  · exact .inr (eq_of_toBits (UInt64.toNat_inj.mp hn))

theorem unpack_pack_zero (s : Sign) : (Float.Model.pack (.zero s)).unpack = .zero s := by
  cases s <;> rfl

theorem compare_zero_left (s t : Sign) (u : UnpackedFloat) :
    (UnpackedFloat.zero s).compare u = (UnpackedFloat.zero t).compare u := by
  rcases u with r | _ | r | ⟨r, m, e⟩
  · cases r <;> rfl
  · rfl
  · rfl
  · cases r <;> rfl

theorem compare_zero_right (s t : Sign) (u : UnpackedFloat) :
    u.compare (.zero s) = u.compare (.zero t) := by
  rcases u with r | _ | r | ⟨r, m, e⟩
  · cases r <;> rfl
  · rfl
  · rfl
  · cases r <;> rfl

theorem lt_iff_compare (x y : Float) :
    x < y ↔ x.toModel.unpack.compare y.toModel.unpack = some .lt := by
  have h : x < y ↔ x.toModel < y.toModel := decide_eq_true_iff
  rw [h]
  exact beq_iff_eq

theorem unpack_add (x y : Float) : (x + y).toModel.unpack =
    (Float.Model.pack (UnpackedFloat.add .binary64 x.toModel.unpack y.toModel.unpack)).unpack :=
  rfl

theorem lt_zero_iff {x y : Float} (hx : IsZero x) (hy : IsZero y) (t : Float) :
    t < x ↔ t < y := by
  obtain ⟨r, hr⟩ := hx
  obtain ⟨s, hs⟩ := hy
  rw [lt_iff_compare, lt_iff_compare, hr, hs, compare_zero_right r s]

theorem zero_add_lt_iff {x y : Float} (hx : IsZero x) (hy : IsZero y) (t z : Float) :
    x + t < z ↔ y + t < z := by
  obtain ⟨r, hr⟩ := hx
  obtain ⟨s, hs⟩ := hy
  rw [lt_iff_compare, lt_iff_compare, unpack_add, unpack_add, hr, hs]
  generalize t.toModel.unpack = u
  rcases u with q | _ | q | ⟨q, m, e⟩
  · rfl
  · rfl
  · -- Two zeros add up to a zero, whose sign is all that depends on theirs.
    have sum (p : Sign) : ∃ a, UnpackedFloat.add .binary64 (.zero p) (.zero q) = .zero a := by
      cases p <;> cases q <;> exact ⟨_, rfl⟩
    obtain ⟨a, ha⟩ := sum r
    obtain ⟨b, hb⟩ := sum s
    rw [ha, hb, unpack_pack_zero, unpack_pack_zero, compare_zero_left a b]
  · rfl

end StreamWatch.Numeral.Binary64
