import StreamWatch.Numeral.Decimal
import StreamWatch.Proofs.Numeral.SignedZero

/-! Binary numbers are told apart by what they unpack to: a packed number has one sign, exponent and
fraction for each, and there is but one packed form of an undefined number. -/
namespace StreamWatch.Numeral.Binary64

open Float.Model Float.Model.UnpackedFloat

theorem eq_of_fields {b c : BitVec Format.binary64.numBits}
    (sign : unpackSign b = unpackSign c) (exponent : unpackExponent b = unpackExponent c)
    (mantissa : unpackMantissa b = unpackMantissa c) : b = c := by
  have hs : (b.toNat >>> 63) % 2 ^ 1 = (c.toNat >>> 63) % 2 ^ 1 := congrArg BitVec.toNat sign
  have he : (b.toNat >>> 52) % 2 ^ 11 = (c.toNat >>> 52) % 2 ^ 11 := congrArg BitVec.toNat exponent
  have hm : (b.toNat >>> 0) % 2 ^ 52 = (c.toNat >>> 0) % 2 ^ 52 := congrArg BitVec.toNat mantissa
  have hb : b.toNat < 2 ^ 64 := b.isLt
  have hc : c.toNat < 2 ^ 64 := c.isLt
  exact BitVec.eq_of_toNat_eq (by omega)

theorem toBitVec_ofBitVec : ∀ b : BitVec 1, (Sign.ofBitVec b).toBitVec = b := by decide

theorem ofBitVec_injective {a b : BitVec 1} (h : Sign.ofBitVec a = Sign.ofBitVec b) : a = b := by
  rw [← toBitVec_ofBitVec a, h, toBitVec_ofBitVec]

/-- What the fields of a packed number tell of the unpacked one. -/
def Fields (b : BitVec Format.binary64.numBits) : UnpackedFloat → Prop
  | .notANumber => b = packedNaN .binary64
  | .infinity s =>
    .ofBitVec (unpackSign b) = s ∧ unpackExponent b = -1#_ ∧ unpackMantissa b = 0#_
  | .zero s => .ofBitVec (unpackSign b) = s ∧ unpackExponent b = 0#_ ∧ unpackMantissa b = 0#_
  | .finite s m e _ => .ofBitVec (unpackSign b) = s ∧
    (unpackExponent b = 0#_ ∧ (unpackMantissa b).toNat = m ∧ e = -1074 ∨
      (1#1 ++ unpackMantissa b).toNat = m ∧ ((unpackExponent b).toNat : Int) - 1075 = e)

theorem fields_unpack {b : BitVec Format.binary64.numBits} (h : Format.binary64.Valid b) :
    Fields b (UnpackedFloat.unpack .binary64 b) := by
  unfold UnpackedFloat.unpack
  dsimp only
  by_cases top : unpackExponent b = -1#_
  · rw [if_pos top]
    by_cases fraction : unpackMantissa b = 0#_
    · rw [if_pos fraction]
      exact ⟨rfl, top, fraction⟩
    · rw [if_neg fraction]
      exact h.eq_packedNaN top fraction
  rw [if_neg top]
  by_cases exponent : unpackExponent b = 0#_
  · rw [if_pos exponent]
    by_cases fraction : unpackMantissa b = 0#_
    · rw [dif_pos fraction]
      exact ⟨rfl, exponent, fraction⟩
    · rw [dif_neg fraction]
      refine ⟨rfl, .inl ⟨exponent, rfl, ?_⟩⟩
      rw [exponent]
      rfl
  · rw [if_neg exponent]
    exact ⟨rfl, .inr ⟨rfl, rfl⟩⟩

theorem toNat_append_mantissa (b : BitVec Format.binary64.numBits) :
    (1#1 ++ unpackMantissa b).toNat = 1 <<< 52 + (unpackMantissa b).toNat := by
  rw [BitVec.toNat_append, ← Nat.shiftLeft_add_eq_or_of_lt (unpackMantissa b).isLt,
    Nat.shiftLeft_eq]
  rfl

theorem Fields.unique {b c : BitVec Format.binary64.numBits} {u : UnpackedFloat}
    (hb : Fields b u) (hc : Fields c u) : b = c := by
  cases u with
  | notANumber => exact hb.trans hc.symm
  | infinity s =>
    exact eq_of_fields (ofBitVec_injective (hb.1.trans hc.1.symm)) (hb.2.1.trans hc.2.1.symm)
      (hb.2.2.trans hc.2.2.symm)
  | zero s =>
    exact eq_of_fields (ofBitVec_injective (hb.1.trans hc.1.symm)) (hb.2.1.trans hc.2.1.symm)
      (hb.2.2.trans hc.2.2.symm)
  | finite s m e pos =>
    have short (b : BitVec Format.binary64.numBits) :
        (unpackMantissa b).toNat < 1 <<< 52 := (unpackMantissa b).isLt
    have shortB := short b
    have shortC := short c
    have wholeB := toNat_append_mantissa b
    have wholeC := toNat_append_mantissa c
    -- A whole mantissa is at least this long, so both numbers are subnormal or neither is.
    refine eq_of_fields (ofBitVec_injective (hb.1.trans hc.1.symm)) ?_ ?_
    · rcases hb.2 with hb | hb <;> rcases hc.2 with hc | hc
      · exact hb.1.trans hc.1.symm
      · omega
      · omega
      · exact BitVec.eq_of_toNat_eq (by omega)
    · rcases hb.2 with hb | hb <;> rcases hc.2 with hc | hc <;>
        exact BitVec.eq_of_toNat_eq (by omega)

theorem eq_of_unpack {x y : Float} (h : x.toModel.unpack = y.toModel.unpack) : x = y := by
  have hx := fields_unpack x.toModel.valid
  have hu : UnpackedFloat.unpack .binary64 x.toModel.toBits.toBitVec =
    UnpackedFloat.unpack .binary64 y.toModel.toBits.toBitVec := h
  rw [hu] at hx
  exact eq_of_toBits (UInt64.toBitVec_inj.mp (hx.unique (fields_unpack y.toModel.valid)))

theorem eq_undefined {x : Float} (h : size x = .undefined) : x = Decimal.undefined := by
  apply eq_of_unpack
  have hu : Decimal.undefined.toModel.unpack = .notANumber := rfl
  rw [hu]
  unfold size at h
  split at h
  · assumption
  all_goals cases h

theorem eq_infinity {x : Float} {negative : Bool} (h : size x = .unbounded negative) :
    x = if negative then -Decimal.infinity else Decimal.infinity := by
  apply eq_of_unpack
  have positive : Decimal.infinity.toModel.unpack = .infinity .positive := rfl
  have minus : (-Decimal.infinity).toModel.unpack = .infinity .negative := rfl
  unfold size at h
  split at h
  · cases h
  · next s hs =>
    rw [hs]
    cases s <;> cases h
    · exact minus.symm
    · exact positive.symm
  all_goals cases h

end StreamWatch.Numeral.Binary64
