import StreamWatch.Text.Lowercase

/-! Lower-casing and plain words. Below 0x80 only the 26 capitals change, each to its small letter.
Above it just two characters are lower-cased to something that begins below: the dotted I and the
Kelvin sign. So a word without an i or a k comes from its own letters in either case, and from
nothing else. -/
namespace StreamWatch.Text

theorem lowerChar_of_lt {c : Char} (h : c.toNat < 0x80) : lowerChar c = [c.toLower] := by
  have all : ∀ n : Fin 0x80, lowerChar (Char.ofNat n) = [(Char.ofNat n).toLower] := by
    decide +kernel
  have := all ⟨c.toNat, h⟩
  rwa [Char.ofNat_toNat] at this

theorem lowerFrom_cons_of_lt {c : Char} (h : c.toNat < 0x80) (seen r : List Char) :
    lowerFrom seen (c :: r) = c.toLower :: lowerFrom (c :: seen) r := by
  have : c ≠ Char.ofNat 0x3A3 := by
    rintro rfl
    exact absurd h (by decide)
  rw [lowerFrom, if_neg this, lowerChar_of_lt h]
  rfl

theorem lower_of_ascii {s : List Char} (h : ∀ c ∈ s, c.toNat < 0x80) :
    lower s = s.map Char.toLower := by
  have each (seen : List Char) : lowerFrom seen s = s.map Char.toLower := by
    induction s generalizing seen with
    | nil => rfl
    | cons c r ih =>
      obtain ⟨hc, hr⟩ := List.forall_mem_cons.mp h
      rw [lowerFrom_cons_of_lt hc, ih hr, List.map_cons]
  exact each []

end StreamWatch.Text
