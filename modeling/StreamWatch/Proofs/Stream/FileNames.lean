import StreamWatch.Proofs.Numeral.Layout
import StreamWatch.Proofs.Report.Paths
import StreamWatch.Proofs.Stream.Collapsing

/-! Names of files. A file is named by a number, written with two digits or more, and a label that is
cleaned from a text. The digits end at the first underscore, so the name tells the number, whatever
the texts are and however many zeros stand in front. -/
namespace StreamWatch

namespace Numeral.Integer

structure IsIndex (n : Nat) (s : List Char) : Prop where
  digits : ∀ c ∈ s, c.isDigit = true
  length : 2 ≤ s.length
  value : Nat.ofDigitChars 10 s 0 = n

theorem isIndex_padded (n : Nat) : IsIndex n (padded 2 n) where
  digits := by
    intro c hc
    rcases List.mem_append.mp hc with hc | hc
    · obtain rfl := List.eq_of_mem_replicate hc
      rfl
    · exact isDigit_of_mem_writeNat hc
  length := by
    simp only [padded, List.length_append, List.length_replicate]
    omega
  value := by
    simp only [padded, Nat.ofDigitChars_append, Nat.ofDigitChars_replicate_zero, Nat.mul_zero]
    exact Nat.ofDigitChars_ten_toDigits

end Numeral.Integer

namespace Stream

open Numeral.Integer (IsIndex isIndex_padded padded)

structure IsLabel (s : List Char) : Prop where
  plain : ∀ c ∈ s, isFileChar c = true
  nonempty : s ≠ []
  length : s.length ≤ 80

def IsNumbered (n : Nat) (extension name : String) : Prop :=
  ∃ digits label, IsIndex n digits ∧ IsLabel label ∧
    name.toList = digits ++ '_' :: (label ++ extension.toList)

def labelOf (value : String) : List Char :=
  let cleaned := (collapse isFileChar value.toList).take 80
  if cleaned = [] then "url".toList else cleaned

theorem isLabel_labelOf (value : String) : IsLabel (labelOf value) := by
  have hmarked : Collapsed isFileChar value.toList (collapse isFileChar value.toList) :=
    collapse_eq_iff.mp rfl
  rw [labelOf]
  split
  next => exact ⟨List.all_eq_true.mp (by decide), by decide, by decide⟩
  next h =>
    refine ⟨fun c hc => ?_, h, List.length_take_le 80 _⟩
    rcases hmarked.mem c (List.mem_of_mem_take hc) with hc | rfl
    · exact hc
    · rfl

theorem toList_fileName (value : String) (n : Nat) :
    (fileName value n).toList = padded 2 n ++ '_' :: labelOf value := by
  obtain ⟨c, r, hn, hc, -⟩ := Numeral.writeNat_eq_cons n
  have hminus : c ≠ '-' := Text.ne_of_isDigit hc rfl
  have hwrite : Numeral.Integer.write n = c :: r := hn
  rw [fileName, String.toList_ofList, hwrite, padded, hn]
  split
  next h => exact absurd (List.head_eq_of_cons_eq h) hminus
  next => rfl

theorem isNumbered_fileName (value extension : String) (n : Nat) :
    IsNumbered n extension (fileName value n ++ extension) := by
  refine ⟨_, _, isIndex_padded n, isLabel_labelOf value, ?_⟩
  rw [String.toList_append, toList_fileName, List.append_assoc]
  rfl

section

variable {n : Nat} {extension name : String}

theorem IsNumbered.upTo (h : IsNumbered n extension name) :
    IsIndex n (Text.upTo '_' name.toList) := by
  obtain ⟨digits, label, hdigits, -, hname⟩ := h
  have hnone : '_' ∉ digits := fun hc => Bool.noConfusion (hdigits.digits _ hc)
  rwa [hname, Text.upTo_append hnone]

theorem IsNumbered.unique {m : Nat} {other : String} (hm : IsNumbered m other name)
    (hn : IsNumbered n extension name) : m = n :=
  hm.upTo.value.symm.trans hn.upTo.value

theorem IsNumbered.ne (h : IsNumbered n extension name) {s : String} (hs : '_' ∉ s.toList) :
    name ≠ s := by
  rintro rfl
  obtain ⟨digits, label, -, -, hname⟩ := h
  exact hs (hname ▸ List.mem_append_right digits List.mem_cons_self)

theorem IsNumbered.isPart (h : IsNumbered n extension name) (hslash : '/' ∉ extension.toList) :
    Report.Path.IsPart name.toList where
  nonempty hnil := h.ne (s := "") (by decide) (String.toList_injective hnil)
  point hpoint := h.ne (s := ".") (by decide) (String.toList_injective hpoint)
  slash := by
    obtain ⟨digits, label, hdigits, hlabel, hname⟩ := h
    rw [hname]
    intro hmem
    rcases List.mem_append.mp hmem with hc | hc
    · exact Bool.noConfusion (hdigits.digits _ hc)
    · rcases List.mem_cons.mp hc with hc | hc
      · exact absurd hc (by decide)
      · rcases List.mem_append.mp hc with hc | hc
        · exact Bool.noConfusion (hlabel.plain _ hc)
        · exact hslash hc

end

end Stream
end StreamWatch
