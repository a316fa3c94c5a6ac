import StreamWatch.Proofs.Json.Quoting
import StreamWatch.Proofs.Numeral.Layout
import StreamWatch.Proofs.Numeral.Unpacking

/-! A value reads back from its text, whatever its depth. Each part of the text ends where the
reader stops, and the fuel of the reader, which is the length of the text, suffices. The floating
point numbers of the value are the only premise: a finite one has to read back from its numeral. -/
namespace StreamWatch.Json

open Numeral (Binary64.size)

def Ends (t : List Char) : Prop := ∀ c ∈ t.head?, isNumeral c = false

theorem ends_nil : Ends [] := nofun

theorem ends_cons {c : Char} (h : isNumeral c = false) (t : List Char) : Ends (c :: t) := by
  intro d hd
  cases hd
  exact h

structure Numeric (s : List Char) : Prop where
  starts : ∃ c r, Char.isDigit c = true ∧ (s = c :: r ∨ s = '-' :: c :: r)
  all : ∀ c ∈ s, isNumeral c = true

theorem isNumeral_of_isMark {c : Char} (h : Numeral.Decimal.IsMark c) : isNumeral c = true := by
  rcases h with h | rfl | rfl | rfl | rfl
  · simp [isNumeral, h]
  all_goals rfl

theorem Numeric.readScalar?_append {s t : List Char} (hs : Numeric s) (ht : Ends t) :
    readScalar? (s ++ t) = (readNumeral? s).map fun v => (v, t) := by
  have no_word : ∀ entry ∈ words, afterWord? entry.1 (s ++ t) = none := by
    obtain ⟨c, r, hc, hs⟩ := hs.starts
    have hne (d : Char) (hd : d.isDigit = false := by rfl) : d ≠ c :=
      (Text.ne_of_isDigit hc hd).symm
    rcases hs with rfl | rfl
    · simp [words, afterWord?, hne]
    · simp [words, afterWord?, hne]
  have taken : (s ++ t).takeWhile isNumeral = s := by
    rw [List.takeWhile_append_of_pos hs.all]
    cases t with
    | nil => simp
    | cons c t => simp [ht c rfl]
  have dropped : (s ++ t).dropWhile isNumeral = t := by
    rw [List.dropWhile_append_of_pos hs.all]
    cases t with
    | nil => rfl
    | cons c t => simp [ht c rfl]
  rw [readScalar?, taken, dropped, List.findSome?_eq_none_iff.mpr]
  exact fun entry hentry => congrArg (Option.map _) (no_word entry hentry)

theorem numeric_write (n : Int) : Numeric (Numeral.Integer.write n) := by
  have all (m : Nat) : ∀ c ∈ Numeral.Integer.writeNat m, isNumeral c = true := fun c hc =>
    isNumeral_of_isMark (.inl (Numeral.isDigit_of_mem_writeNat hc))
  cases n with
  | ofNat m =>
    obtain ⟨c, r, hm, hc, -⟩ := Numeral.writeNat_eq_cons m
    exact ⟨⟨c, r, hc, .inl hm⟩, all m⟩
  | negSucc m =>
    obtain ⟨c, r, hm, hc, -⟩ := Numeral.writeNat_eq_cons (m + 1)
    exact ⟨⟨c, r, hc, .inr (congrArg ('-' :: ·) hm)⟩, List.forall_mem_cons.mpr ⟨rfl, all _⟩⟩

theorem readNumeral?_write (n : Int) :
    readNumeral? (Numeral.Integer.write n) = some (.int n) := by
  have value (m : Nat) : Nat.ofDigitChars 10 (Numeral.Integer.writeNat m) 0 = m :=
    Nat.ofDigitChars_ten_toDigits
  cases n with
  | ofNat m =>
    obtain ⟨c, r, hm, hc, hr⟩ := Numeral.writeNat_eq_cons m
    have hv := value m
    have hminus := Text.ne_of_isDigit hc (d := '-') rfl
    rw [hm] at hv
    simpa [Numeral.Integer.write, hm, readNumeral?, hc, hminus, hv] using hr
  | negSucc m =>
    obtain ⟨c, r, hm, hc, hr⟩ := Numeral.writeNat_eq_cons (m + 1)
    have hv := value (m + 1)
    have all : (c :: r).all Char.isDigit = true := by simpa [hc] using hr
    have hneg : -((m + 1 : Nat) : Int) = .negSucc m := rfl
    rw [hm] at hv
    simp only [Numeral.Integer.write, hm, readNumeral?, all]
    simp [hc, hv, ← hneg]

theorem numeric_of_layout {s : List Char} (h : Numeral.Decimal.Layout s) (negative : Bool) :
    Numeric ((if negative then ['-'] else []) ++ s) := by
  obtain ⟨c, r, hs, hc⟩ := h.first
  have all : ∀ c ∈ s, isNumeral c = true := fun c hc => isNumeral_of_isMark (h.all c hc)
  cases negative with
  | false => exact ⟨⟨c, r, hc, .inl hs⟩, all⟩
  | true =>
    exact ⟨⟨c, r, hc, .inr (congrArg ('-' :: ·) hs)⟩, List.forall_mem_cons.mpr ⟨rfl, all⟩⟩

theorem readNumeral?_of_layout {s : List Char} (h : Numeral.Decimal.Layout s) (negative : Bool) :
    readNumeral? ((if negative then ['-'] else []) ++ s) =
      (Numeral.Decimal.read? ((if negative then ['-'] else []) ++ s)).map .float := by
  obtain ⟨c, r, rfl, hc⟩ := h.first
  obtain ⟨d, hmem, hd⟩ := h.mark
  have mark : (c :: r).all Char.isDigit = false := List.all_eq_false.mpr ⟨d, hmem, by simp [hd]⟩
  have hminus := Text.ne_of_isDigit hc (d := '-') rfl
  cases negative with
  | false =>
    have hread : Numeral.Decimal.read? ((if false then ['-'] else []) ++ c :: r) = _ := h.read?.1
    rw [hread]
    simp [readNumeral?, hminus, hc, mark]
  | true =>
    have hread : Numeral.Decimal.read? ((if true then ['-'] else []) ++ c :: r) = _ := h.read?.2
    rw [hread]
    simp [readNumeral?, hc, mark, Function.comp_def]

theorem readScalar?_printFloat {x : Float}
    (h : Numeral.Decimal.read? (Numeral.Decimal.write x) = some x) {t : List Char} (ht : Ends t) :
    readScalar? (printFloat x ++ t) = some (.float x, t) := by
  rw [printFloat]
  split
  · next hx =>
    rw [Numeral.Binary64.eq_undefined hx]
    rfl
  · next negative hx =>
    rw [Numeral.Binary64.eq_infinity hx]
    cases negative <;> rfl
  · next negative m e hx =>
    rw [Numeral.Decimal.write, hx] at h ⊢
    have layout := Numeral.Decimal.layout_writeMagnitude m e
    rw [(numeric_of_layout layout negative).readScalar?_append ht,
      readNumeral?_of_layout layout, h]
    rfl

namespace Value

mutual
def floats : Value → List Float
  | .float x => [x]
  | .list items => floatsOf items
  | .record fields => floatsWithin fields
  | _ => []

def floatsOf : List Value → List Float
  | [] => []
  | v :: r => floats v ++ floatsOf r

def floatsWithin : List (String × Value) → List Float
  | [] => []
  | (_, v) :: r => floats v ++ floatsWithin r
end

end Value

/-- Every one of the numbers reads back from its numeral. -/
def Faithful (numbers : List Float) : Prop :=
  ∀ x ∈ numbers, Numeral.Decimal.read? (Numeral.Decimal.write x) = some x

instance : DecidablePred Faithful := fun numbers => inferInstanceAs (Decidable
  (∀ x ∈ numbers, Numeral.Decimal.read? (Numeral.Decimal.write x) = some x))

theorem Faithful.left {a b : List Float} (h : Faithful (a ++ b)) : Faithful a :=
  fun x hx => h x (List.mem_append_left b hx)

theorem Faithful.right {a b : List Float} (h : Faithful (a ++ b)) : Faithful b :=
  fun x hx => h x (List.mem_append_right a hx)

theorem skip_cons {c : Char} (hc : isSpace c = false) (r : List Char) : skip (c :: r) = c :: r := by
  simp [skip, hc]

theorem skip_newLine (depth : Nat) {c : Char} (hc : isSpace c = false) (r : List Char) :
    skip (newLine depth ++ c :: r) = c :: r := by
  have blank : ∀ d ∈ newLine depth, isSpace d = true :=
    List.forall_mem_cons.mpr ⟨rfl, fun d hd => by rw [(List.mem_replicate.mp hd).2]; rfl⟩
  rw [skip, List.dropWhile_append_of_pos blank]
  exact skip_cons hc r

structure Bare (s : List Char) : Prop where
  first : ∃ c r, s = c :: r ∧ isSpace c = false ∧ c ∉ ['\x22', '[', ']', '\x7b']

theorem Numeric.bare {s : List Char} (h : Numeric s) : Bare s := by
  obtain ⟨c, r, hc, hs⟩ := h.starts
  have hne (d : Char) (hd : d.isDigit = false := by rfl) : c ≠ d := Text.ne_of_isDigit hc hd
  rcases hs with rfl | rfl
  · exact ⟨c, r, rfl, by simp [isSpace, hne], by simp [hne]⟩
  · exact ⟨'-', c :: r, rfl, rfl, by decide⟩

theorem bare_printFloat (x : Float) : Bare (printFloat x) := by
  rw [printFloat]
  split
  · exact ⟨_, _, rfl, rfl, by decide⟩
  · next negative _ => cases negative <;> exact ⟨_, _, rfl, rfl, by decide⟩
  · next negative m e hx =>
    rw [Numeral.Decimal.write, hx]
    exact (numeric_of_layout (Numeral.Decimal.layout_writeMagnitude m e) negative).bare

theorem Bare.readValue?_append {s : List Char} (hs : Bare s) (fuel : Nat) (t : List Char) :
    readValue? (fuel + 1) (s ++ t) = readScalar? (s ++ t) := by
  obtain ⟨c, r, rfl, -, hc⟩ := hs
  simp only [List.mem_cons, List.not_mem_nil, or_false, not_or] at hc
  rw [List.cons_append, readValue?.eq_def]
  split
  · contradiction
  · next fuel' s' hfuel =>
    dsimp only
    split <;> simp_all

theorem opens_print (depth : Nat) (v : Value) :
    ∃ c r, v.print depth = c :: r ∧ isSpace c = false ∧ c ≠ ']' := by
  have bare {s : List Char} (h : Bare s) : ∃ c r, s = c :: r ∧ isSpace c = false ∧ c ≠ ']' := by
    obtain ⟨c, r, hs, hspace, hc⟩ := h
    simp only [List.mem_cons, not_or] at hc
    exact ⟨c, r, hs, hspace, hc.2.2.1⟩
  match v with
  | .null => exact ⟨_, _, rfl, rfl, by decide⟩
  | .bool true => exact ⟨_, _, rfl, rfl, by decide⟩
  | .bool false => exact ⟨_, _, rfl, rfl, by decide⟩
  | .int n => exact bare (numeric_write n).bare
  | .float x => exact bare (bare_printFloat x)
  | .text s => exact ⟨_, _, rfl, rfl, by decide⟩
  | .list [] => exact ⟨_, _, rfl, rfl, by decide⟩
  | .list (_ :: _) => exact ⟨_, _, rfl, rfl, by decide⟩
  | .record [] => exact ⟨_, _, rfl, rfl, by decide⟩
  | .record ((_, _) :: _) => exact ⟨_, _, rfl, rfl, by decide⟩

theorem skip_print (depth : Nat) (v : Value) (t : List Char) :
    skip (v.print depth ++ t) = v.print depth ++ t := by
  obtain ⟨c, r, hv, hc, -⟩ := opens_print depth v
  rw [hv]
  exact skip_cons hc (r ++ t)

theorem skip_newLine_print (outer depth : Nat) (v : Value) (t : List Char) :
    skip (newLine outer ++ (v.print depth ++ t)) = v.print depth ++ t := by
  obtain ⟨c, r, hv, hc, -⟩ := opens_print depth v
  rw [hv]
  exact skip_newLine outer hc (r ++ t)

theorem readText?_append (s : String) (t : List Char) :
    readText? (s.toList.flatMap escapeChar ++ '\x22' :: t) = some (s, t) := by
  rw [readText?_flatMap, String.ofList_toList]

section

variable {fuel : Nat} {s r rest : List Char} {v : Value} {vs : List Value}
  {fields : List (String × Value)}

theorem readValue?_list {c : Char} (hs : skip s = c :: r) (hc : c ≠ ']')
    (h : readItems? fuel (skip s) = some (vs, rest)) :
    readValue? (fuel + 1) ('[' :: s) = some (.list vs, rest) := by
  rw [hs] at h
  rw [readValue?, hs]
  split
  · next heq => exact absurd (List.cons.inj heq).1 hc
  · rw [h]
    rfl

theorem readValue?_record {c : Char} (hs : skip s = c :: r) (hc : c ≠ '\x7d')
    (h : readFields? fuel (skip s) = some (fields, rest)) :
    readValue? (fuel + 1) ('\x7b' :: s) = some (.record fields, rest) := by
  rw [hs] at h
  rw [readValue?, hs]
  split
  · next heq => exact absurd (List.cons.inj heq).1 hc
  · rw [h]
    rfl

theorem readItems?_last {depth : Nat}
    (h : readValue? fuel s = some (v, newLine depth ++ ']' :: r)) :
    readItems? (fuel + 1) s = some ([v], r) := by
  simp [readItems?, h, skip_newLine, isSpace]

theorem readItems?_more (h : readValue? fuel s = some (v, ',' :: r))
    (hr : readItems? fuel (skip r) = some (vs, rest)) :
    readItems? (fuel + 1) s = some (v :: vs, rest) := by
  simp [readItems?, h, skip_cons, isSpace, hr]

theorem afterWord?_colon (r : List Char) : afterWord? [':'] (skip (':' :: r)) = some r := rfl

theorem skip_space (r : List Char) : skip (' ' :: r) = skip r := rfl

theorem readFields?_last (k : String) {depth : Nat} (hs : skip s = s)
    (h : readValue? fuel s = some (v, newLine depth ++ '\x7d' :: r)) :
    readFields? (fuel + 1) (printText k.toList ++ ':' :: ' ' :: s) = some ([(k, v)], r) := by
  rw [printText_append]
  simp [readFields?, readText?_append, afterWord?_colon, skip_space, hs, h, skip_newLine, isSpace]

theorem readFields?_more (k : String) (hs : skip s = s)
    (h : readValue? fuel s = some (v, ',' :: r))
    (hr : readFields? fuel (skip r) = some (fields, rest)) :
    readFields? (fuel + 1) (printText k.toList ++ ':' :: ' ' :: s) =
      some ((k, v) :: fields, rest) := by
  rw [printText_append]
  simp only [readFields?, readText?_append, afterWord?_colon, skip_space, hs, h, hr,
    Option.bind_eq_bind, Option.bind_some, skip_cons (c := ',') rfl]
  rfl

end

mutual
theorem readValue?_print (v : Value) (hv : Faithful v.floats) (depth fuel : Nat)
    {t : List Char} (hf : (v.print depth).length < fuel) (ht : Ends t) :
    readValue? fuel (v.print depth ++ t) = some (v, t) := by
  obtain ⟨n, rfl⟩ : ∃ n, fuel = n + 1 := ⟨fuel - 1, by omega⟩
  match v, hv with
  | .null, _ => rfl
  | .bool true, _ => rfl
  | .bool false, _ => rfl
  | .int n, _ =>
    have h := numeric_write n
    have hprint : (Value.int n).print depth = Numeral.Integer.write n := rfl
    rw [hprint, h.bare.readValue?_append, h.readScalar?_append ht, readNumeral?_write]
    rfl
  | .float x, hx =>
    have hprint : (Value.float x).print depth = printFloat x := rfl
    rw [hprint, (bare_printFloat x).readValue?_append]
    exact readScalar?_printFloat (hx x (List.mem_singleton_self x)) ht
  | .text s, _ =>
    have hprint : (Value.text s).print depth = printText s.toList := rfl
    rw [hprint, printText_append, readValue?, readText?_append]
    rfl
  | .list [], _ => rfl
  | .record [], _ => rfl
  | .list (v :: r), hr =>
    obtain ⟨c, s, hs, -, hc⟩ := opens_print (depth + 1) v
    have skipped := skip_newLine_print (depth + 1) (depth + 1) v
      (Value.printItems (depth + 1) r ++ t)
    simp only [Value.print, List.length_cons, List.length_append, List.append_assoc,
      List.cons_append] at hf ⊢
    have items := readItems?_print (v :: r) hr (depth + 1) n (t := t) rfl (by omega)
    rw [← skipped] at items
    exact readValue?_list (by rw [skipped, hs]; rfl) hc items
  | .record ((k, v) :: r), hr =>
    have skipped (s : List Char) : skip (newLine (depth + 1) ++ (printText k.toList ++ s)) =
        printText k.toList ++ s := by
      rw [printText_append]
      exact skip_newLine (depth + 1) rfl _
    simp only [Value.print, List.length_cons, List.length_append, List.append_assoc,
      List.cons_append] at hf ⊢
    have fields := readFields?_print ((k, v) :: r) hr (depth + 1) n (t := t) rfl (by omega)
    rw [← skipped] at fields
    exact readValue?_record ((skipped _).trans (printText_append _ _)) (by decide) fields

theorem readItems?_print (items : List Value) (hi : Faithful (Value.floatsOf items))
    (depth fuel : Nat) {t : List Char} {v : Value} {r : List Value} (h : items = v :: r)
    (hf : (v.print depth).length + (Value.printItems depth r).length < fuel) :
    readItems? fuel (v.print depth ++ (Value.printItems depth r ++ t)) = some (items, t) := by
  obtain ⟨n, rfl⟩ : ∃ n, fuel = n + 1 := ⟨fuel - 1, by omega⟩
  match items, h with
  | [v], rfl =>
    simp only [Value.printItems, List.length_append, List.append_assoc,
      List.length_singleton] at hf ⊢
    exact readItems?_last (readValue?_print v hi.left depth n (by omega) (ends_cons rfl _))
  | v :: v' :: r', rfl =>
    simp only [Value.printItems, List.length_append, List.append_assoc, List.length_cons,
      List.cons_append] at hf ⊢
    refine readItems?_more (readValue?_print v hi.left depth n (by omega) (ends_cons rfl _)) ?_
    rw [skip_newLine_print]
    exact readItems?_print (v' :: r') hi.right depth n rfl (by omega)

theorem readFields?_print (fields : List (String × Value))
    (hi : Faithful (Value.floatsWithin fields)) (depth fuel : Nat)
    {t : List Char} {k : String} {v : Value} {r : List (String × Value)}
    (h : fields = (k, v) :: r)
    (hf : (v.print depth).length + (Value.printFields depth r).length < fuel) :
    readFields? fuel (printText k.toList ++ ':' :: ' ' :: (v.print depth ++
      (Value.printFields depth r ++ t))) = some (fields, t) := by
  obtain ⟨n, rfl⟩ : ∃ n, fuel = n + 1 := ⟨fuel - 1, by omega⟩
  match fields, h with
  | [(k, v)], rfl =>
    simp only [Value.printFields, List.length_append, List.append_assoc,
      List.length_singleton] at hf ⊢
    have close : Ends (newLine (depth - 1) ++ '\x7d' :: t) := ends_cons rfl _
    exact readFields?_last k (skip_print depth v _)
      (readValue?_print v hi.left depth n (by omega) close)
  | (k, v) :: (k', v') :: r', rfl =>
    simp only [Value.printFields, List.length_append, List.append_assoc, List.length_cons,
      List.cons_append] at hf ⊢
    refine readFields?_more k (skip_print depth v _)
      (readValue?_print v hi.left depth n (by omega) (ends_cons rfl _)) ?_
    rw [printText_append, skip_newLine depth rfl, ← printText_append]
    exact readFields?_print ((k', v') :: r') hi.right depth n rfl (by omega)
end

/-- The text of a value stands for that value and no other. -/
theorem parse?_render {v : Value} (hv : Faithful v.floats) : Value.parse? v.render = some v := by
  have h := readValue?_print v hv 0 _ (Nat.lt_succ_self _) ends_nil
  have skipped := skip_print 0 v []
  rw [List.append_nil] at h skipped
  simp only [Value.parse?, Value.render, String.toList_ofList, skipped]
  rw [h]
  rfl

theorem isAscii_of_numeric {s : List Char} (h : Numeric s) : IsAscii s := by
  intro c hc
  have hn := h.all c hc
  simp only [isNumeral, Bool.or_eq_true, beq_iff_eq] at hn
  rcases hn with ((((hd | rfl) | rfl) | rfl) | rfl) | rfl
  · exact Nat.lt_of_le_of_lt (Char.isDigit_iff_toNat.mp hd).2 (by decide)
  all_goals decide

theorem isAscii_printFloat (x : Float) : IsAscii (printFloat x) := by
  rw [printFloat]
  split
  · decide
  · next negative _ => cases negative <;> decide
  · next negative m e hx =>
    rw [Numeral.Decimal.write, hx]
    exact isAscii_of_numeric
      (numeric_of_layout (Numeral.Decimal.layout_writeMagnitude m e) negative)

theorem isAscii_newLine (depth : Nat) : IsAscii (newLine depth) :=
  isAscii_cons (by decide) fun c hc => by rw [(List.mem_replicate.mp hc).2]; decide

theorem isAscii_singleton {c : Char} (hc : c.toNat < 0x80) : IsAscii [c] :=
  isAscii_cons hc isAscii_nil

theorem isAscii_item {c : Char} (hc : c.toNat < 0x80) (depth : Nat) {s : List Char}
    (hs : IsAscii s) : IsAscii (c :: newLine depth ++ s) :=
  (isAscii_cons hc (isAscii_newLine depth)).append hs

theorem isAscii_field {c : Char} (hc : c.toNat < 0x80) (depth : Nat) (k : String) {s : List Char}
    (hs : IsAscii s) : IsAscii (c :: newLine depth ++ printText k.toList ++ ':' :: ' ' :: s) :=
  (isAscii_item hc depth (isAscii_printText _)).append
    (isAscii_cons (by decide) (isAscii_cons (by decide) hs))

mutual
theorem isAscii_print (depth : Nat) : ∀ v : Value, IsAscii (v.print depth)
  | .null => (by decide : IsAscii "null".toList)
  | .bool true => (by decide : IsAscii "true".toList)
  | .bool false => (by decide : IsAscii "false".toList)
  | .int n => isAscii_of_numeric (numeric_write n)
  | .float x => isAscii_printFloat x
  | .text s => isAscii_printText s.toList
  | .list [] => (by decide : IsAscii "[]".toList)
  | .record [] => (by decide : IsAscii "\x7b\x7d".toList)
  | .list (v :: r) => by
    rw [Value.print]
    exact (isAscii_item (by decide) _ (isAscii_print _ v)).append (isAscii_printItems _ r)
  | .record ((k, v) :: r) => by
    rw [Value.print]
    exact (isAscii_field (by decide) _ k (isAscii_print _ v)).append (isAscii_printFields _ r)

theorem isAscii_printItems (depth : Nat) : ∀ items, IsAscii (Value.printItems depth items)
  | [] => (isAscii_newLine _).append (isAscii_singleton (by decide))
  | v :: r => by
    rw [Value.printItems]
    exact (isAscii_item (by decide) _ (isAscii_print _ v)).append (isAscii_printItems _ r)

theorem isAscii_printFields (depth : Nat) : ∀ fields, IsAscii (Value.printFields depth fields)
  | [] => (isAscii_newLine _).append (isAscii_singleton (by decide))
  | (k, v) :: r => by
    rw [Value.printFields]
    exact (isAscii_field (by decide) _ k (isAscii_print _ v)).append (isAscii_printFields _ r)
end

end StreamWatch.Json
