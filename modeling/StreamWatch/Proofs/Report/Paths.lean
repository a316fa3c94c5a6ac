import StreamWatch.Report.FileTree

/-! Paths in normal form are read back from their texts. A path that was read is in normal form, and
stays so where it goes on to a name, so that the text of a place in a directory is read as just that:
the parts of the directory and the name. -/
namespace StreamWatch.Report

namespace Path

structure IsPart (part : List Char) : Prop where
  nonempty : part ≠ []
  point : part ≠ ['.']
  slash : '/' ∉ part

structure Normal (p : Path) : Prop where
  root : p.root ∈ ["", "/", "//"]
  parts : ∀ part ∈ p.parts, IsPart part.toList

theorem normal_ofText (s : String) : (ofText s).Normal where
  root := by
    simp only [ofText, rootOf]
    split <;> simp
  parts := by
    intro part hpart
    obtain ⟨piece, hpiece, rfl⟩ := List.mem_map.mp hpart
    obtain ⟨hpiece, hkept⟩ := List.mem_filter.mp hpiece
    simp only [decide_not, Bool.and_eq_true, Bool.not_eq_true', decide_eq_false_iff_not] at hkept
    rw [String.toList_ofList]
    exact ⟨hkept.1, hkept.2, Text.notMem_of_mem_pieces hpiece⟩

theorem Normal.child {p : Path} (hp : p.Normal) {name : String} (hname : IsPart name.toList) :
    (p.child name).Normal where
  root := hp.root
  parts := by
    intro part hpart
    rcases List.mem_append.mp hpart with hpart | hpart
    · exact hp.parts part hpart
    · obtain rfl := List.mem_singleton.mp hpart
      exact hname

theorem rootOf_append {root : String} (hroot : root ∈ ["", "/", "//"]) {c : Char} (hc : c ≠ '/')
    (s : List Char) : rootOf (root.toList ++ c :: s) = root := by
  simp only [List.mem_cons, List.not_mem_nil, or_false] at hroot
  rcases hroot with rfl | rfl | rfl <;> simp [rootOf, hc]

theorem filter_pieces_append {root : String} (hroot : root ∈ ["", "/", "//"]) (s : List Char) :
    (Text.pieces '/' (root.toList ++ s)).filter (fun p => p ≠ [] && p ≠ ['.']) =
      (Text.pieces '/' s).filter fun p => p ≠ [] && p ≠ ['.'] := by
  simp only [List.mem_cons, List.not_mem_nil, or_false] at hroot
  rcases hroot with rfl | rfl | rfl <;> simp [Text.pieces]

theorem IsPart.head {part : List Char} (h : IsPart part) : ∃ c r, part = c :: r ∧ c ≠ '/' := by
  obtain ⟨c, r, rfl⟩ := List.exists_cons_of_ne_nil h.nonempty
  refine ⟨c, r, rfl, ?_⟩
  rintro rfl
  exact h.slash List.mem_cons_self

theorem toList_toText (root : String) (more : List String) {part : String} {c : Char}
    {r : List Char} (hpart : part.toList = c :: r) :
    ∃ s, ['/'].intercalate ((part :: more).map String.toList) = c :: s ∧
      (toText ⟨root, part :: more⟩).toList = root.toList ++ c :: s := by
  obtain ⟨s, hjoined⟩ : ∃ s, ['/'].intercalate ((part :: more).map String.toList) = c :: s := by
    cases more <;> simp [List.intercalate, hpart]
  have hlist : (root ++ String.intercalate "/" (part :: more)).toList = root.toList ++ c :: s := by
    rw [String.toList_append, String.toList_intercalate]
    exact congrArg _ hjoined
  have hne : root ++ String.intercalate "/" (part :: more) ≠ "" := by
    intro h
    rw [h] at hlist
    simp at hlist
  exact ⟨s, hjoined, by rw [toText, if_neg hne, hlist]⟩

theorem ofText_toText {p : Path} (hp : p.Normal) : ofText p.toText = p := by
  obtain ⟨root, parts⟩ := p
  obtain ⟨hroot, hparts⟩ := hp
  cases parts with
  | nil =>
    simp only [List.mem_cons, List.not_mem_nil, or_false] at hroot
    rcases hroot with rfl | rfl | rfl <;> decide
  | cons part more =>
    have hall : ∀ p ∈ (part :: more).map String.toList, IsPart p := by
      intro p hp
      obtain ⟨name, hname, rfl⟩ := List.mem_map.mp hp
      exact hparts name hname
    obtain ⟨c, r, hpart, hc⟩ := (hparts part List.mem_cons_self).head
    obtain ⟨s, hjoined, htext⟩ := toList_toText root more hpart
    have hpieces : Text.pieces '/' (c :: s) = (part :: more).map String.toList := by
      rw [← hjoined]
      exact Text.pieces_intercalate fun p hp => (hall p hp).slash
    have hkept : ((part :: more).map String.toList).filter (fun p => p ≠ [] && p ≠ ['.']) =
        (part :: more).map String.toList :=
      List.filter_eq_self.mpr fun p hp => by simp [(hall p hp).nonempty, (hall p hp).point]
    rw [ofText, htext, filter_pieces_append hroot, hpieces, hkept, rootOf_append hroot hc,
      List.map_map]
    simp [Function.comp_def]

theorem ofText_child (directory : String) {name : String} (hname : IsPart name.toList) :
    ofText ((ofText directory).child name).toText = (ofText directory).child name :=
  ofText_toText ((normal_ofText directory).child hname)

end Path

theorem Place.ofPath_child (p : Path) {name : String} (h : name ≠ "..") :
    ofPath (p.child name) = { ofPath p with names := (ofPath p).names ++ [name] } := by
  simp only [ofPath, Path.child, List.foldl_append, List.foldl_cons, List.foldl_nil, step, if_neg h]
  rfl

end StreamWatch.Report
