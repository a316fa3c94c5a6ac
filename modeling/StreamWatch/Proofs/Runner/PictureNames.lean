import StreamWatch.Proofs.Sample.RoundTrip
import StreamWatch.Proofs.Stream.FileNames
import StreamWatch.Runner.Matrix

/-! Where the pictures of several links go. The path of a picture is that of a name in the output
directory, and the name tells which link it is of; so no two of them are of one place. -/
namespace StreamWatch.Runner.Matrix

open Report (Path Place)

structure Places (directory : String) (index : Nat) (path name : String) : Prop where
  numbered : Stream.IsNumbered index ".png" name
  child : Path.ofText path = (Path.ofText directory).child name

section

variable {directory link path name : String} {outputDir : Option String} {index n i j : Nat}
  {links paths : List String}

theorem places_of_picturePath (h : picturePath link index directory = .ok path) :
    ∃ name, Places directory index path name := by
  obtain ⟨parts, -, h⟩ := Sample.bind_ok h
  obtain rfl := Except.ok.inj h
  have hname := Stream.isNumbered_fileName
    (if parts.query = [] then "" else String.ofList ('?' :: parts.query)) ".png" index
  exact ⟨_, hname, Path.ofText_child directory (hname.isPart (by decide))⟩

example : (picturePath "https://vdo.ninja/?view=../a" 100 "shots/./").toOption =
    some "shots/100__view_a.png" := by
  decide +kernel

theorem Places.ofPath (h : Places directory index path name) :
    Place.ofPath (.ofText path) = { Place.ofPath (.ofText directory) with
      names := (Place.ofPath (.ofText directory)).names ++ [name] } := by
  rw [h.child, Place.ofPath_child _ (h.numbered.ne (by decide))]

theorem Places.index_eq {otherPath other : String} (hi : Places directory i path name)
    (hj : Places directory j otherPath other)
    (hsame : Place.ofPath (.ofText path) = Place.ofPath (.ofText otherPath)) : i = j := by
  rw [hi.ofPath, hj.ofPath, Place.mk.injEq] at hsame
  have hnames : [name] = [other] := List.append_cancel_left hsame.2.2
  obtain rfl := List.head_eq_of_cons_eq hnames
  exact hi.numbered.unique hj.numbered

inductive Paths (outputDir : Option String) : Nat → List String → List String → Prop
  | stop (index : Nat) (links : List String) : Paths outputDir index links []
  | next {index : Nat} {directory link path : String} {links paths : List String}
      (given : outputDir = some directory) (named : picturePath link index directory = .ok path)
      (rest : Paths outputDir (index + 1) links paths) :
      Paths outputDir index (link :: links) (path :: paths)

theorem Paths.getElem? (h : Paths outputDir n links paths) {i : Nat}
    (hpath : paths[i]? = some path) :
    ∃ directory link, outputDir = some directory ∧ links[i]? = some link ∧
      picturePath link (n + i : Nat) directory = .ok path := by
  induction h generalizing i with
  | stop => cases hpath
  | @next n directory link _ links paths given named _ ih =>
    cases i with
    | zero =>
      obtain rfl := Option.some.inj hpath
      exact ⟨directory, link, given, rfl, named⟩
    | succ i =>
      obtain ⟨directory, link, given, hlink, hnamed⟩ := ih hpath
      exact ⟨directory, link, given, hlink, by rwa [Nat.add_right_comm] at hnamed⟩

theorem Paths.nodup (h : Paths outputDir n links paths) :
    (paths.map fun path => Place.ofPath (.ofText path)).Nodup := by
  induction h with
  | stop => exact List.nodup_nil
  | @next n directory link path links paths given named rest ih =>
    refine List.nodup_cons.mpr ⟨fun hmem => ?_, ih⟩
    obtain ⟨later, hlater, hsame⟩ := List.mem_map.mp hmem
    obtain ⟨i, hi⟩ := List.mem_iff_getElem?.mp hlater
    obtain ⟨sameDirectory, _, hgiven, -, hnamed⟩ := rest.getElem? hi
    obtain rfl : directory = sameDirectory := Option.some.inj (given.symm.trans hgiven)
    obtain ⟨name, hplace⟩ := places_of_picturePath named
    obtain ⟨other, hother⟩ := places_of_picturePath hnamed
    have hindex := hplace.index_eq hother hsame.symm
    omega

end

end StreamWatch.Runner.Matrix
