import StreamWatch.Proofs.Browser.Frame
import StreamWatch.Proofs.Sample.RoundTrip
import StreamWatch.Runner.Common

/-! Files that stay as they are, and files that are written. Making directories touches no file, and
what is written to a path can be read from it. A check writes a report at most once, at its end. -/
namespace StreamWatch

namespace Report.FileTree

theorem files_makeMissing (t : FileTree) (place : Place) (parts : List String) :
    (t.makeMissing place parts).1.files = t.files := by
  induction parts generalizing t place with
  | nil => rfl
  | cons part more ih =>
    rw [makeMissing]
    split
    · rfl
    · dsimp only
      split
      · rfl
      · exact ih t _
      · exact ih { t with directories := t.directories ++ [(place.step part).text] } _

theorem files_makeAll (t : FileTree) (place : Place) (parts : List String) :
    (t.makeAll place parts).1.files = t.files := by
  induction parts generalizing place with
  | nil => rfl
  | cons part more ih =>
    rw [makeAll]
    split
    · rfl
    · dsimp only
      split
      · rfl
      · exact ih _
      · split
        · exact files_makeMissing t place (part :: more)
        · rfl

theorem files_makeDirectory (t : FileTree) (p : Path) : (t.makeDirectory p).1.files = t.files := by
  rw [makeDirectory]
  cases checkText p with
  | error f => rfl
  | ok _ => exact files_makeAll t _ _

theorem find?_putFile (place text : String) (files : List (String × String)) :
    (putFile place text files).find? (·.1 == place) = some (place, text) := by
  induction files with
  | nil => simp [putFile]
  | cons file r ih =>
    rw [putFile]
    by_cases h : file.1 = place
    · simp [h]
    · simp [h, ih]

theorem read?_of_write {t t' : FileTree} {p : Path} {text : String}
    (h : t.write p text = .ok t') : t'.read? p = some text := by
  obtain ⟨_, -, h⟩ := Sample.bind_ok h
  obtain ⟨_, -, h⟩ := Sample.bind_ok h
  dsimp only at h
  split at h
  · cases h
  · cases h
    rw [read?, find?_putFile]
    rfl

def Accepts (t : FileTree) (p : Path) : Prop :=
  (t.makeDirectory p.parent).2 = none ∧
    ∀ text, ∃ t', (t.makeDirectory p.parent).1.write p text = .ok t'

end Report.FileTree

namespace Browser

variable {τ α β : Type}

def World.Unwritten (u v : World τ) : Prop := v.files.files = u.files.files

instance : IsPreorder (World τ) World.Unwritten where
  refl _ := rfl
  trans _ _ _ h h' := h'.trans h

namespace Check

open World (Uncalled Unwritten)

theorem Advances.unwritten {act : Check τ α} (ha : Advances act) :
    Confined Unwritten Halt.Abrupt act :=
  ha.mono (fun _ _ h => congrArg Report.FileTree.files h.files) fun _ h => h

/-- Whatever comes of the check from `w`, no file is written or `D` holds at its end. -/
def Writes (D : World τ → Prop) (act : Check τ α) (w : World τ) : Prop :=
  Unwritten w (act w).2 ∨ D (act w).2

theorem Writes.bind {D : World τ → Prop} {act : Check τ α} {k : α → Check τ β} {w : World τ}
    (ha : Advances act)
    (hk : ∀ a v, act w = (.ok a, v) → World.Onward w v → Writes D (k a) v) :
    Writes D (act >>= k) w := by
  rcases hact : act w with ⟨h | a, v⟩
  · rw [Writes, bind_of_error hact]
    exact .inl (ha.unwritten.of_run hact)
  · rw [Writes, bind_of_ok hact]
    rcases hk a v hact (ha.of_run hact) with hv | hv
    · exact .inl (trans_of Unwritten (ha.unwritten.of_run hact) hv)
    · exact .inr hv

theorem makeDirectory_run (p : Report.Path) (w : World τ) :
    makeDirectory p w =
      (match (w.files.makeDirectory p).2 with
        | some f => .error (.fault f)
        | none => .ok (),
      { w with files := (w.files.makeDirectory p).1 }) := by
  have h : makeDirectory p w =
      (match (w.files.makeDirectory p).2 with
        | some f => throw (.fault f)
        | none => pure () : Check τ Unit)
      { w with files := (w.files.makeDirectory p).1 } := rfl
  rw [h]
  cases (w.files.makeDirectory p).2 with
  | some f => rfl
  | none => rfl

theorem unwritten_makeDirectory (p : Report.Path) (w : World τ) :
    Unwritten w (makeDirectory p w).2 := by
  rw [makeDirectory_run]
  exact w.files.files_makeDirectory p

theorem uncalled_makeDirectory (p : Report.Path) :
    Confined (τ := τ) Uncalled Halt.Abrupt (makeDirectory p) := by
  constructor
  · intro w
    rw [makeDirectory_run]
    exact ⟨rfl, rfl, rfl, rfl⟩
  · intro w h he
    rw [makeDirectory_run] at he
    cases hf : (w.files.makeDirectory p).2 with
    | none =>
      rw [hf] at he
      cases he
    | some f =>
      rw [hf] at he
      cases he
      rfl

theorem uncalled_writeFile (p : Report.Path) (text : String) :
    Confined (τ := τ) Uncalled Halt.Abrupt (writeFile p text) :=
  Confined.get.bind fun _ => (Confined.ofFault abrupt_fault _).bind fun _ =>
    .modify fun _ => ⟨rfl, rfl, rfl, rfl⟩

theorem writeFile_run (p : Report.Path) (text : String) (w : World τ) :
    writeFile p text w =
      match w.files.write p text with
      | .error f => (.error (.fault f), w)
      | .ok files => (.ok (), { w with files }) := by
  have h : writeFile p text w =
      (ofFault (w.files.write p text) >>= fun files => modify fun w => { w with files }) w := rfl
  rw [h]
  cases w.files.write p text with
  | error f => rfl
  | ok files => rfl

end Check
end Browser

namespace Report

open Browser (Check World)

variable {τ α : Type}

theorem write_run (payload : Json.Value) (path : Path) (echo : Bool) (w : World τ) :
    (World.Unwritten w (write payload path echo w).2 ∧
      ∃ h, (write payload path echo w).1 = .error h) ∨
    ((write payload path echo w).2.files.read? path = some (payload.render ++ "\n") ∧
      (write payload path echo w).1 = .ok ()) := by
  have hu := Check.unwritten_makeDirectory path.parent w
  rw [write]
  rcases hm : Check.makeDirectory path.parent w with ⟨h | _, u⟩
  · rw [hm] at hu
    rw [Check.bind_of_error hm]
    exact .inl ⟨hu, h, rfl⟩
  · rw [hm] at hu
    rw [Check.bind_of_ok hm]
    -- A payload without a text is refused before there is a file.
    by_cases hs : payload.isWritable = true
    · have hshown : payload.shown = .ok payload.render := by rw [Json.Value.shown, if_pos hs]
      rw [hshown, Check.bind_of_ok (Check.ofFault_ok _ u)]
      have hf := Check.writeFile_run path (payload.render ++ "\n") u
      cases hw : u.files.write path (payload.render ++ "\n") with
      | error f =>
        rw [hw] at hf
        rw [Check.bind_of_error hf]
        exact .inl ⟨hu, _, rfl⟩
      | ok files =>
        rw [hw] at hf
        obtain ⟨lines, hl⟩ := Check.log_run .info .report s!"Wrote report {path.toText}"
          { u with files }
        rw [Check.bind_of_ok hf, Check.bind_of_ok hl]
        right
        cases echo with
        | true => exact ⟨FileTree.read?_of_write hw, rfl⟩
        | false => exact ⟨FileTree.read?_of_write hw, rfl⟩
    · have hshown : payload.shown = .error .unwritableNumber := by
        rw [Json.Value.shown, if_neg hs]
      rw [hshown, Check.bind_of_error (Check.ofFault_error _ u)]
      exact .inl ⟨hu, _, rfl⟩

theorem read?_of_write_ok {payload : Json.Value} {path : Path} {echo : Bool} {w v : World τ}
    (h : write payload path echo w = (.ok (), v)) :
    v.files.read? path = some (payload.render ++ "\n") := by
  have hw := write_run payload path echo w
  rw [h] at hw
  rcases hw with ⟨-, e, he⟩ | ⟨hread, -⟩
  · cases he
  · exact hread

theorem write_of_accepts {payload : Json.Value} {path : Path} (echo : Bool) {w : World τ}
    (hp : payload.isWritable = true) (ha : w.files.Accepts path) :
    ∃ v, write payload path echo w = (.ok (), v) ∧
      v.files.read? path = some (payload.render ++ "\n") := by
  obtain ⟨hmade, hwritten⟩ := ha
  obtain ⟨files, hfiles⟩ := hwritten (payload.render ++ "\n")
  have hmake : Check.makeDirectory path.parent w =
      (.ok (), { w with files := (w.files.makeDirectory path.parent).1 }) := by
    rw [Check.makeDirectory_run, hmade]
  have hshown : payload.shown = .ok payload.render := by rw [Json.Value.shown, if_pos hp]
  have hwrite : Check.writeFile path (payload.render ++ "\n")
      { w with files := (w.files.makeDirectory path.parent).1 } = (.ok (), { w with files }) := by
    rw [Check.writeFile_run, hfiles]
  obtain ⟨lines, hl⟩ := Check.log_run .info .report s!"Wrote report {path.toText}"
    { w with files }
  rw [write, Check.bind_of_ok hmake, hshown, Check.bind_of_ok (Check.ofFault_ok _ _),
    Check.bind_of_ok hwrite, Check.bind_of_ok hl]
  cases echo with
  | true => exact ⟨_, rfl, FileTree.read?_of_write hfiles⟩
  | false => exact ⟨_, rfl, FileTree.read?_of_write hfiles⟩

theorem uncalled_write (payload : Json.Value) (path : Path) (echo : Bool) :
    Check.Confined (τ := τ) World.Uncalled Halt.Abrupt (write payload path echo) := by
  refine (Check.uncalled_makeDirectory _).bind fun _ =>
    (Check.Confined.ofFault Check.abrupt_fault _).bind fun text =>
    (Check.uncalled_writeFile _ _).bind fun _ => (Check.uncalled_log _ _ _).bind fun _ => ?_
  cases echo with
  | true => exact Check.uncalled_print _
  | false => exact .pure ()

theorem writes_write {D : World τ → Prop} {payload : Json.Value} {path : Path} {echo : Bool}
    {k : Unit → Check τ α} {w : World τ} (hk : ∀ x, Check.Advances (k x))
    (hD : ∀ v : World τ, w.calls <+: v.calls →
      v.files.read? path = some (payload.render ++ "\n") → D v) :
    Check.Writes D (write payload path echo >>= k) w := by
  have hw := write_run payload path echo w
  rcases hr : write payload path echo w with ⟨h | _, v⟩
  · rw [hr] at hw
    rw [Check.Writes, Check.bind_of_error hr]
    rcases hw with ⟨hu, -⟩ | ⟨-, hok⟩
    · exact .inl hu
    · cases hok
  · rw [hr] at hw
    rw [Check.Writes, Check.bind_of_ok hr]
    rcases hw with ⟨-, h, he⟩ | ⟨hread, -⟩
    · cases he
    · have hcalls : v.calls = w.calls := ((uncalled_write payload path echo).of_run hr).calls
      have hv := (hk ()).world v
      refine .inr (hD _ ?_ ?_)
      · rw [← hcalls]
        exact hv.calls
      · rw [hv.files]
        exact hread

end Report
end StreamWatch
