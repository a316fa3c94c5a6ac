import Mathlib.Data.List.Induction
import Mathlib.Data.List.Nodup
import StreamWatch.Link.Query

/-! Parameters set one after the other. A name that is among them keeps its place and gets the new
value; another name comes last. Where the names are distinct, and setting keeps them so, the
parameters are a map in the order of insertion. -/
namespace StreamWatch.Link.Params

def keys (params : Params) : List String := params.map Prod.fst

def setAll (steps params : Params) : Params :=
  steps.foldl (fun params step => params.set step.1 step.2) params

variable {key value : String} {params after left right : Params} {p step : String × String}

theorem keys_append (params more : Params) : keys (params ++ more) = params.keys ++ more.keys :=
  List.map_append

theorem keys_cons (p : String × String) (params : Params) :
    keys (p :: params) = p.1 :: params.keys := rfl

theorem ne_of_notMem_keys (h : key ∉ params.keys) (hp : p ∈ params) : p.1 ≠ key := by
  rintro rfl
  exact h (List.mem_map_of_mem hp)

theorem exists_split (h : key ∈ params.keys) :
    ∃ (left : Params) (old : String) (right : Params),
      params = left ++ (key, old) :: right ∧ key ∉ left.keys := by
  obtain ⟨before, behind, split, first⟩ := List.eq_append_cons_of_mem h
  obtain ⟨left, rest, rfl, rfl, hrest⟩ := List.map_eq_append_iff.mp split
  obtain ⟨⟨_, old⟩, right, rfl, rfl, -⟩ := List.map_eq_cons_iff.mp hrest
  exact ⟨left, old, right, rfl, first⟩

/-- What setting one parameter can do: its pair gets the value where it stands, or comes last. Every
other pair stays as it is and where it is. -/
inductive Sets (key value : String) : Params → Params → Prop
  | replaced {left right : Params} (old : String) (before : key ∉ left.keys)
      (after : key ∉ right.keys) :
      Sets key value (left ++ (key, old) :: right) (left ++ (key, value) :: right)
  | added {params : Params} (missing : key ∉ params.keys) :
      Sets key value params (params ++ [(key, value)])

theorem set_append (h : key ∉ left.keys) (old : String) (right : Params) :
    set key value (left ++ (key, old) :: right) = left ++ (key, value) :: right := by
  induction left with
  | nil => exact if_pos rfl
  | cons p left ih =>
    rw [keys_cons, List.mem_cons, not_or] at h
    rw [List.cons_append, set, if_neg (Ne.symm h.1), ih h.2, List.cons_append]

theorem set_of_notMem (h : key ∉ params.keys) : params.set key value = params ++ [(key, value)] := by
  induction params with
  | nil => rfl
  | cons p params ih =>
    rw [keys_cons, List.mem_cons, not_or] at h
    rw [set, if_neg (Ne.symm h.1), ih h.2, List.cons_append]

theorem sets_set (distinct : params.keys.Nodup) (key value : String) :
    Sets key value params (params.set key value) := by
  by_cases h : key ∈ params.keys
  · obtain ⟨left, old, right, rfl, first⟩ := exists_split h
    -- A second pair of the name would keep its value, but there is none.
    have only : key ∉ right.keys := by
      rw [keys_append, keys_cons] at distinct
      exact (List.nodup_cons.mp distinct.of_append_right).1
    rw [set_append first]
    exact .replaced old first only
  · rw [set_of_notMem h]
    exact .added h

theorem Sets.keys_eq (h : Sets key value params after) :
    after.keys = if key ∈ params.keys then params.keys else params.keys ++ [key] := by
  cases h with
  | replaced old before after => simp [keys]
  | added missing =>
    rw [if_neg missing, keys_append]
    rfl

theorem Sets.nodup (h : Sets key value params after) (distinct : params.keys.Nodup) :
    after.keys.Nodup := by
  rw [h.keys_eq]
  split
  · exact distinct
  · next missing =>
    rw [← List.concat_eq_append]
    exact distinct.concat missing

theorem Sets.mem_iff (h : Sets key value params after) :
    p ∈ after ↔ p = (key, value) ∨ p.1 ≠ key ∧ p ∈ params := by
  cases h with
  | @replaced left right old before after =>
    have hleft : p ∈ left → p.1 ≠ key := ne_of_notMem_keys before
    have hright : p ∈ right → p.1 ≠ key := ne_of_notMem_keys after
    have hold : p = (key, old) → p.1 = key := congrArg Prod.fst
    simp only [List.mem_append, List.mem_cons]
    tauto
  | added missing =>
    have hparams : p ∈ params → p.1 ≠ key := ne_of_notMem_keys missing
    rw [List.mem_append, List.mem_singleton]
    tauto

theorem nodup_set (distinct : params.keys.Nodup) (key value : String) :
    (params.set key value).keys.Nodup := (sets_set distinct key value).nodup distinct

/-- Of the steps that set `key`, the last one sets it to `value`. -/
def LastSet (key value : String) (steps : Params) : Prop :=
  ∃ earlier later : Params, steps = earlier ++ (key, value) :: later ∧ key ∉ later.keys

theorem not_lastSet_nil : ¬LastSet key value [] := by
  rintro ⟨earlier, later, split, -⟩
  simp at split

theorem lastSet_concat_iff {steps : Params} : LastSet key value (steps ++ [step]) ↔
    (key, value) = step ∨ key ≠ step.1 ∧ LastSet key value steps := by
  constructor
  · rintro ⟨earlier, later, split, last⟩
    cases later using List.reverseRecOn with
    | nil => exact .inl (List.append_singleton_inj.mp split).2.symm
    | append_singleton later q =>
      rw [← List.cons_append, ← List.append_assoc, List.append_singleton_inj] at split
      obtain ⟨rfl, rfl⟩ := split
      rw [keys_append, List.mem_append, not_or] at last
      exact .inr ⟨fun h => last.2 (List.mem_singleton.mpr h), earlier, later, rfl, last.1⟩
  · rintro (rfl | ⟨other, earlier, later, rfl, last⟩)
    · exact ⟨steps, [], rfl, List.not_mem_nil⟩
    · refine ⟨earlier, later ++ [step], by simp, ?_⟩
      rw [keys_append, List.mem_append, not_or]
      exact ⟨last, fun h => other (List.mem_singleton.mp h)⟩

/-- The names that are set and were not there, each where it is set first. -/
def newKeys (steps params : Params) : List String :=
  steps.keys.eraseDups.filter (· ∉ params.keys)

theorem mem_newKeys {steps : Params} :
    key ∈ newKeys steps params ↔ key ∈ steps.keys ∧ key ∉ params.keys := by
  simp [newKeys]

theorem newKeys_concat (steps : Params) (step : String × String) (params : Params) :
    newKeys (steps ++ [step]) params =
      if step.1 ∈ params.keys ∨ step.1 ∈ steps.keys then newKeys steps params
      else newKeys steps params ++ [step.1] := by
  have hkeys : keys [step] = [step.1] := rfl
  rw [newKeys, keys_append, List.eraseDups_append, List.filter_append, ← newKeys, hkeys]
  by_cases hsteps : step.1 ∈ steps.keys
  · simp [List.removeAll, hsteps]
  · by_cases hparams : step.1 ∈ params.keys
    · simp [List.removeAll, List.eraseDups_cons, hsteps, hparams]
    · simp [List.removeAll, List.eraseDups_cons, hsteps, hparams]

theorem pairwise_newKeys (steps params : Params) : (newKeys steps params).Pairwise
    fun first second => steps.keys.idxOf first < steps.keys.idxOf second := by
  induction steps using List.reverseRecOn with
  | nil => exact .nil
  | append_singleton steps step ih =>
    have hkeys : keys (steps ++ [step]) = keys steps ++ [step.1] := keys_append steps [step]
    have place {name : String} (h : name ∈ newKeys steps params) :
        (keys (steps ++ [step])).idxOf name = (keys steps).idxOf name := by
      rw [hkeys]
      exact List.idxOf_append_of_mem (mem_newKeys.mp h).1
    have kept : (newKeys steps params).Pairwise fun first second =>
        (keys (steps ++ [step])).idxOf first < (keys (steps ++ [step])).idxOf second := by
      refine ih.imp_of_mem fun hfirst hsecond h => ?_
      rwa [place hfirst, place hsecond]
    rw [newKeys_concat]
    split
    · exact kept
    · next fresh =>
      -- The name that is set now for the first time comes last.
      have last : (keys (steps ++ [step])).idxOf step.1 = (keys steps).length := by
        rw [hkeys, List.idxOf_append_of_notMem fun h => fresh (.inr h)]
        simp
      refine List.pairwise_append.mpr ⟨kept, List.pairwise_singleton .., fun first hfirst => ?_⟩
      rw [List.forall_mem_singleton, place hfirst, last]
      exact List.idxOf_lt_length_iff.mpr (mem_newKeys.mp hfirst).1

theorem setAll_concat (steps : Params) (step : String × String) (params : Params) :
    setAll (steps ++ [step]) params = (setAll steps params).set step.1 step.2 :=
  List.foldl_concat ..

section

variable (distinct : params.keys.Nodup) (steps : Params)
include distinct

theorem nodup_setAll : (setAll steps params).keys.Nodup := by
  induction steps using List.reverseRecOn with
  | nil => exact distinct
  | append_singleton steps step ih =>
    rw [setAll_concat]
    exact nodup_set ih step.1 step.2

theorem sets_setAll (step : String × String) :
    Sets step.1 step.2 (setAll steps params) (setAll (steps ++ [step]) params) := by
  rw [setAll_concat]
  exact sets_set (nodup_setAll distinct steps) step.1 step.2

theorem keys_setAll : (setAll steps params).keys = params.keys ++ newKeys steps params := by
  -- By the last step, which can find its name set by the others.
  induction steps using List.reverseRecOn with
  | nil => exact (List.append_nil _).symm
  | append_singleton steps step ih =>
    have known : step.1 ∈ params.keys ++ newKeys steps params ↔
        step.1 ∈ params.keys ∨ step.1 ∈ keys steps := by
      rw [List.mem_append, mem_newKeys]
      tauto
    rw [(sets_setAll distinct steps step).keys_eq, ih, newKeys_concat, if_congr known rfl rfl]
    split
    · rfl
    · rw [List.append_assoc]

theorem mem_setAll_iff {key value : String} : (key, value) ∈ setAll steps params ↔
    LastSet key value steps ∨ key ∉ steps.keys ∧ (key, value) ∈ params := by
  induction steps using List.reverseRecOn with
  | nil => simp [setAll, keys, not_lastSet_nil]
  | append_singleton steps step ih =>
    have hstep : key ∈ keys [step] ↔ key = step.1 := List.mem_singleton
    rw [(sets_setAll distinct steps step).mem_iff, ih, lastSet_concat_iff, keys_append,
      List.mem_append, hstep]
    tauto

end

/-- The names are those there were and then the new ones, in the order in which they were set first;
each has the value that it got last, or had if it got none; and on the way every step did what
setting one parameter can do. -/
theorem setAll_insertionOrdered {params : Params} (distinct : params.keys.Nodup) (steps : Params) :
    (setAll steps params).keys.Nodup ∧
    (setAll steps params).keys = params.keys ++ newKeys steps params ∧
    (newKeys steps params).Pairwise
      (fun first second => steps.keys.idxOf first < steps.keys.idxOf second) ∧
    (∀ key value, (key, value) ∈ setAll steps params ↔
      LastSet key value steps ∨ key ∉ steps.keys ∧ (key, value) ∈ params) ∧
    ∀ earlier step, earlier ++ [step] <+: steps →
      Sets step.1 step.2 (setAll earlier params) ((setAll earlier params).set step.1 step.2) := by
  refine ⟨nodup_setAll distinct steps, keys_setAll distinct steps, pairwise_newKeys steps params,
    fun key value => mem_setAll_iff distinct steps, fun earlier step _ => ?_⟩
  have before := nodup_setAll distinct earlier
  exact sets_set before step.1 step.2

theorem setAll_insertionOrdered_repeated :
    let params : Params := [("cleanoutput", "1"), ("password", "old")]
    let steps : Params := [("room", "a"), ("password", "new"), ("webcam", "1"), ("room", "b")]
    let between : Params :=
      [("cleanoutput", "1"), ("password", "new"), ("room", "a"), ("webcam", "1")]
    params.keys.Nodup ∧
    (setAll steps params).keys = ["cleanoutput", "password", "room", "webcam"] ∧
    ("room", "b") ∈ setAll steps params ∧ ("cleanoutput", "1") ∈ setAll steps params ∧
    Sets "room" "b" between (between.set "room" "b") := by
  intro params steps between
  have distinct : params.keys.Nodup := by decide
  obtain ⟨-, order, -, value, step⟩ := setAll_insertionOrdered distinct steps
  refine ⟨distinct, order, (value _ _).mpr (.inl ?_), (value _ _).mpr (.inr ?_), ?_⟩
  · exact ⟨steps.dropLast, [], rfl, List.not_mem_nil⟩
  · decide
  · exact step [("room", "a"), ("password", "new"), ("webcam", "1")] ("room", "b") ⟨[], rfl⟩

end StreamWatch.Link.Params
