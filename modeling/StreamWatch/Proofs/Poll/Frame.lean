import StreamWatch.Poll.Loop
import StreamWatch.Proofs.Session.Frame

/-! What a poll leaves as it is. It evaluates pages and waits, and it halts on many things but never
on a verdict. -/
namespace StreamWatch.Poll

open Browser (Check Timeline World)

variable {τ : Type}

def IsVerdict (h : Halt) : Prop := ∃ label verdict failures, h = .rejected label verdict failures

theorem not_isVerdict_of_abrupt {h : Halt} (ha : h.Abrupt) : ¬ IsVerdict h := by
  rintro ⟨label, verdict, failures, rfl⟩
  cases ha

theorem quiet_of_stays {σ α : Type} {act : Check σ α} (ha : Check.Stays act) :
    Check.Confined World.Quiet (fun h => ¬ IsVerdict h) act :=
  ha.mono (fun _ _ h => h) fun _ h => not_isVerdict_of_abrupt h

theorem quiet_waitOnFirst (pages : List Nat) (ms : Int) :
    Check.Confined World.Quiet (fun h => ¬ IsVerdict h) (waitOnFirst (τ := τ) pages ms) := by
  cases pages with
  | nil => exact .pure ()
  | cons first more => exact quiet_of_stays (Check.stays_wait first ms)

variable [Timeline τ]

theorem quiet_round (settings : Settings) (limits : Limits) (label : String) (pages : List Nat)
    (started : τ) (attempt : Nat) :
    Check.Confined World.Quiet (fun h => ¬ IsVerdict h)
      (round settings limits label pages started attempt) := by
  refine (Check.Confined.each (fun k => quiet_of_stays (Session.stays_collect k)) pages).bind
    fun snapshots => ?_
  split
  · exact (Check.Confined.get.bind fun _ => .pure _).bind fun _ =>
      (quiet_of_stays (Check.stays_ofFault _)).bind fun _ =>
      (quiet_of_stays (Check.stays_log _ _ _)).bind fun _ => .pure _
  · refine (quiet_of_stays (Check.stays_ofFault _)).bind fun _ =>
      (quiet_of_stays (Check.stays_log _ _ _)).bind fun _ =>
      (Check.Confined.get.bind fun _ => .pure _).bind fun span =>
      (quiet_of_stays (Check.stays_given limits.timeoutMs)).bind fun timeoutMs => ?_
    split
    · refine (quiet_of_stays (Check.stays_ofFault _)).bind fun _ =>
        (quiet_of_stays (Check.stays_log _ _ _)).bind fun _ => .throw ?_
      rintro ⟨_, _, _, h⟩
      cases h
    · exact (quiet_of_stays (Check.stays_ofFault _)).bind fun _ =>
        (quiet_of_stays (Check.stays_given _)).bind fun _ =>
        (quiet_waitOnFirst pages _).bind fun _ => .pure _

theorem quiet_rounds (settings : Settings) (limits : Limits) (label : String) (pages : List Nat)
    (started : τ) (left attempt : Nat) :
    Check.Confined World.Quiet (fun h => ¬ IsVerdict h)
      (rounds settings limits label pages started left attempt) := by
  induction left generalizing attempt with
  | zero =>
    refine (quiet_round settings limits label pages started attempt).bind fun answer => ?_
    cases answer with
    | some snapshots => exact .pure snapshots
    | none => exact .throw (not_isVerdict_of_abrupt rfl)
  | succ left ih =>
    refine (quiet_round settings limits label pages started attempt).bind fun answer => ?_
    cases answer with
    | some snapshots => exact .pure snapshots
    | none => exact ih (attempt + 1)

theorem quiet_untilLiveWithin (limits : Limits) (settings : Settings) (label : String)
    (pages : List Nat) :
    Check.Confined World.Quiet (fun h => ¬ IsVerdict h)
      (untilLiveWithin (τ := τ) limits settings label pages) := by
  refine Check.Confined.get.bind fun w => ?_
  cases pages with
  | nil => exact (Check.Confined.pure 0).bind fun left => quiet_rounds _ _ _ _ _ left 0
  | cons first more =>
    exact ((Check.Confined.page first).bind fun _ => .pure _).bind fun left =>
      quiet_rounds _ _ _ _ _ left 0

end StreamWatch.Poll
