import StreamWatch.Proofs.Scenario.Stages
import StreamWatch.Proofs.Session.Blindness

/-! The stages of a scenario are blind to pictures: from the same progress, and in worlds that are
alike but for pictures, they leave the same progress and worlds that are still alike. -/
namespace StreamWatch.Scenario

open Browser (Check Timeline World)

variable {τ α β : Type}

namespace Staged

def Blind (act : Staged τ α) : Prop :=
  ∀ (p : Progress) (u v : World τ), u.Alike v →
    (act p u).1 = (act p v).1 ∧ (act p u).2.Alike (act p v).2

theorem Blind.bind {act : Staged τ α} {k : α → Staged τ β} (ha : Blind act)
    (hk : ∀ a, Blind (k a)) : Blind (act >>= k) := by
  intro p u v hw
  obtain ⟨hanswer, hworld⟩ := ha p u v hw
  rw [bind_run, bind_run]
  rcases hu : act p u with ⟨⟨r, q⟩, u'⟩
  rcases hv : act p v with ⟨⟨r', q'⟩, v'⟩
  rw [hu, hv] at hanswer hworld
  obtain ⟨rfl, rfl⟩ := Prod.mk.inj hanswer
  cases r with
  | ok a => exact hk a q u' v' hworld
  | error h => exact ⟨rfl, hworld⟩

theorem Blind.pure (a : α) : Blind (τ := τ) (Pure.pure a) := fun _ _ _ hw => ⟨rfl, hw⟩

theorem Blind.throw (h : Halt) : Blind (MonadExcept.throw h : Staged τ α) :=
  fun _ _ _ hw => ⟨rfl, hw⟩

theorem Blind.modify (f : Progress → Progress) : Blind (τ := τ) (modifyThe Progress f) :=
  fun _ _ _ hw => ⟨rfl, hw⟩

theorem Blind.onWorld {act : Check τ α} (ha : Check.Blind act) :
    Blind (Scenario.onWorld act) := by
  intro p u v hw
  obtain ⟨houtcome, hworld⟩ := ha u v hw
  rw [onWorld_run, onWorld_run, houtcome.eq]
  exact ⟨rfl, hworld⟩

theorem Blind.enter (s : Scenario) (state : State) : Blind (τ := τ) (s.enter state) := by
  intro p u v hw
  obtain ⟨lines, hu⟩ := enter_run s state p u
  obtain ⟨lines', hv⟩ := enter_run s state p v
  rw [hu, hv]
  exact ⟨rfl, hw⟩

theorem Blind.carry {act : Staged τ α} (ha : Blind act) (p : Progress) :
    Check.Blind (carry p act) :=
  fun u v hw => ⟨.ok (ha p u v hw).1, (ha p u v hw).2⟩

end Staged

open Staged (Blind)

theorem blind_start (s : Scenario) (startupWaitMs settleMs : Option Int) :
    Blind (τ := τ) (s.start startupWaitMs settleMs) := by
  have hviewers : Check.Blind (τ := τ)
      (Check.forEach (Session.openViewer · s.config.viewLink) s.viewers) :=
    .forEach (fun k => Session.blind_openViewer k _) _
  refine (Blind.onWorld (Session.blind_startPublisher _ _ _ _)).bind fun click =>
    (Blind.modify _).bind fun _ => (Blind.onWorld hviewers).bind fun _ =>
    (Blind.enter s .navigated).bind fun _ => ?_
  split
  · exact .enter s .interacted
  · exact .pure ()

theorem blind_poll [Timeline τ] (s : Scenario) : Blind (τ := τ) s.poll := by
  refine (Blind.enter s .polling).bind fun _ =>
    (Blind.onWorld (Poll.blind_untilLiveWithin _ _ _ _).attempt).bind fun outcome => ?_
  split
  · exact (Blind.enter s .live).bind fun _ => .pure _
  · exact (Blind.enter s .timedOut).bind fun _ => .throw _
  · exact .throw _

theorem blind_sampleViewers (s : Scenario) : Check.Blind (τ := τ) s.sampleViewers := by
  refine (Check.Blind.each Session.blind_collect _).bind fun befores => ?_
  cases s.viewers with
  | nil => exact (Check.Blind.throw _).bind fun _ =>
      (Check.Blind.each Session.blind_collect _).bind fun _ => .pure rfl
  | cons first more => exact (Check.blind_wait first _).bind fun _ =>
      (Check.Blind.each Session.blind_collect _).bind fun _ => .pure rfl

theorem blind_verify (s : Scenario) (name : String) : Blind (τ := τ) (s.verify name) := by
  refine (Blind.onWorld (blind_sampleViewers s)).bind fun samples =>
    (Blind.modify _).bind fun _ => (Blind.onWorld (.ofFault _)).bind fun halt? => ?_
  cases halt? with
  | some h => exact .throw h
  | none => exact .pure _

theorem blind_reloadViewer (page : Nat) : Check.Blind (τ := τ) (reloadViewer page) := by
  refine (Session.blind_reload page _).bind fun failure => ?_
  cases failure with
  | some reason =>
    refine (Check.twin_page page).bind fun p q hp => ?_
    rw [hp.asked Browser.Page.address fun _ => rfl]
    exact .throw _
  | none => exact Session.blind_nudge page

theorem blind_reloadViewers (s : Scenario) : Blind (τ := τ) s.reloadViewers :=
  (Blind.onWorld (.forEach blind_reloadViewer _)).bind fun _ => .enter s .reloaded

theorem blind_summary (s : Scenario) (p : Progress) : Check.Blind (τ := τ) (s.summary p) :=
  (Check.Blind.ofFault _).bind fun _ => Check.blind_timestamp.bind fun _ => .pure rfl

end StreamWatch.Scenario
