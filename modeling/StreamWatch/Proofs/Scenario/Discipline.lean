import StreamWatch.Proofs.Scenario.Verification
import StreamWatch.Proofs.Session.Discipline

/-! The stages of a scenario are disciplined. It opens its publisher and its viewers, each of them
once, evaluates no other page, and reloads a viewer only where that is allowed. -/
namespace StreamWatch.Scenario

open Browser (Call Check Standing Timeline World)
open Browser.Check (Obeys Roams)
open Sample (Snapshot)

variable {τ α β : Type}

def Staged.Obeys (base : List Call) (reloads : List Call → Nat → Prop) (kept : List Nat)
    (s : Standing) (act : Staged τ α) (s' : α → Standing) : Prop :=
  ∀ p w, w.Stands base reloads s → Browser.Ends (fun a => (act p w).2.Stands base reloads (s' a))
    (fun _ => (act p w).2.Stands base reloads { opened := kept }) (act p w).1.1

namespace Staged

variable {base : List Call} {reloads : List Call → Nat → Prop} {kept : List Nat}
  {s : Standing} {s' : α → Standing}

theorem Obeys.bind {s'' : β → Standing} {act : Staged τ α} {k : α → Staged τ β}
    (ha : Staged.Obeys base reloads kept s act s')
    (hk : ∀ a, Staged.Obeys base reloads kept (s' a) (k a) s'') :
    Staged.Obeys base reloads kept s (act >>= k) s'' := by
  intro p w hw
  have hend := ha p w hw
  rw [bind_run]
  generalize act p w = r at hend ⊢
  obtain ⟨⟨h | a, q⟩, v⟩ := r
  · exact hend
  · exact hk a q v hend

theorem Obeys.pure {a : α} (h : s' a = s) :
    Staged.Obeys (τ := τ) base reloads kept s (Pure.pure a) s' :=
  fun _ w hw => show w.Stands base reloads (s' a) by rwa [h]

theorem Obeys.throw {h : Halt} (hk : kept ⊆ s.opened) :
    Staged.Obeys (τ := τ) base reloads kept s (MonadExcept.throw h) s' :=
  fun _ _ hw => hw.forget hk

theorem Obeys.modify (f : Progress → Progress) :
    Staged.Obeys (τ := τ) base reloads kept s (modifyThe Progress f) fun _ => s :=
  fun _ _ hw => hw

theorem Obeys.onWorld {act : Check τ α} (ha : Check.Obeys base reloads kept s act s') :
    Staged.Obeys base reloads kept s (Scenario.onWorld act) s' :=
  fun _ w hw => ha w hw

theorem Obeys.roams {act : Check τ α} (ha : Roams s.opened act) (hk : kept ⊆ s.opened) :
    Staged.Obeys base reloads kept s (Scenario.onWorld act) fun _ => s :=
  .onWorld (ha.obeys hk)

theorem Obeys.enter (scenario : Scenario) (state : State) :
    Staged.Obeys (τ := τ) base reloads kept s (scenario.enter state) fun _ => s := by
  intro p w hw
  obtain ⟨lines, he⟩ := enter_run scenario state p w
  rw [he]
  exact hw

theorem Obeys.weaken {act : Staged τ α} (ha : Staged.Obeys base reloads kept s act s')
    {more : α → Standing} (h : ∀ a, (more a).Within (s' a)) :
    Staged.Obeys base reloads kept s act more :=
  fun p w hw => (ha p w hw).mono (fun a hv => hv.weaken (h a)) fun _ hv => hv

end Staged

section

variable {base : List Call} {reloads : List Call → Nat → Prop}

theorem obeys_openViewers {kept : List Nat} (viewers : List Nat) {s : Standing}
    (hs : s.ready = viewers) (hk : kept ⊆ s.opened) (address : String) :
    Obeys (τ := τ) base reloads kept s (Check.forEach (Session.openViewer · address) viewers)
      fun _ => { s with
        ready := []
        opened := viewers.reverse ++ s.opened
        original := viewers.reverse ++ s.original } := by
  induction viewers generalizing s with
  | nil =>
    refine Check.obeys_pure ?_
    rw [List.reverse_nil, List.nil_append, List.nil_append, ← hs]
  | cons viewer rest ih =>
    have hk : kept ⊆ viewer :: s.opened := List.subset_cons_of_subset viewer hk
    refine (Session.obeys_openViewer hs hk address).bind fun _ => ?_
    have hrest := ih (s := s.opening viewer rest) rfl hk
    simpa [Standing.opening] using hrest

variable (s : Scenario)

def unopened : Standing := { ready := s.publisher :: s.viewers }

def started : Standing := { opened := s.publisher :: s.viewers, original := s.viewers }

theorem obeys_start (startupWaitMs settleMs : Option Int) :
    Staged.Obeys (τ := τ) base reloads [s.publisher] s.unopened (s.start startupWaitMs settleMs)
      fun _ => s.started := by
  have hkept : [s.publisher] ⊆ (s.unopened.opening s.publisher s.viewers).opened :=
    List.Subset.refl _
  have hpublisher : Obeys (τ := τ) base reloads [s.publisher] s.unopened
      (Session.startPublisher s.publisher s.config.pushLink startupWaitMs settleMs)
      fun _ => s.unopened.opening s.publisher s.viewers :=
    Session.obeys_startPublisher rfl hkept _ _ _
  have hall : s.started.Within { s.unopened.opening s.publisher s.viewers with
      ready := []
      opened := s.viewers.reverse ++ [s.publisher]
      original := s.viewers.reverse ++ [s.publisher] } :=
    { opened := fun k hk => by
        simpa [started, or_comm] using hk
      original := fun k hk => List.mem_append_left _ (List.mem_reverse.mpr hk) }
  refine (Staged.Obeys.onWorld hpublisher).bind fun click => (Staged.Obeys.modify _).bind fun _ =>
    ((Staged.Obeys.onWorld (obeys_openViewers s.viewers rfl hkept _)).weaken fun _ => hall).bind
    fun _ => (Staged.Obeys.enter s .navigated).bind fun _ => ?_
  split
  · exact Staged.Obeys.enter s .interacted
  · exact Staged.Obeys.pure rfl

variable {s} {st : Standing} {kept : List Nat} (hviewers : s.viewers ⊆ st.opened)
  (hk : kept ⊆ st.opened)

include hviewers hk

theorem obeys_verify (name : String) :
    Staged.Obeys (τ := τ) base reloads kept st (s.verify name) fun _ => st := by
  have hsample : Roams (τ := τ) st.opened s.sampleViewers := by
    refine (Session.roams_collects hviewers).bind fun befores => ?_
    split
    · exact (Check.Confined.throw trivial).bind fun _ =>
        (Session.roams_collects hviewers).bind fun _ => .pure _
    · exact (Check.roams_wait _ _).bind fun _ =>
        (Session.roams_collects hviewers).bind fun _ => .pure _
  refine (Staged.Obeys.roams hsample hk).bind fun samples => (Staged.Obeys.modify _).bind fun _ =>
    (Staged.Obeys.roams (Check.roams_ofFault _) hk).bind fun halt? => ?_
  cases halt? with
  | some h => exact Staged.Obeys.throw hk
  | none => exact Staged.Obeys.pure rfl

theorem obeys_poll [Timeline τ] :
    Staged.Obeys (τ := τ) base reloads kept st s.poll fun _ => st := by
  refine (Staged.Obeys.enter s .polling).bind fun _ =>
    (Staged.Obeys.roams (Poll.roams_untilLiveWithin hviewers _ _ _).attempt hk).bind
      fun outcome => ?_
  split
  · exact (Staged.Obeys.enter s .live).bind fun _ => Staged.Obeys.pure rfl
  · exact (Staged.Obeys.enter s .timedOut).bind fun _ => Staged.Obeys.throw hk
  · exact Staged.Obeys.throw hk

omit hviewers hk

theorem obeys_reloadViewers {viewers : List Nat} (hdistinct : viewers.Nodup)
    (hs : st.original = viewers) (hviewers : viewers ⊆ st.opened) (hk : kept ⊆ st.opened)
    (hr : ∀ k ∈ viewers, ∀ history, st.past <+: history → reloads history k) :
    Obeys (τ := τ) base reloads kept st (Check.forEach reloadViewer viewers)
      fun _ => st.reloading [] := by
  induction viewers generalizing st with
  | nil =>
    refine Check.obeys_pure ?_
    rw [← hs, Standing.reloading]
  | cons viewer rest ih =>
    rw [List.nodup_cons] at hdistinct
    have hopened := List.cons_subset.mp hviewers
    have hreload : Obeys (τ := τ) base reloads kept st
        (Session.reload viewer Session.navigationTimeoutMs) fun _ => st.reloading rest :=
      Session.obeys_reload hs hdistinct.1 hopened.1 (hr viewer List.mem_cons_self) hk _
    have hk : kept ⊆ (st.reloading rest).opened := hk
    have hrest : Obeys (τ := τ) base reloads kept (st.reloading rest)
        (Check.forEach reloadViewer rest) fun _ => st.reloading [] :=
      ih hdistinct.2 rfl hopened.2 hk fun j hj => hr j (List.mem_cons_of_mem viewer hj)
    have hviewer : Obeys (τ := τ) base reloads kept st (reloadViewer viewer)
        fun _ => st.reloading rest := by
      refine hreload.bind fun failure => ?_
      cases failure with
      | some reason =>
        exact ((Check.roams_page viewer).obeys hk).bind
          fun _ => Check.obeys_throw hk
      | none => exact (Session.roams_nudge viewer).obeys hk
    exact hviewer.bind fun _ => hrest

end

end StreamWatch.Scenario

namespace StreamWatch

open Browser (Check Timeline World)
open Sample (Snapshot)

variable {τ : Type} [Timeline τ]

namespace Poll

structure Live (settings : Settings) (pages : List Nat) (snapshots : List Snapshot) : Prop where
  length : snapshots.length = pages.length
  ready : ∀ x ∈ snapshots, settings.isReady x = true

variable {settings : Settings} {limits : Limits} {label : String} {pages : List Nat}
  {snapshots : List Snapshot} {w v : World τ}

theorem live_of_round {started : τ} {attempt : Nat}
    (h : round settings limits label pages started attempt w = (.ok (some snapshots), v)) :
    Live settings pages snapshots := by
  obtain ⟨found, u, hfound, h⟩ := Check.bind_ok h
  split at h
  · next hready =>
    obtain ⟨_, _, -, h⟩ := Check.bind_ok h
    obtain ⟨_, _, -, h⟩ := Check.bind_ok h
    obtain ⟨_, _, -, h⟩ := Check.bind_ok h
    cases h
    exact ⟨(Session.sampled_of_each hfound).length, List.all_eq_true.mp hready⟩
  · obtain ⟨_, _, -, h⟩ := Check.bind_ok h
    obtain ⟨_, _, -, h⟩ := Check.bind_ok h
    obtain ⟨_, _, -, h⟩ := Check.bind_ok h
    obtain ⟨_, _, -, h⟩ := Check.bind_ok h
    split at h
    · obtain ⟨_, _, -, h⟩ := Check.bind_ok h
      cases h
    · obtain ⟨_, _, -, h⟩ := Check.bind_ok h
      obtain ⟨_, _, -, h⟩ := Check.bind_ok h
      obtain ⟨_, _, -, h⟩ := Check.bind_ok h
      cases h

theorem live_of_rounds {started : τ} {left attempt : Nat}
    (h : rounds settings limits label pages started left attempt w = (.ok snapshots, v)) :
    Live settings pages snapshots := by
  induction left generalizing attempt w with
  | zero =>
    obtain ⟨answer, u, hround, h⟩ := Check.bind_ok h
    cases answer with
    | none => cases h
    | some found =>
      cases h
      exact live_of_round hround
  | succ left ih =>
    obtain ⟨answer, u, hround, h⟩ := Check.bind_ok h
    cases answer with
    | none => exact ih h
    | some found =>
      cases h
      exact live_of_round hround

theorem live_of_untilLiveWithin
    (h : untilLiveWithin limits settings label pages w = (.ok snapshots, v)) :
    Live settings pages snapshots := by
  obtain ⟨_, _, -, h⟩ := Check.bind_ok h
  obtain ⟨_, _, -, h⟩ := Check.bind_ok h
  exact live_of_rounds h

end Poll

theorem Scenario.live_of_poll {s : Scenario} {p q : Scenario.Progress} {w v : World τ}
    {snapshots : List Snapshot} (h : s.poll p w = ((.ok snapshots, q), v)) :
    Poll.Live s.settings s.viewers snapshots := by
  obtain ⟨_, p₁, w₁, -, h⟩ := Staged.bind_ok h
  obtain ⟨outcome, p₂, w₂, houtcome, h⟩ := Staged.bind_ok h
  obtain ⟨houtcome, -⟩ := Staged.onWorld_ok houtcome
  rw [Check.attempt_run] at houtcome
  cases hpoll : Poll.untilLiveWithin s.limits s.settings s.label s.viewers w₁ with
  | mk r u =>
    rw [hpoll] at houtcome
    cases houtcome
    cases r with
    | ok found =>
      obtain ⟨_, p₃, w₃, -, h⟩ := Staged.bind_ok h
      cases h
      exact Poll.live_of_untilLiveWithin hpoll
    | error e =>
      cases e with
      | notLive label timeoutMs last =>
        obtain ⟨_, p₃, w₃, -, h⟩ := Staged.bind_ok h
        cases h
      | _ => cases h

end StreamWatch
