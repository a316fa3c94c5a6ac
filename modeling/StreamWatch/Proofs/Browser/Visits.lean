import StreamWatch.Proofs.Browser.Frame

/-! Navigations and reloads that went well: a page was called on the way from one world to another,
and the last such call of the page did not fail. That stays so until the page is sent elsewhere or
reloaded again. -/
namespace StreamWatch.Browser

variable {τ : Type}

def Page.lastOpening (p : Page τ) : Option String := p.script.openFailure (p.opened - 1)

def Page.lastReload (p : Page τ) : Option String := p.script.reloadFailure (p.reloaded - 1)

theorem Page.lastOpening_of_visits {p q : Page τ} (h : q.visits = p.visits) :
    q.lastOpening = p.lastOpening :=
  congrArg (fun v : PageScript τ × Nat × Nat => v.1.openFailure (v.2.1 - 1)) h

theorem Page.lastReload_of_visits {p q : Page τ} (h : q.visits = p.visits) :
    q.lastReload = p.lastReload :=
  congrArg (fun v : PageScript τ × Nat × Nat => v.1.reloadFailure (v.2.2 - 1)) h

namespace World

def Called (u : World τ) (c : Call) (v : World τ) : Prop :=
  ∃ made, v.calls = u.calls ++ made ∧ c ∈ made

variable {u v w : World τ} {c : Call}

theorem Called.calls (h : Called u c v) : u.calls <+: v.calls := by
  obtain ⟨made, hm, -⟩ := h
  exact ⟨made, hm.symm⟩

theorem Called.later (h : Called u c v) (hvw : v.calls <+: w.calls) : Called u c w := by
  obtain ⟨made, hm, hc⟩ := h
  obtain ⟨more, hw⟩ := hvw
  exact ⟨made ++ more, by rw [← hw, hm, List.append_assoc], List.mem_append_left more hc⟩

theorem Called.earlier (h : Called v c w) (huv : u.calls <+: v.calls) : Called u c w := by
  obtain ⟨made, hm, hc⟩ := h
  obtain ⟨before, hv⟩ := huv
  exact ⟨before ++ made, by rw [hm, ← hv, List.append_assoc], List.mem_append_right before hc⟩

theorem page_of_closed {k : Nat} (h : ¬ k < w.pages.length) : w.page k = Page.fresh w.blank := by
  rw [page, List.getD_eq_getElem?_getD, List.getElem?_eq_none (by omega), Option.getD_none]

theorem last_updatePage {last : Page τ → Option String} {f : Page τ → Page τ} {k : Nat}
    (hf : last (f (w.page k)) = none)
    (hfresh : last (f (Page.fresh w.blank)) = last (Page.fresh w.blank)) {j : Nat}
    (hj : j = k ∨ last (w.page j) = none) : last ((w.updatePage k f).page j) = none := by
  rw [page_modify]
  by_cases hjk : j = k
  · subst hjk
    by_cases hl : j < w.pages.length
    · rw [if_pos ⟨rfl, hl⟩]
      exact hf
    · -- The update does not reach a page that is not open, which stays a fresh one.
      rw [if_neg fun h => hl h.2, page_of_closed hl, ← hfresh, ← page_of_closed hl]
      exact hf
  · rw [if_neg fun h => hjk h.1]
    exact hj.resolve_left hjk

/-- On the way from `u` to `v` page `k` was called by `c` and went well; `last` tells of a page how
its last call of this kind went. No other page that went well before has failed since. -/
structure Visited (last : Page τ → Option String) (c : Call) (k : Nat) (u v : World τ) : Prop where
  called : Called u c v
  well : last (v.page k) = none
  kept : ∀ j, last (u.page j) = none → last (v.page j) = none

theorem Visited.quiet {last : Page τ → Option String} {k : Nat} (h : Visited last c k u v)
    (hlast : ∀ {p q : Page τ}, q.visits = p.visits → last q = last p) (hvw : Quiet v w) :
    Visited last c k u w where
  called := h.called.later hvw.calls
  well := (hlast (hvw.visits k)).trans h.well
  kept j hj := (hlast (hvw.visits j)).trans (h.kept j hj)

end World

namespace Check

open World (Visited)

variable {w v : World τ} {k : Nat}

theorem visited_of_goto {address : String} {timeoutMs : Int}
    (h : goto k address timeoutMs w = (.ok (), v)) :
    Visited Page.lastOpening (.goto k address timeoutMs) k w v := by
  rw [goto_run] at h
  cases hf : (w.page k).script.openFailure (w.page k).opened with
  | some message =>
    rw [hf] at h
    cases h
  | none =>
    rw [hf] at h
    cases h
    have hj (j : Nat) (hj : j = k ∨ (w.page j).lastOpening = none) :
        ((w.opening k address timeoutMs).page j).lastOpening = none :=
      World.last_updatePage (w := w) (k := k) hf rfl hj
    have hv : Visited Page.lastOpening (.goto k address timeoutMs) k w
        (w.opening k address timeoutMs) :=
      ⟨⟨_, rfl, List.mem_singleton_self _⟩, hj k (.inl rfl), fun j h => hj j (.inr h)⟩
    exact hv.quiet Page.lastOpening_of_visits (World.quiet_updatePage _ k fun _ => rfl)

theorem visited_of_reload {timeoutMs : Int} (h : reload k timeoutMs w = (.ok (), v)) :
    Visited Page.lastReload (.reload k timeoutMs) k w v := by
  rw [reload_run] at h
  cases hf : (w.page k).script.reloadFailure (w.page k).reloaded with
  | some message =>
    rw [hf] at h
    cases h
  | none =>
    rw [hf] at h
    cases h
    have hj (j : Nat) (hj : j = k ∨ (w.page j).lastReload = none) :
        ((w.reloading k timeoutMs).page j).lastReload = none :=
      World.last_updatePage (w := w) (k := k) hf rfl hj
    exact ⟨⟨_, rfl, List.mem_singleton_self _⟩, hj k (.inl rfl), fun j h => hj j (.inr h)⟩

theorem visited_of_forEach {act : Nat → Check τ Unit} {last : Page τ → Option String}
    {c : Nat → Call}
    (hact : ∀ k w v, act k w = (.ok (), v) → Visited last (c k) k w v) {pages : List Nat}
    (h : forEach act pages w = (.ok (), v)) :
    w.calls <+: v.calls ∧ (∀ k ∈ pages, World.Called w (c k) v ∧ last (v.page k) = none) ∧
      ∀ j, last (w.page j) = none → last (v.page j) = none := by
  induction pages generalizing w with
  | nil =>
    cases h
    exact ⟨List.prefix_rfl, fun k hk => absurd hk List.not_mem_nil, fun _ hj => hj⟩
  | cons k r ih =>
    rw [forEach] at h
    obtain ⟨_, u, hk, hr⟩ := bind_ok h
    have hv := hact k w u hk
    obtain ⟨hcalls, hall, hkept⟩ := ih hr
    refine ⟨hv.called.calls.trans hcalls, ?_, fun j hj => hkept j (hv.kept j hj)⟩
    intro j hj
    rcases List.mem_cons.mp hj with rfl | hj
    · exact ⟨hv.called.later hcalls, hkept j hv.well⟩
    · exact ⟨(hall j hj).1.earlier hv.called.calls, (hall j hj).2⟩

end Check
end StreamWatch.Browser
