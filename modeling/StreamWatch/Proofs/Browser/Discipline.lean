import Mathlib.Data.List.Infix
import StreamWatch.Proofs.Session.Usage

/-! The discipline of calls. A page is sent to an address once, and sees the collector of peer
connections before that; it is evaluated only afterwards, and reloaded once at most. What a check
may still call is told by how its pages stand: one that is ready can be opened, one that is open can
be evaluated, and one that was not reloaded can be. -/
namespace StreamWatch.Browser

variable {τ α β : Type}

def Opened (made : List Call) (k : Nat) : Prop :=
  ∃ address timeoutMs, .goto k address timeoutMs ∈ made

def Reloaded (made : List Call) (k : Nat) : Prop := ∃ timeoutMs, .reload k timeoutMs ∈ made

/-- The collector was added to the page, or to its context before the page was created. -/
inductive Collected (made : List Call) (k : Nat) : Prop
  | inPage (h : .collectInPage k ∈ made) : Collected made k
  | inContext {context : Nat} {before after : List Call}
      (hmade : made = before ++ .newPage context k :: after)
      (h : .collectInContext context ∈ before) : Collected made k

/-- May the call be the next one? `reloads` says which pages may be reloaded. -/
def Permitted (reloads : List Call → Nat → Prop) (made : List Call) : Call → Prop
  | .goto k _ _ => Collected made k ∧ ¬ Opened made k
  | .evaluate k => Opened made k
  | .reload k _ => Opened made k ∧ ¬ Reloaded made k ∧ reloads made k
  | _ => True

def Disciplined (reloads : List Call → Nat → Prop) (made : List Call) : Prop :=
  ∀ history call, history ++ [call] <+: made → Permitted reloads history call

section

variable {reloads : List Call → Nat → Prop} {made more : List Call} {c : Call} {k : Nat}

theorem Opened.append (h : Opened made k) (more : List Call) : Opened (made ++ more) k := by
  obtain ⟨address, timeoutMs, hmem⟩ := h
  exact ⟨address, timeoutMs, List.mem_append_left more hmem⟩

theorem Collected.append (h : Collected made k) (more : List Call) :
    Collected (made ++ more) k := by
  cases h with
  | inPage h => exact .inPage (List.mem_append_left more h)
  | inContext hmade h => exact .inContext (by rw [hmade, List.append_assoc, List.cons_append]) h

theorem opened_snoc (h : Opened (made ++ [c]) k) :
    Opened made k ∨ ∃ address timeoutMs, c = .goto k address timeoutMs := by
  obtain ⟨address, timeoutMs, hmem⟩ := h
  rcases List.mem_append.mp hmem with hmem | hmem
  · exact .inl ⟨address, timeoutMs, hmem⟩
  · exact .inr ⟨address, timeoutMs, (List.mem_singleton.mp hmem).symm⟩

theorem reloaded_snoc (h : Reloaded (made ++ [c]) k) :
    Reloaded made k ∨ ∃ timeoutMs, c = .reload k timeoutMs := by
  obtain ⟨timeoutMs, hmem⟩ := h
  rcases List.mem_append.mp hmem with hmem | hmem
  · exact .inl ⟨timeoutMs, hmem⟩
  · exact .inr ⟨timeoutMs, (List.mem_singleton.mp hmem).symm⟩

theorem Disciplined.nil : Disciplined reloads [] := fun history call h => by
  simp at h

theorem Disciplined.snoc (h : Disciplined reloads made) (hc : Permitted reloads made c) :
    Disciplined reloads (made ++ [c]) := by
  intro history call hp
  rcases List.prefix_concat_iff.mp hp with heq | hp
  · obtain ⟨rfl, hlast⟩ := List.append_inj' heq rfl
    obtain rfl : call = c := by simpa using hlast
    exact hc
  · exact h history call hp

theorem Disciplined.opened_of_reloaded (h : Disciplined reloads made) (hk : Reloaded made k) :
    Opened made k := by
  obtain ⟨timeoutMs, hmem⟩ := hk
  obtain ⟨before, after, rfl⟩ := List.append_of_mem hmem
  have hcall := h before (.reload k timeoutMs) ⟨after, by simp⟩
  exact hcall.1.append _

end

/-- What is known of the calls so far: how they began, which contexts have the collector, and which
pages are ready to be opened, were opened, and were not reloaded. -/
structure Standing where
  past : List Call := []
  contexts : List Nat := []
  ready : List Nat := []
  opened : List Nat := []
  original : List Nat := []

structure Standing.Within (s t : Standing) : Prop where
  past : s.past <+: t.past := by exact List.nil_prefix
  contexts : s.contexts ⊆ t.contexts := by exact List.nil_subset _
  ready : s.ready.Sublist t.ready := by exact List.nil_sublist _
  opened : s.opened ⊆ t.opened := by exact List.nil_subset _
  original : s.original ⊆ t.original := by exact List.nil_subset _

def Standing.opening (s : Standing) (k : Nat) (ready : List Nat) : Standing :=
  { s with ready, opened := k :: s.opened, original := k :: s.original }

def Standing.reloading (s : Standing) (rest : List Nat) : Standing := { s with original := rest }

structure Trail (reloads : List Call → Nat → Prop) (s : Standing) (fresh : Nat)
    (made : List Call) : Prop where
  disciplined : Disciplined reloads made
  numbered : ∀ k, Opened made k → k < fresh
  past : s.past <+: made
  contexts : ∀ context ∈ s.contexts, .collectInContext context ∈ made
  ready : ∀ k ∈ s.ready, k < fresh ∧ Collected made k ∧ ¬ Opened made k
  distinct : s.ready.Nodup
  opened : ∀ k ∈ s.opened, Opened made k
  original : ∀ k ∈ s.original, ¬ Reloaded made k

def Call.Roams (opened : List Nat) : Call → Prop
  | .goto .. | .reload .. => False
  | .evaluate k => k ∈ opened
  | _ => True

namespace Trail

variable {reloads : List Call → Nat → Prop} {s : Standing} {fresh k : Nat} {made : List Call}

theorem nil (fresh : Nat) : Trail reloads {} fresh [] := by
  refine ⟨.nil, fun k hk => ?_, List.prefix_rfl, nofun, nofun, List.nodup_nil, nofun, nofun⟩
  obtain ⟨_, _, hmem⟩ := hk
  cases hmem

theorem higher {more : Nat} (h : Trail reloads s fresh made) (hm : fresh ≤ more) :
    Trail reloads s more made :=
  { h with
    numbered := fun k hk => Nat.lt_of_lt_of_le (h.numbered k hk) hm
    ready := fun k hk => ⟨Nat.lt_of_lt_of_le (h.ready k hk).1 hm, (h.ready k hk).2⟩ }

theorem weaken {s' : Standing} (hs : s'.Within s) (h : Trail reloads s fresh made) :
    Trail reloads s' fresh made where
  disciplined := h.disciplined
  numbered := h.numbered
  past := hs.past.trans h.past
  contexts c hc := h.contexts c (hs.contexts hc)
  ready k hk := h.ready k (hs.ready.subset hk)
  distinct := h.distinct.sublist hs.ready
  opened k hk := h.opened k (hs.opened hk)
  original k hk := h.original k (hs.original hk)

theorem remember (h : Trail reloads s fresh made) :
    Trail reloads { s with past := made } fresh made :=
  { h with past := List.prefix_rfl }

theorem snoc (h : Trail reloads s fresh made) {c : Call} (hc : Permitted reloads made c)
    (hopens : ∀ k address timeoutMs, c = .goto k address timeoutMs → k < fresh ∧ k ∉ s.ready)
    (hreloads : ∀ k timeoutMs, c = .reload k timeoutMs → k ∉ s.original) :
    Trail reloads s fresh (made ++ [c]) where
  disciplined := h.disciplined.snoc hc
  numbered k hk := by
    rcases opened_snoc hk with hk | ⟨_, _, hk⟩
    · exact h.numbered k hk
    · exact (hopens _ _ _ hk).1
  past := h.past.trans (List.prefix_append _ _)
  contexts c hc := List.mem_append_left _ (h.contexts c hc)
  ready k hk := by
    obtain ⟨hlt, hcollected, hnot⟩ := h.ready k hk
    refine ⟨hlt, hcollected.append _, fun ho => ?_⟩
    rcases opened_snoc ho with ho | ⟨_, _, ho⟩
    · exact hnot ho
    · exact (hopens _ _ _ ho).2 hk
  distinct := h.distinct
  opened k hk := (h.opened k hk).append _
  original k hk hr := by
    rcases reloaded_snoc hr with hr | ⟨_, hr⟩
    · exact h.original k hk hr
    · exact hreloads _ _ hr hk

theorem roam (h : Trail reloads s fresh made) {c : Call} (hc : c.Roams s.opened) :
    Trail reloads s fresh (made ++ [c]) := by
  refine h.snoc ?_ ?_ ?_
  · cases c with
    | goto => exact hc.elim
    | reload => exact hc.elim
    | evaluate j => exact h.opened j hc
    | _ => trivial
  · rintro k address timeoutMs rfl
    exact hc.elim
  · rintro k timeoutMs rfl
    exact hc.elim

theorem roams (h : Trail reloads s fresh made) {more : List Call}
    (hmore : ∀ c ∈ more, c.Roams s.opened) : Trail reloads s fresh (made ++ more) := by
  induction more generalizing made with
  | nil => rwa [List.append_nil]
  | cons c rest ih =>
    rw [List.append_cons]
    exact ih (h.roam (hmore c List.mem_cons_self)) fun d hd => hmore d (List.mem_cons_of_mem c hd)

theorem newPage (h : Trail reloads s fresh made) (hk : Collected made fresh) :
    Trail reloads { s with ready := s.ready ++ [fresh] } (fresh + 1) made := by
  have hhigher := h.higher (Nat.le_succ fresh)
  refine { hhigher with ready := fun j hj => ?_, distinct := ?_ }
  · rcases List.mem_append.mp hj with hj | hj
    · exact hhigher.ready j hj
    · obtain rfl := List.mem_singleton.mp hj
      exact ⟨Nat.lt_succ_self j, hk, fun ho => Nat.lt_irrefl j (h.numbered j ho)⟩
  · refine List.nodup_append.mpr ⟨h.distinct, List.pairwise_singleton _ _, fun j hj l hl => ?_⟩
    obtain rfl := List.mem_singleton.mp hl
    exact Nat.ne_of_lt (h.ready j hj).1

theorem goto {address : String} {timeoutMs : Int} {ready : List Nat} (hs : s.ready = k :: ready)
    (h : Trail reloads s fresh made) :
    Trail reloads (s.opening k ready) fresh (made ++ [.goto k address timeoutMs]) := by
  obtain ⟨hlt, hcollected, hnot⟩ := h.ready k (hs ▸ List.mem_cons_self)
  have hdistinct := h.distinct
  rw [hs, List.nodup_cons] at hdistinct
  have hrest : Standing.Within { s with ready } s := {
    past := List.prefix_rfl
    contexts := List.Subset.refl _
    ready := hs ▸ List.sublist_cons_self k ready
    opened := List.Subset.refl _
    original := List.Subset.refl _ }
  have hsent : Trail reloads { s with ready } fresh (made ++ [.goto k address timeoutMs]) := by
    refine (h.weaken hrest).snoc ⟨hcollected, hnot⟩ ?_ nofun
    rintro _ _ _ ⟨⟩
    exact ⟨hlt, hdistinct.1⟩
  refine { hsent with opened := fun j hj => ?_, original := fun j hj hr => ?_ }
  · rcases List.mem_cons.mp hj with rfl | hj
    · exact ⟨address, timeoutMs, List.mem_append_right _ (List.mem_singleton_self _)⟩
    · exact hsent.opened j hj
  · rcases List.mem_cons.mp hj with rfl | hj
    · rcases reloaded_snoc hr with hr | ⟨_, hr⟩
      · exact hnot (h.disciplined.opened_of_reloaded hr)
      · cases hr
    · exact hsent.original j hj hr

theorem reload {timeoutMs : Int} {rest : List Nat} (hs : s.original = k :: rest) (hk : k ∉ rest)
    (ho : k ∈ s.opened) (hr : ∀ history, s.past <+: history → reloads history k)
    (h : Trail reloads s fresh made) :
    Trail reloads (s.reloading rest) fresh (made ++ [.reload k timeoutMs]) := by
  have hrest : (s.reloading rest).Within s := {
    past := List.prefix_rfl
    contexts := List.Subset.refl _
    ready := List.Sublist.refl _
    opened := List.Subset.refl _
    original := hs ▸ List.subset_cons_self k rest }
  refine (h.weaken hrest).snoc ⟨h.opened k ho, h.original k (hs ▸ List.mem_cons_self),
    hr made h.past⟩ nofun ?_
  rintro _ _ ⟨⟩
  exact hk

end Trail

namespace World

def Stands (base : List Call) (reloads : List Call → Nat → Prop) (s : Standing) (w : World τ) :
    Prop :=
  ∃ made, w.calls = base ++ made ∧ Trail reloads s w.pages.length made

/-- From `u` to `v` every call was permitted by those before it. -/
def Behaves (reloads : List Call → Nat → Prop) (u v : World τ) : Prop :=
  ∃ made, v.calls = u.calls ++ made ∧ Disciplined reloads made

structure Roaming (opened : List Nat) (u v : World τ) : Prop where
  made : Calling (Call.Roams opened) u v
  pages : u.pages.length ≤ v.pages.length

variable {base : List Call} {reloads : List Call → Nat → Prop} {s : Standing} {u v w : World τ}

instance (opened : List Nat) : IsPreorder (World τ) (Roaming opened) where
  refl _ := ⟨.of_eq rfl, Nat.le_refl _⟩
  trans _ _ _ h h' := ⟨h.made.trans h'.made, Nat.le_trans h.pages h'.pages⟩

theorem Stands.start (reloads : List Call → Nat → Prop) (w : World τ) :
    Stands w.calls reloads {} w :=
  ⟨[], (List.append_nil _).symm, .nil _⟩

theorem Stands.roaming (h : Stands base reloads s u) (huv : Roaming s.opened u v) :
    Stands base reloads s v := by
  obtain ⟨made, hmade, htrail⟩ := h
  obtain ⟨more, hmore, hroams⟩ := huv.made
  exact ⟨made ++ more, by rw [hmore, hmade, List.append_assoc],
    (htrail.roams hroams).higher huv.pages⟩

theorem Stands.create (h : Stands base reloads s u) (more : List Call)
    (hcalls : v.calls = u.calls ++ more) (hpages : v.pages.length = u.pages.length + 1)
    (hmore : ∀ c ∈ more, c.Roams s.opened)
    (hcollected : ∀ made, (∀ context ∈ s.contexts, .collectInContext context ∈ made) →
      Collected (made ++ more) u.pages.length) :
    Stands base reloads { s with ready := s.ready ++ [u.pages.length] } v := by
  obtain ⟨made, hmade, htrail⟩ := h
  refine ⟨made ++ more, by rw [hcalls, hmade, List.append_assoc], ?_⟩
  rw [hpages]
  exact (htrail.roams hmore).newPage (hcollected made htrail.contexts)

theorem Stands.remember (h : Stands base reloads s w) :
    ∃ past, w.calls = base ++ past ∧ Stands base reloads { s with past } w := by
  obtain ⟨made, hmade, htrail⟩ := h
  exact ⟨made, hmade, made, hmade, htrail.remember⟩

theorem Stands.weaken (h : Stands base reloads s w) {s' : Standing} (hs : s'.Within s) :
    Stands base reloads s' w := by
  obtain ⟨made, hmade, htrail⟩ := h
  exact ⟨made, hmade, htrail.weaken hs⟩

theorem Stands.behaves (h : Stands u.calls reloads s v) : Behaves reloads u v := by
  obtain ⟨made, hmade, htrail⟩ := h
  exact ⟨made, hmade, htrail.disciplined⟩

theorem Stands.forget (h : Stands base reloads s w) {kept : List Nat} (hk : kept ⊆ s.opened) :
    Stands base reloads { opened := kept } w :=
  h.weaken { opened := hk }

theorem length_updatePage (w : World τ) (k : Nat) (f : Page τ → Page τ) :
    (w.updatePage k f).pages.length = w.pages.length := List.length_modify ..

end World

namespace Check

section

variable {R : World τ → World τ → Prop} [IsPreorder (World τ) R] {E : Halt → Prop}

theorem Confined.each_mem {act : α → Check τ β} {items : List α}
    (ha : ∀ a ∈ items, Confined R E (act a)) : Confined R E (Check.each act items) := by
  induction items with
  | nil => exact .pure []
  | cons a r ih =>
    exact (ha a List.mem_cons_self).bind fun _ =>
      (ih fun b hb => ha b (List.mem_cons_of_mem a hb)).bind fun _ => .pure _

end

abbrev Roams (opened : List Nat) (act : Check τ α) : Prop :=
  Confined (World.Roaming opened) (fun _ => True) act

section

variable {opened : List Nat}

theorem roams_ofFault (r : Except Fault α) : Roams (τ := τ) opened (ofFault r) :=
  .ofFault (fun _ => trivial) r

theorem roams_given (a : Option α) : Roams (τ := τ) opened (given a) := roams_ofFault _

theorem roams_failWith (failure : Option String) : Roams (τ := τ) opened (failWith failure) :=
  .failWith (fun _ => trivial) failure

theorem roams_log (level : Console.Level) (channel : Console.Channel) (message : String) :
    Roams (τ := τ) opened (log level channel message) := by
  refine .modify fun w => ?_
  split <;> exact ⟨.of_eq rfl, Nat.le_refl _⟩

theorem roams_print (line : String) : Roams (τ := τ) opened (print line) :=
  .modify fun _ => ⟨.of_eq rfl, Nat.le_refl _⟩

theorem roams_say (tone : Console.Tone) (message : String) :
    Roams (τ := τ) opened (say tone message) :=
  Confined.get.bind fun _ => (roams_ofFault _).bind fun _ => roams_print _

theorem roams_timestamp : Roams (τ := τ) opened timestamp := by
  refine Confined.get.bind fun w => ?_
  cases w.now with
  | none => exact .throw trivial
  | some now =>
    exact (Confined.modify fun _ => ⟨.of_eq rfl, Nat.le_refl _⟩).bind fun _ => .pure _

theorem roams_makeDirectory (p : Report.Path) : Roams (τ := τ) opened (makeDirectory p) := by
  refine Confined.get.bind fun w => ?_
  dsimp only
  refine (Confined.modify fun _ => ⟨.of_eq rfl, Nat.le_refl _⟩).bind fun _ => ?_
  split
  · exact .throw trivial
  · exact .pure ()

theorem roams_writeFile (p : Report.Path) (text : String) :
    Roams (τ := τ) opened (writeFile p text) :=
  Confined.get.bind fun _ => (roams_ofFault _).bind fun _ =>
    .modify fun _ => ⟨.of_eq rfl, Nat.le_refl _⟩

theorem roams_record {c : Call} (hc : c.Roams opened) : Roams (τ := τ) opened (record c) :=
  .modify fun w => ⟨.record w hc, Nat.le_refl _⟩

theorem roams_page (k : Nat) : Roams (τ := τ) opened (page k) := .page k

theorem roams_updatePage (k : Nat) (f : Page τ → Page τ) : Roams opened (updatePage k f) :=
  .modify fun w => ⟨.of_eq rfl, (w.length_updatePage k f).ge⟩

theorem roams_setClock (t : τ) : Roams opened (setClock t) :=
  .modify fun _ => ⟨.of_eq rfl, Nat.le_refl _⟩

theorem roams_launch (engine : Engine) (headless fakeMedia : Bool) :
    Roams (τ := τ) opened (launch engine headless fakeMedia) :=
  (roams_record (by trivial)).bind fun _ => Confined.get.bind fun _ =>
    (roams_failWith _).bind fun _ => Confined.get.bind fun _ =>
    (Confined.modify fun _ => ⟨.of_eq rfl, Nat.le_refl _⟩).bind fun _ => .pure _

theorem roams_newContext (browser : Nat) (publisher : Bool) :
    Roams (τ := τ) opened (newContext browser publisher) :=
  Confined.get.bind fun _ => (roams_record (by trivial)).bind fun _ => Confined.get.bind fun _ =>
    (roams_failWith _).bind fun _ =>
    (Confined.modify fun _ => ⟨.of_eq rfl, Nat.le_refl _⟩).bind fun _ => .pure _

theorem roams_evaluate {k : Nat} (hk : k ∈ opened) : Roams (τ := τ) opened (evaluate k) := by
  refine (roams_record (by exact hk)).bind fun _ => (roams_page k).bind fun p =>
    (roams_updatePage k _).bind fun _ => Confined.get.bind fun w =>
    (roams_ofFault _).bind fun t => (roams_setClock t).bind fun _ => ?_
  cases p.script.sample p.evaluated with
  | ok v => exact .pure v
  | error message => exact .throw trivial

theorem roams_wait (k : Nat) (ms : Option Int) : Roams (τ := τ) opened (wait k ms) := by
  refine (roams_record (by trivial)).bind fun _ => (roams_page k).bind fun p =>
    (roams_updatePage k _).bind fun _ => ?_
  cases p.script.wait p.waited with
  | interrupted => exact .throw trivial
  | fails message => exact .throw trivial
  | passes =>
    by_cases hl : p.waitsLeft = 0
    · simp only [if_pos hl]
      exact .throw trivial
    · simp only [if_neg hl]
      exact (roams_given ms).bind fun _ => Confined.get.bind fun _ =>
        (roams_ofFault _).bind roams_setClock

theorem roams_clickAt (k : Nat) (x y : Coordinate) : Roams (τ := τ) opened (clickAt k x y) :=
  (roams_record (by trivial)).bind fun _ => (roams_page k).bind fun _ =>
    (roams_updatePage k _).bind fun _ => roams_failWith _

theorem roams_screenshot (k : Nat) (path : String) :
    Roams (τ := τ) opened (screenshot k path) :=
  (roams_record (by trivial)).bind fun _ => (roams_page k).bind fun _ =>
    (roams_updatePage k _).bind fun _ => roams_failWith _

end

/-- From pages that stand like `s` the check leaves pages that stand like `s'`; where it halts, at
least the pages in `kept` were opened. -/
abbrev Obeys (base : List Call) (reloads : List Call → Nat → Prop) (kept : List Nat)
    (s : Standing) (act : Check τ α) (s' : α → Standing) : Prop :=
  Meets (World.Stands base reloads s) act (fun a => World.Stands base reloads (s' a))
    fun _ => World.Stands base reloads { opened := kept }

section

variable {base : List Call} {reloads : List Call → Nat → Prop} {kept : List Nat} {s : Standing}
  {k : Nat}

theorem Roams.attempted {act : Check τ α} (ha : Roams s.opened act) :
    Meets (World.Stands base reloads s) act (fun _ => World.Stands base reloads s)
      fun _ => World.Stands base reloads s := by
  intro w hw
  have hv := hw.roaming (ha.world w)
  generalize act w = r at hv ⊢
  obtain ⟨h | a, v⟩ := r
  · exact hv
  · exact hv

theorem Roams.obeys {act : Check τ α} (ha : Roams s.opened act) (hk : kept ⊆ s.opened) :
    Obeys base reloads kept s act fun _ => s :=
  ha.attempted.mono (fun _ hw => hw) (fun _ _ hv => hv) fun _ _ hv => hv.forget hk

theorem Roams.obeys_nil {act : Check τ α} (ha : Roams s.opened act) :
    Obeys base reloads [] s act fun _ => s :=
  ha.obeys (List.nil_subset _)

theorem Obeys.weaken {act : Check τ α} {s' more : α → Standing}
    (ha : Obeys base reloads kept s act s') (h : ∀ a, (more a).Within (s' a)) :
    Obeys base reloads kept s act more :=
  ha.mono (fun _ hw => hw) (fun a _ hv => hv.weaken (h a)) fun _ _ hv => hv

theorem obeys_refusal? {act : Check τ Unit} {s' : Standing}
    (ha : Meets (World.Stands base reloads s) act (fun _ => World.Stands base reloads s')
      fun _ => World.Stands base reloads s') (hk : kept ⊆ s'.opened) :
    Obeys base reloads kept s (refusal? act) fun _ => s' :=
  ha.refusal? (fun _ hv => hv) (fun _ _ hv => hv) fun _ _ _ hv => hv.forget hk

theorem obeys_pure {a : α} {s' : α → Standing} (h : s' a = s) :
    Obeys (τ := τ) base reloads kept s (Pure.pure a) s' :=
  .pure fun w hw => by rwa [h]

theorem obeys_throw {h : Halt} (hk : kept ⊆ s.opened) {s' : α → Standing} :
    Obeys (τ := τ) base reloads kept s (MonadExcept.throw h) s' :=
  .throw fun _ hw => hw.forget hk

theorem stands_ensuring {P : World τ → Prop} {act : Check τ α} {s' : α → Standing}
    {cleanUp : Check τ Unit}
    (ha : Meets P act (fun a => World.Stands base reloads (s' a))
      fun _ => World.Stands base reloads { opened := kept })
    (hc : ∀ opened, Roams opened cleanUp) (hk : ∀ a, kept ⊆ (s' a).opened) :
    Meets P (ensuring act cleanUp) (fun a => World.Stands base reloads (s' a))
      fun _ => World.Stands base reloads { opened := kept } := by
  refine ha.attempt.bind fun r => ?_
  cases r with
  | ok a => exact ((hc _).obeys (s := s' a) (hk a)).bind fun _ => obeys_pure rfl
  | error h =>
    exact ((hc _).obeys (s := { opened := kept }) (List.Subset.refl kept)).bind fun _ =>
      .throw fun _ hw => hw

theorem stands_closing {P : World τ → Prop} {act : Check τ α} {s' : α → Standing}
    (ha : Meets P act (fun a => World.Stands base reloads (s' a))
      fun _ => World.Stands base reloads {}) (browser : Nat) :
    Meets P (ensuring act (closeBrowser browser)) (fun a => World.Stands base reloads (s' a))
      fun _ => World.Stands base reloads {} :=
  stands_ensuring ha (fun _ => roams_record (by trivial)) fun _ => List.nil_subset _

theorem obeys_collectInContext (context : Nat) (hk : kept ⊆ s.opened) :
    Obeys (τ := τ) base reloads kept s (collectInContext context)
      fun _ => { s with contexts := context :: s.contexts } := by
  have hrefused : Roams (τ := τ) { s with contexts := context :: s.contexts }.opened
      (get >>= fun w => failWith (w.openings.collectInContext context)) :=
    Confined.get.bind fun _ => roams_failWith _
  refine Meets.bind ?_ fun _ => hrefused.obeys hk
  refine .modify fun w hw => ?_
  obtain ⟨made, hmade, htrail⟩ := hw
  have hroam := htrail.roam (c := .collectInContext context) trivial
  refine ⟨made ++ [.collectInContext context], by simp [hmade], { hroam with contexts := ?_ }⟩
  intro j hj
  rcases List.mem_cons.mp hj with rfl | hj
  · exact List.mem_append_right _ (List.mem_singleton_self _)
  · exact hroam.contexts j hj

theorem obeys_newPage {context : Nat} (hcontext : context ∈ s.contexts) (hk : kept ⊆ s.opened) :
    Obeys (τ := τ) base reloads kept s (newPage context)
      fun page => { s with ready := s.ready ++ [page] } := by
  intro w hw
  have hcalled := hw.roaming (v := w.calling (.newPage context w.pages.length))
    ⟨.record w trivial, Nat.le_refl _⟩
  rw [newPage_run]
  cases w.openings.page w.pages.length with
  | some message => exact hcalled.forget hk
  | none =>
    exact hw.create [.newPage context w.pages.length] rfl (List.length_append ..)
      (fun c hc => List.mem_singleton.mp hc ▸ trivial)
      fun made hcontexts => .inContext rfl (hcontexts context hcontext)

theorem attempted_goto {ready : List Nat} (hs : s.ready = k :: ready) (address : String)
    (timeoutMs : Int) :
    Meets (τ := τ) (World.Stands base reloads s) (goto k address timeoutMs)
      (fun _ => World.Stands base reloads (s.opening k ready))
      fun _ => World.Stands base reloads (s.opening k ready) := by
  refine Meets.bind (Q := fun _ => World.Stands base reloads (s.opening k ready)) ?_ fun _ => ?_
  · refine .modify fun w hw => ?_
    obtain ⟨made, hmade, htrail⟩ := hw
    exact ⟨made ++ [.goto k address timeoutMs], by simp [hmade], htrail.goto hs⟩
  · refine Roams.attempted ?_
    exact (roams_page k).bind fun _ => (roams_updatePage k _).bind fun _ =>
      (roams_failWith _).bind fun _ => roams_updatePage k _

theorem attempted_reload {rest : List Nat} (hs : s.original = k :: rest) (hrest : k ∉ rest)
    (ho : k ∈ s.opened) (hr : ∀ history, s.past <+: history → reloads history k)
    (timeoutMs : Int) :
    Meets (τ := τ) (World.Stands base reloads s) (reload k timeoutMs)
      (fun _ => World.Stands base reloads (s.reloading rest))
      fun _ => World.Stands base reloads (s.reloading rest) := by
  refine Meets.bind (Q := fun _ => World.Stands base reloads (s.reloading rest)) ?_
    fun _ => ?_
  · refine .modify fun w hw => ?_
    obtain ⟨made, hmade, htrail⟩ := hw
    exact ⟨made ++ [.reload k timeoutMs], by simp [hmade], htrail.reload hs hrest ho hr⟩
  · refine Roams.attempted ?_
    exact (roams_page k).bind fun _ => (roams_updatePage k _).bind fun _ => roams_failWith _

end

end Check
end StreamWatch.Browser
