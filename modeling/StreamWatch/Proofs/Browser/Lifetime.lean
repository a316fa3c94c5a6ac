import StreamWatch.Proofs.Session.Frame
import StreamWatch.Runner.Common

/-! The lifetime of a browser. A check launches it, works inside it, and closes it whatever comes of
the work; nothing is called after that. -/
namespace StreamWatch.Browser

variable {τ α β : Type}

namespace Call

def isBoundary : Call → Bool
  | .launch .. | .closeBrowser _ => true
  | _ => false

/-- The context of a page that was opened and told to collect its peer connections: the context
that opening the page ends with. -/
def openedContext? (openings : Openings) : Call → Option Nat
  | .newPage context page =>
    if openings.page page = none ∧ openings.collectInPage page = none then some context else none
  | _ => none

def closedContext? : Call → Option Nat
  | .closeContext context => some context
  | _ => none

theorem inside_of_isWork {c : Call} (h : c.isWork = true) : c.isBoundary = false := by
  cases c <;> first | rfl | cases h

theorem openedContext?_of_isWork {openings : Openings} {c : Call} (h : c.isWork = true) :
    c.openedContext? openings = none := by
  cases c <;> first | rfl | cases h

theorem closedContext?_of_isWork {c : Call} (h : c.isWork = true) : c.closedContext? = none := by
  cases c <;> first | rfl | cases h

end Call

/-- How a run went from `u` to `v`: no browser was launched, or Chromium did not start, or it was
closed by the last call. Of the calls between the launch and the end `Q` holds. -/
inductive Closed (Q : Openings → List Call → Prop) (u v : World τ) : Prop
  | unlaunched : v.calls = u.calls → Closed Q u v
  | refused {headless fakeMedia : Bool} {message : String} :
      u.launchFailure .chromium = some message →
      v.calls = u.calls ++ [.launch .chromium headless fakeMedia] →
      Closed Q u v
  | closed {headless fakeMedia : Bool} {inside : List Call} :
      u.launchFailure .chromium = none →
      (∀ c ∈ inside, c.isBoundary = false) →
      Q u.openings inside →
      v.calls = u.calls ++
        (.launch .chromium headless fakeMedia :: inside ++ [.closeBrowser u.browsers]) →
      Closed Q u v

section

variable {Q : Openings → List Call → Prop} {u v w : World τ}

theorem Closed.after (huv : World.Uncalled u v) (h : Closed Q v w) : Closed Q u w := by
  cases h with
  | unlaunched hcalls => exact .unlaunched (hcalls.trans huv.calls)
  | refused hfail hcalls =>
    rw [huv.launchFailure] at hfail
    rw [huv.calls] at hcalls
    exact .refused hfail hcalls
  | closed hfail hinside hQ hcalls =>
    rw [huv.launchFailure] at hfail
    rw [huv.calls, huv.browsers] at hcalls
    rw [huv.openings] at hQ
    exact .closed hfail hinside hQ hcalls

theorem Closed.before (h : Closed Q u v) (hvw : World.Uncalled v w) : Closed Q u w := by
  cases h with
  | unlaunched hcalls => exact .unlaunched (hvw.calls.trans hcalls)
  | refused hfail hcalls => exact .refused hfail (hvw.calls.trans hcalls)
  | closed hfail hinside hQ hcalls => exact .closed hfail hinside hQ (hvw.calls.trans hcalls)

end

namespace Check

section

variable {Q : Openings → List Call → Prop}

theorem closed_bind {act : Check τ α} {k : α → Check τ β}
    (ha : Confined World.Uncalled Halt.Abrupt act) (hk : ∀ a w, Closed Q w (k a w).2)
    (w : World τ) : Closed Q w ((act >>= k) w).2 :=
  ha.leads_bind (Closed Q) (fun huv => .unlaunched huv.calls) Closed.after hk w

theorem closed_then {act : Check τ α} {k : α → Check τ β} {u w : World τ}
    (ha : Closed Q u (act w).2) (hk : ∀ a, Confined World.Uncalled Halt.Abrupt (k a)) :
    Closed Q u ((act >>= k) w).2 :=
  Confined.trails_bind (Closed Q) hk Closed.before ha

theorem launch_run (message : String) (engine : Engine) (headless fakeMedia : Bool) (w : World τ) :
    ∃ lines, (log .info .session message >>= fun _ => launch engine headless fakeMedia) w =
      match w.launchFailure engine with
      | some refusal => (.error (.browser refusal),
          { w with log := lines, calls := w.calls ++ [.launch engine headless fakeMedia] })
      | none => (.ok w.browsers,
          { w with
            log := lines
            calls := w.calls ++ [.launch engine headless fakeMedia]
            browsers := w.browsers + 1 }) := by
  obtain ⟨lines, hl⟩ := log_run .info .session message w
  refine ⟨lines, ?_⟩
  have h : launch engine headless fakeMedia { w with log := lines } =
      (failWith (w.launchFailure engine) >>= fun _ => get >>= fun v =>
        modify (fun u => { u with browsers := v.browsers + 1 }) >>= fun _ => pure v.browsers)
        { w with log := lines, calls := w.calls ++ [.launch engine headless fakeMedia] } := rfl
  rw [bind_of_ok hl, h]
  cases w.launchFailure engine with
  | some refusal => rfl
  | none => rfl

theorem launchChromium_run (headless fakeMedia : Bool) (w : World τ) :
    ∃ lines, Session.launchChromium headless fakeMedia w =
      match w.launchFailure .chromium with
      | some message => (.error (.browser message),
          { w with log := lines, calls := w.calls ++ [.launch .chromium headless fakeMedia] })
      | none => (.ok w.browsers,
          { w with
            log := lines
            calls := w.calls ++ [.launch .chromium headless fakeMedia]
            browsers := w.browsers + 1 }) :=
  launch_run _ .chromium headless fakeMedia w

/-- A browser is closed after the work inside it, however that ends. -/
theorem closed_session {act : Nat → Check τ α} {k : α → Check τ β}
    (hact : ∀ browser u, ∃ inside, (act browser u).2.calls = u.calls ++ inside ∧
      (∀ c ∈ inside, c.isBoundary = false) ∧ Q u.openings inside)
    (hk : ∀ a, Confined World.Uncalled Halt.Abrupt (k a)) (headless fakeMedia : Bool)
    (w : World τ) : Closed Q w ((Session.launchChromium headless fakeMedia >>= fun browser =>
      ensuring (act browser) (closeBrowser browser) >>= k) w).2 := by
  obtain ⟨lines, hl⟩ := launchChromium_run headless fakeMedia w
  cases hf : w.launchFailure .chromium with
  | some message =>
    rw [hf] at hl
    rw [bind_of_error hl]
    exact .refused hf rfl
  | none =>
    rw [hf] at hl
    rw [bind_of_ok hl]
    refine closed_then ?_ hk
    obtain ⟨inside, hcalls, hinside, hQ⟩ := hact w.browsers { w with
      log := lines
      calls := w.calls ++ [.launch .chromium headless fakeMedia]
      browsers := w.browsers + 1 }
    have hend : (ensuring (act w.browsers) (closeBrowser w.browsers) { w with
        log := lines
        calls := w.calls ++ [.launch .chromium headless fakeMedia]
        browsers := w.browsers + 1 }).2.calls =
        w.calls ++ (.launch .chromium headless fakeMedia :: inside ++
          [.closeBrowser w.browsers]) := by
      rw [ensuring_run (closeBrowser_run w.browsers)]
      dsimp only
      rw [hcalls]
      simp
    exact .closed hf hinside hQ hend

end

abbrev Inside (act : Check τ α) : Prop :=
  Confined (World.Calling (·.isBoundary = false)) Halt.Abrupt act

section

variable {act : Check τ α}

theorem Works.inside (ha : Works act) : Inside act :=
  ha.mono (fun _ _ h => h.made.mono fun _ => Call.inside_of_isWork) fun _ h => h

theorem Stays.inside (ha : Stays act) : Inside act := ha.works.inside

theorem inside_of_uncalled (ha : Confined World.Uncalled Halt.Abrupt act) : Inside act :=
  ha.mono (fun _ _ h => .of_eq h.calls) fun _ h => h

theorem Inside.calls (ha : Inside act) (u : World τ) :
    ∃ inside, (act u).2.calls = u.calls ++ inside ∧ (∀ c ∈ inside, c.isBoundary = false) ∧
      True := by
  obtain ⟨inside, hcalls, hinside⟩ := ha.world u
  exact ⟨inside, hcalls, hinside, trivial⟩

end

theorem inside_record {c : Call} (hc : c.isBoundary = false) : Inside (τ := τ) (record c) :=
  .modify fun w => .record w hc

theorem inside_newContext (browser : Nat) (publisher : Bool) :
    Inside (τ := τ) (newContext browser publisher) :=
  Confined.get.bind fun _ => (inside_record rfl).bind fun _ => Confined.get.bind fun _ =>
    (stays_failWith _).inside.bind fun _ =>
    (Confined.modify fun _ => .of_eq rfl).bind fun _ => .pure _

theorem inside_newPage (context : Nat) : Inside (τ := τ) (newPage context) :=
  Confined.get.bind fun _ => (inside_record rfl).bind fun _ => Confined.get.bind fun _ =>
    (stays_failWith _).inside.bind fun _ => Confined.get.bind fun _ =>
    (Confined.modify fun _ => .of_eq rfl).bind fun _ => .pure _

theorem inside_collectInContext (context : Nat) :
    Inside (τ := τ) (collectInContext context) :=
  (inside_record rfl).bind fun _ => Confined.get.bind fun _ => (stays_failWith _).inside

theorem inside_collectInPage (page : Nat) : Inside (τ := τ) (collectInPage page) :=
  (inside_record rfl).bind fun _ => Confined.get.bind fun _ => (stays_failWith _).inside

theorem inside_openPage (browser : Nat) (publisher collectPeers : Bool) :
    Inside (τ := τ) (Session.openPage browser publisher collectPeers) := by
  refine (inside_newContext browser publisher).bind fun context =>
    (inside_newPage context).bind fun page => ?_
  split
  · exact (inside_collectInPage page).bind fun _ => .pure _
  · exact .pure _

end Check

structure Opens (contexts : List Nat) (u v : World τ) : Prop where
  openings : v.openings = u.openings
  counter : u.contexts ≤ v.contexts
  fresh : ∀ context ∈ contexts, u.contexts ≤ context ∧ context < v.contexts
  nodup : contexts.Nodup
  calls : ∃ made, v.calls = u.calls ++ made ∧ (∀ c ∈ made, c.isBoundary = false) ∧
    made.filterMap (Call.openedContext? u.openings) = contexts ∧
    made.filterMap Call.closedContext? = []

theorem Opens.nil (u : World τ) : Opens [] u u :=
  ⟨rfl, Nat.le_refl _, nofun, .nil, [], (List.append_nil _).symm, nofun, rfl, rfl⟩

theorem Opens.trans {xs ys : List Nat} {u v w : World τ} (h : Opens xs u v)
    (h' : Opens ys v w) : Opens (xs ++ ys) u w := by
  obtain ⟨made, hv, hmade, hopened, hclosed⟩ := h.calls
  obtain ⟨more, hw, hmore, hopened', hclosed'⟩ := h'.calls
  have hu := h.counter
  have hv' := h'.counter
  refine ⟨h'.openings.trans h.openings, Nat.le_trans hu hv', ?_, ?_, made ++ more, ?_, ?_, ?_, ?_⟩
  · intro context hc
    rcases List.mem_append.mp hc with hc | hc
    · obtain ⟨hle, hlt⟩ := h.fresh context hc
      exact ⟨hle, Nat.lt_of_lt_of_le hlt hv'⟩
    · obtain ⟨hle, hlt⟩ := h'.fresh context hc
      exact ⟨Nat.le_trans hu hle, hlt⟩
  · refine List.nodup_append.mpr ⟨h.nodup, h'.nodup, fun context hc other ho heq => ?_⟩
    have hlt := (h.fresh context hc).2
    have hle := (h'.fresh other ho).1
    omega
  · rw [hw, hv, List.append_assoc]
  · intro c hc
    rcases List.mem_append.mp hc with hc | hc
    · exact hmade c hc
    · exact hmore c hc
  · rw [List.filterMap_append, hopened, ← hopened', h.openings]
  · rw [List.filterMap_append, hclosed, hclosed', List.append_nil]

theorem openPage_opens (browser : Nat) (publisher : Bool) (w : World τ) :
    match Session.openPage browser publisher true w with
    | (.ok (context, _), v) => Opens [context] w v
    | (.error _, v) => Opens [] w v := by
  rw [Session.openPage_run]
  cases hc : w.openings.context w.contexts with
  | some message =>
    exact ⟨rfl, Nat.le_refl _, List.forall_mem_nil _, .nil, _, rfl, by simp [Call.isBoundary], rfl,
      rfl⟩
  | none =>
    cases hp : w.openings.page w.pages.length with
    | some message =>
      exact ⟨rfl, Nat.le_succ _, List.forall_mem_nil _, .nil, _, List.append_assoc ..,
        by simp [Call.isBoundary], by simp [Call.openedContext?, hp], rfl⟩
    | none =>
      have hmade : w.calls ++ [Call.newContext browser w.contexts publisher] ++
          [.newPage w.contexts w.pages.length] ++ [.collectInPage w.pages.length] =
          w.calls ++ [.newContext browser w.contexts publisher,
            .newPage w.contexts w.pages.length, .collectInPage w.pages.length] := by
        simp
      cases hx : w.openings.collectInPage w.pages.length with
      | some message =>
        exact ⟨rfl, Nat.le_succ _, List.forall_mem_nil _, .nil, _, hmade, by simp [Call.isBoundary],
          by simp [Call.openedContext?, hx], rfl⟩
      | none =>
        have hfresh : ∀ context ∈ [w.contexts],
            w.contexts ≤ context ∧ context < w.contexts + 1 := by
          simp
        exact ⟨rfl, Nat.le_succ _, hfresh, List.pairwise_singleton _ _, _, hmade,
          by simp [Call.isBoundary],
          by simp [List.filterMap_cons, Call.openedContext?, hp, hx], rfl⟩

def World.closing (w : World τ) (contexts : List Nat) : World τ :=
  { w with calls := w.calls ++ contexts.map .closeContext }

theorem World.closing_nil (w : World τ) : w.closing [] = w := by simp [World.closing]

theorem closeContexts_run (contexts : List Nat) (w : World τ) :
    Check.forEach Check.closeContext contexts w = (.ok (), w.closing contexts) := by
  induction contexts generalizing w with
  | nil =>
    rw [World.closing_nil]
    rfl
  | cons context rest ih =>
    have hfirst : Check.closeContext context w = (.ok (), w.closing [context]) := rfl
    have hboth : (w.closing [context]).closing rest = w.closing (context :: rest) := by
      simp [World.closing]
    rw [Check.forEach, Check.bind_of_ok hfirst, ih, hboth]

/-- Of the calls inside a browser: every context in which a page was opened is closed once, in the
order of opening. -/
structure ClosesContexts (openings : Openings) (inside : List Call) : Prop where
  order : inside.filterMap Call.closedContext? =
    inside.filterMap (Call.openedContext? openings)
  once : (inside.filterMap Call.closedContext?).Nodup

theorem filterMap_of_isWork {f : Call → Option Nat} {made : List Call}
    (hf : ∀ {c}, c.isWork = true → f c = none) (hmade : ∀ c ∈ made, c.isWork = true) :
    made.filterMap f = [] :=
  List.filterMap_eq_nil_iff.mpr fun c hc => hf (hmade c hc)

theorem closesContexts_of_opens {contexts : List Nat} {u v w : World τ}
    (hopens : Opens contexts u v) (hworks : World.Works v w) :
    ∃ inside, (w.closing contexts).calls = u.calls ++ inside ∧
      (∀ c ∈ inside, c.isBoundary = false) ∧ ClosesContexts u.openings inside := by
  obtain ⟨opening, hv, hopening, hopened, hclosed⟩ := hopens.calls
  obtain ⟨work, hw, hwork⟩ := hworks.made
  have hclosing : (contexts.map Call.closeContext).filterMap Call.closedContext? = contexts := by
    rw [List.filterMap_map]
    exact List.filterMap_some
  have hnone :
      (contexts.map Call.closeContext).filterMap (Call.openedContext? u.openings) = [] := by
    simp [List.filterMap_map, Function.comp_def, Call.openedContext?]
  have hends : (opening ++ work ++ contexts.map Call.closeContext).filterMap
      Call.closedContext? = contexts := by
    rw [List.filterMap_append, List.filterMap_append, hclosed, hclosing,
      filterMap_of_isWork Call.closedContext?_of_isWork hwork, List.nil_append, List.nil_append]
  have hbegins : (opening ++ work ++ contexts.map Call.closeContext).filterMap
      (Call.openedContext? u.openings) = contexts := by
    rw [List.filterMap_append, List.filterMap_append, hopened, hnone,
      filterMap_of_isWork Call.openedContext?_of_isWork hwork, List.append_nil, List.append_nil]
  refine ⟨opening ++ work ++ contexts.map .closeContext, ?_, ?_, ?_, ?_⟩
  · rw [World.closing, hw, hv, List.append_assoc, List.append_assoc, List.append_assoc]
  · intro c hc
    rcases List.mem_append.mp hc with hc | hc
    · rcases List.mem_append.mp hc with hc | hc
      · exact hopening c hc
      · exact Call.inside_of_isWork (hwork c hc)
    · obtain ⟨context, -, rfl⟩ := List.mem_map.mp hc
      rfl
  · rw [hends, hbegins]
  · rw [hends]
    exact hopens.nodup

end StreamWatch.Browser

namespace StreamWatch.Stream

open Browser (Check World)

theorem uncalled_announce {τ : Type} (env : Environment) :
    Check.Confined (τ := τ) World.Uncalled Halt.Abrupt (announce env) :=
  (Check.uncalled_log _ _ _).bind fun _ => (Check.uncalled_log _ _ _).bind fun _ => .pure _

end StreamWatch.Stream
