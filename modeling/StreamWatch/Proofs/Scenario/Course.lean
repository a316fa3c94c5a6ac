import Mathlib.Data.List.Chain
import Mathlib.Data.List.Infix
import StreamWatch.Proofs.Poll.Frame
import StreamWatch.Scenario.Basic

/-! The course of a scenario. Its states follow one of six words; a point of its run is its progress
and the world at that moment, and a step from one point to the next works on open pages, and changes
the state only where what the state stands for has happened. -/
namespace StreamWatch.Scenario

open Browser (Call Timeline World)
open Browser.World (Called)
open Sample (Snapshot)

/-- The states of a whole scenario: with or without a click on the camera button, and live at most
twice, with a reload between. -/
def words : List (List State) :=
  [[], [.interacted]].flatMap fun click =>
    [[.timedOut], [.live, .reloaded, .polling, .timedOut], [.live, .reloaded, .polling, .live]].map
      fun rest => [.idle, .navigated] ++ click ++ [.polling] ++ rest

structure Documented (p : Progress) : Prop where
  head : p.transitions.head? = some .idle
  last : p.transitions.getLast? = some p.state
  word : ∃ word ∈ words, p.transitions <+: word

def mayEnter (history : List State) (state : State) : Bool :=
  match history.getLast?, state with
  | some .idle, .navigated | some .navigated, .interacted => true
  | some .navigated, .polling | some .interacted, .polling | some .reloaded, .polling => true
  | some .polling, .live | some .polling, .timedOut => true
  | some .live, .reloaded => !history.contains .reloaded
  | _, _ => false

theorem mem_all (a : State) : a ∈ State.all := by cases a <;> decide

theorem word_append {state : State} {history : List State}
    (hw : ∃ word ∈ words, history <+: word) (hm : mayEnter history state = true) :
    ∃ word ∈ words, history ++ [state] <+: word := by
  -- The words are few and short, so every way on from every beginning of one can be looked at.
  have h : ∀ word ∈ words, ∀ history ∈ word.inits, ∀ state ∈ State.all,
      mayEnter history state = true → ∃ word ∈ words, history ++ [state] <+: word := by
    decide +kernel
  obtain ⟨word, hword, hp⟩ := hw
  exact h word hword history ((List.mem_inits history word).mpr hp) state (mem_all state) hm

theorem Documented.enter {p : Progress} {state : State} (hp : Documented p)
    (hm : mayEnter p.transitions state = true) : Documented (p.enter state) where
  head := by rw [Progress.enter, List.head?_append, hp.head, Option.some_or]
  last := by rw [Progress.enter, List.getLast?_append, List.getLast?_singleton, Option.some_or]
  word := word_append hp.word hm

theorem documented_start : Documented {} := ⟨rfl, rfl, by decide⟩

structure Point (τ : Type) where
  progress : Progress
  world : World τ

variable {τ : Type} [Timeline τ]

/-- Steps of a scenario that was started in the world `start`; its viewers are reloaded only if
`again` says so. -/
inductive Step (s : Scenario) (again : Bool) (start : World τ) : Point τ → Point τ → Prop
  | worked (p : Progress) {u v : World τ} :
      World.Works u v → Step s again start ⟨p, u⟩ ⟨p, v⟩
  | clicked (p : Progress) {u v : World τ} (click : Session.Click) :
      World.Works u v → Step s again start ⟨p, u⟩ ⟨{ p with click := some click }, v⟩
  | navigated {p : Progress} {u : World τ} (lines : List Console.LogLine) :
      p.state = .idle →
      Called start (.goto s.publisher s.config.pushLink Session.navigationTimeoutMs) u →
      (u.page s.publisher).lastOpening = none →
      (∀ k ∈ s.viewers,
        Called start (.goto k s.config.viewLink Session.navigationTimeoutMs) u ∧
          (u.page k).lastOpening = none) →
      Step s again start ⟨p, u⟩ ⟨p.enter .navigated, { u with log := lines }⟩
  | interacted {p : Progress} {u : World τ} {click : Session.Click} {finder : Browser.Finder}
      (lines : List Console.LogLine) :
      p.state = .navigated →
      p.click = some click → click.attempted = true →
      Called start (.clickButton s.publisher finder Session.clickTimeoutMs) u →
      Step s again start ⟨p, u⟩ ⟨p.enter .interacted, { u with log := lines }⟩
  | polling {p : Progress} (u : World τ) (lines : List Console.LogLine) :
      p.state ∈ [State.navigated, .interacted, .reloaded] →
      Step s again start ⟨p, u⟩ ⟨p.enter .polling, { u with log := lines }⟩
  | live {p : Progress} {u v : World τ} {snapshots : List Snapshot}
      (lines : List Console.LogLine) :
      p.state = .polling →
      Poll.untilLiveWithin s.limits s.settings s.label s.viewers u = (.ok snapshots, v) →
      Step s again start ⟨p, u⟩ ⟨p.enter .live, { v with log := lines }⟩
  | timedOut {p : Progress} {u v : World τ} {label : String} {timeoutMs : Int}
      {last : List Snapshot} (lines : List Console.LogLine) :
      p.state = .polling →
      Poll.untilLiveWithin s.limits s.settings s.label s.viewers u =
        (.error (.notLive label timeoutMs last), v) →
      Step s again start ⟨p, u⟩ ⟨p.enter .timedOut, { v with log := lines }⟩
  | judged {p : Progress} {u v : World τ} (round : Round) :
      World.Works u v → p.state = .live → p.rounds.length < p.transitions.count .live →
      Step s again start ⟨p, u⟩ ⟨{ p with rounds := p.rounds ++ [round] }, v⟩
  | reloaded {p : Progress} {u : World τ} (lines : List Console.LogLine) :
      again = true →
      p.state = .live → .reloaded ∉ p.transitions →
      (∀ k ∈ s.viewers,
        Called start (.reload k Session.navigationTimeoutMs) u ∧
          (u.page k).lastReload = none) →
      Step s again start ⟨p, u⟩ ⟨p.enter .reloaded, { u with log := lines }⟩

variable {s : Scenario} {again : Bool} {start : World τ} {a b : Point τ}

theorem Step.documented (h : Step s again start a b) (ha : Documented a.progress) :
    Documented b.progress := by
  have hl := ha.last
  cases h with
  | worked p huv => exact ha
  | clicked p click => exact ⟨ha.head, ha.last, ha.word⟩
  | navigated lines hs => exact ha.enter (by simp [mayEnter, hl, hs])
  | interacted lines hs => exact ha.enter (by simp [mayEnter, hl, hs])
  | polling u lines hs =>
    simp only [List.mem_cons, List.not_mem_nil, or_false] at hs
    rcases hs with hs | hs | hs
    · exact ha.enter (by simp [mayEnter, hl, hs])
    · exact ha.enter (by simp [mayEnter, hl, hs])
    · exact ha.enter (by simp [mayEnter, hl, hs])
  | live lines hs => exact ha.enter (by simp [mayEnter, hl, hs])
  | timedOut lines hs => exact ha.enter (by simp [mayEnter, hl, hs])
  | judged round => exact ⟨ha.head, ha.last, ha.word⟩
  | reloaded lines _ hs hr => exact ha.enter (by simp [mayEnter, hl, hs, hr])

theorem Step.works (h : Step s again start a b) : World.Works a.world b.world := by
  have hpoll := Poll.quiet_untilLiveWithin (τ := τ) s.limits s.settings s.label s.viewers
  cases h with
  | worked p huv => exact huv
  | clicked p click huv => exact huv
  | judged round huv => exact huv
  | live lines hs hu =>
    exact (trans_of World.Quiet (hpoll.of_run hu) (World.quiet_log _ lines)).toWorks
  | timedOut lines hs hu =>
    exact (trans_of World.Quiet (hpoll.of_run hu) (World.quiet_log _ lines)).toWorks
  | _ => exact (World.quiet_log _ _).toWorks

theorem documented_of_chain {points : List (Point τ)}
    (h : (a :: points).IsChain (Step s again start)) (ha : Documented a.progress) :
    ∀ b ∈ a :: points, Documented b.progress := by
  induction points generalizing a with
  | nil => simpa using ha
  | cons b rest ih =>
    obtain ⟨hstep, hrest⟩ := List.isChain_cons_cons.mp h
    exact List.forall_mem_cons.mpr ⟨ha, ih hrest (hstep.documented ha)⟩

theorem works_of_chain {points : List (Point τ)} {last : Point τ}
    (h : (a :: points).IsChain (Step s again start))
    (hlast : (a :: points).getLast? = some last) :
    ∀ b ∈ a :: points, World.Works a.world b.world ∧ World.Works b.world last.world := by
  induction points generalizing a with
  | nil =>
    obtain rfl : a = last := by simpa using hlast
    simpa using refl_of World.Works a.world
  | cons b rest ih =>
    obtain ⟨hstep, hrest⟩ := List.isChain_cons_cons.mp h
    have hlater := ih hrest (by rwa [List.getLast?_cons_cons] at hlast)
    refine List.forall_mem_cons.mpr ⟨⟨refl_of World.Works _, ?_⟩, fun c hc => ?_⟩
    · exact trans_of World.Works hstep.works (hlater b List.mem_cons_self).2
    · exact ⟨trans_of World.Works hstep.works (hlater c hc).1, (hlater c hc).2⟩

end StreamWatch.Scenario
