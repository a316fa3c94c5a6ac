import StreamWatch.Proofs.Link.Codec
import StreamWatch.Proofs.Link.Joining
import StreamWatch.Runner.Publish

/-! Preparing the links of a publishing session. A parameter that a link lacks is added after those
that it has, and a link that has it stays as it is, so that preparing prepared links changes
nothing. -/
namespace StreamWatch.Link

open Parts (Formed IsScheme isClean formed_of_ofText ofText_toText)

def Splits (link : String) (p : Parts) : Prop :=
  Parts.ofText link.toList = .ok p ∧ p.authority ≠ []

def Parts.params (p : Parts) : Params := Params.decode p.query

/-- `q` has the parameters of `p` and then `more`, and is like `p` otherwise; where there is more, an
empty path became a slash. -/
structure Extends (p : Parts) (more : Params) (q : Parts) : Prop where
  scheme : q.scheme = p.scheme
  authority : q.authority = p.authority
  path : q.path = if p.path = [] ∧ more ≠ [] then ['/'] else p.path
  fragment : q.fragment = p.fragment
  params : q.params = p.params ++ more

theorem Extends.refl (p : Parts) : Extends p [] p where
  scheme := rfl
  authority := rfl
  path := (if_neg fun h => h.2 rfl).symm
  fragment := rfl
  params := (List.append_nil _).symm

theorem Extends.trans {p q r : Parts} {more others : Params} (h : Extends p more q)
    (hn : Extends q others r) : Extends p (more ++ others) r where
  scheme := hn.scheme.trans h.scheme
  authority := hn.authority.trans h.authority
  path := by
    rw [hn.path, h.path]
    by_cases hp : p.path = []
    · by_cases hm : more = []
      · simp [hp, hm]
      · simp [hp, hm]
    · simp [hp]
  fragment := hn.fragment.trans h.fragment
  params := by rw [hn.params, h.params, List.append_assoc]

namespace Params

def missing (key value : String) (params : Params) : Params :=
  if params.has key then [] else [(key, value)]

theorem has_append (key : String) (params more : Params) :
    (params ++ more).has key = (params.has key || more.has key) := List.any_append

theorem has_append_missing (key value : String) (params : Params) :
    (params ++ missing key value params).has key = true := by
  rw [has_append, missing]
  cases h : params.has key with
  | true => rfl
  | false => simp [has]

theorem missing_append_missing {key other : String} (h : other ≠ key) (value second : String)
    (params : Params) :
    missing key value (params ++ missing other second params) = missing key value params := by
  have hother : (missing other second params).has key = false := by
    unfold missing
    split
    · rfl
    · simp [has, h]
  rw [missing, has_append, hother, Bool.or_false, missing]

theorem isClean_of_mem_encode {params : Params} {c : Char} (h : c ∈ params.encode) :
    c ≠ '#' ∧ isClean c = true := by
  have hne {d : Char} (hd : isUnreserved d = false) (hm : d ∉ ['*', '+', '%', '=', '&']) :
      c ≠ d := by
    rintro rfl
    rcases mem_encode h with hc | hc
    · rw [hd] at hc
      cases hc
    · exact hm hc
  simp only [isClean, Bool.and_eq_true, decide_eq_true_eq]
  exact ⟨hne (by decide) (by decide), ⟨hne (by decide) (by decide), hne (by decide) (by decide)⟩,
    hne (by decide) (by decide)⟩

end Params

def Parts.adding (p : Parts) (key value : String) : Parts :=
  { p with
    path := if p.path = [] then ['/'] else p.path
    query := (p.params ++ [(key, value)]).encode }

theorem Parts.formed_adding {p : Parts} (h : Formed p) (key value : String) :
    Formed (p.adding key value) := by
  have hquery {c : Char} (hc : c ∈ (p.adding key value).query) : c ≠ '#' ∧ isClean c = true :=
    Params.isClean_of_mem_encode hc
  have hpath {c : Char} (hc : c ∈ (p.adding key value).path) : c = '/' ∨ c ∈ p.path := by
    unfold Parts.adding at hc
    dsimp only at hc
    split at hc
    · exact .inl (List.mem_singleton.mp hc)
    · exact .inr hc
  refine ⟨h.scheme, h.authority, fun ha => ?_, ⟨fun hc => ?_, fun hc => ?_⟩,
    fun hc => (hquery hc).1 rfl, fun c hc => ?_, h.brackets, h.normalForm⟩
  · unfold Parts.adding
    dsimp only
    split
    · exact .inr rfl
    · exact h.rooted ha
  · exact (hpath hc).elim (by decide) h.path.1
  · exact (hpath hc).elim (by decide) h.path.2
  · have hclean := h.clean c
    simp only [List.mem_append] at hc hclean
    rcases hc with ((hc | hc) | hc) | hc
    · exact hclean (.inl (.inl (.inl hc)))
    · rcases hpath hc with rfl | hc
      · rfl
      · exact hclean (.inl (.inl (.inr hc)))
    · exact (hquery hc).2
    · exact hclean (.inr hc)

theorem Parts.extends_adding (p : Parts) (key value : String) :
    Extends p [(key, value)] (p.adding key value) where
  scheme := rfl
  authority := rfl
  path := by
    simp [Parts.adding]
  fragment := rfl
  params := Params.decode_encode _

section

variable {link : String} {p : Parts}

theorem ensureText_of_has (h : Splits link p) {key : String} (hk : p.params.has key = true)
    (value : String) : ensureText link key value = .ok link := by
  have hlink : ensure link.toList key value = .ok link.toList := by
    rw [ensure, h.1]
    exact if_pos hk
  rw [ensureText, hlink, Except.map, String.ofList_toList]

theorem ensureText_of_lacks (h : Splits link p) {key : String} (hk : p.params.has key = false)
    (value : String) : ∃ next, ensureText link key value = .ok next ∧
      Splits next (p.adding key value) := by
  have hlink : ensure link.toList key value = .ok (p.adding key value).toText := by
    rw [ensure, h.1]
    exact if_neg (by rw [← Parts.params, hk]; decide)
  refine ⟨.ofList (p.adding key value).toText, ?_, ?_, h.2⟩
  · rw [ensureText, hlink, Except.map]
  · rw [String.toList_ofList]
    exact ofText_toText (Parts.formed_adding (formed_of_ofText h.1) key value) h.2

theorem ensureText_extends (h : Splits link p) (key value : String) :
    ∃ next q, ensureText link key value = .ok next ∧ Splits next q ∧
      Extends p (p.params.missing key value) q ∧ (p.params.has key = true → next = link) := by
  cases hk : p.params.has key with
  | true =>
    refine ⟨link, p, ensureText_of_has h hk value, h, ?_, fun _ => rfl⟩
    rw [Params.missing, if_pos hk]
    exact .refl p
  | false =>
    obtain ⟨next, hnext, hsplits⟩ := ensureText_of_lacks h hk value
    refine ⟨next, p.adding key value, hnext, hsplits, ?_, nofun⟩
    rw [Params.missing, if_neg (by rw [hk]; decide)]
    exact p.extends_adding key value

end
end StreamWatch.Link

namespace StreamWatch.Runner.Publish

open StreamWatch.Link (Extends Params Parts Splits ensureText ensureText_extends ensureText_of_has)

variable {push view : String} {p v : Parts}

theorem has_of_extends {key value : String} {q : Parts}
    (h : Extends p (p.params.missing key value) q) : q.params.has key = true := by
  rw [h.params]
  exact Params.has_append_missing key value p.params

theorem prepareLinks_ok {started push' view' : String}
    (hstarted : ensureText push "autostart" "1" = .ok started)
    (hpush : ensureText started "webcam" "1" = .ok push')
    (hview : ensureText view "cleanoutput" "1" = .ok view') :
    prepareLinks push view = .ok (push', view') := by
  simp only [prepareLinks, bind, Except.bind, hstarted, hpush, hview]
  rfl

theorem prepareLinks_extends (hp : Splits push p) (hv : Splits view v) :
    ∃ push' view' p' v', prepareLinks push view = .ok (push', view') ∧
      Splits push' p' ∧ Splits view' v' ∧
      Extends p (p.params.missing "autostart" "1" ++ p.params.missing "webcam" "1") p' ∧
      Extends v (v.params.missing "cleanoutput" "1") v' := by
  obtain ⟨started, s, hstarted, hs, hps, -⟩ := ensureText_extends hp "autostart" "1"
  obtain ⟨push', p', hpush, hp', hsp, -⟩ := ensureText_extends hs "webcam" "1"
  obtain ⟨view', v', hview, hv', hvv, -⟩ := ensureText_extends hv "cleanoutput" "1"
  have hboth := hps.trans hsp
  rw [hps.params, Params.missing_append_missing (by decide)] at hboth
  exact ⟨push', view', p', v', prepareLinks_ok hstarted hpush hview, hp', hv', hboth, hvv⟩

theorem prepareLinks_of_has (hp : Splits push p) (hv : Splits view v)
    (hstart : p.params.has "autostart" = true) (hcam : p.params.has "webcam" = true)
    (hclean : v.params.has "cleanoutput" = true) :
    prepareLinks push view = .ok (push, view) :=
  prepareLinks_ok (ensureText_of_has hp hstart "1") (ensureText_of_has hp hcam "1")
    (ensureText_of_has hv hclean "1")

/-- A parameter is added to a link that lacks it, at the end, and nothing else of the link changes
but for an empty path. Adding it again, with whatever value, and preparing prepared links change
nothing. -/
theorem ensured_links_keep_their_parts (hp : Splits push p) (hv : Splits view v) :
    (∀ key value, ∃ link, ensureText push key value = .ok link ∧
      (if p.params.has key then link = push
        else ∃ q, Splits link q ∧ q.scheme = p.scheme ∧ q.authority = p.authority ∧
          q.path = (if p.path = [] then ['/'] else p.path) ∧ q.fragment = p.fragment ∧
          q.params = p.params ++ [(key, value)]) ∧
      ∀ second, ensureText link key second = .ok link) ∧
    ∃ push' view' p' v', prepareLinks push view = .ok (push', view') ∧
      Splits push' p' ∧ Splits view' v' ∧
      Extends p (p.params.missing "autostart" "1" ++ p.params.missing "webcam" "1") p' ∧
      Extends v (v.params.missing "cleanoutput" "1") v' ∧
      p'.params.has "autostart" = true ∧ p'.params.has "webcam" = true ∧
      v'.params.has "cleanoutput" = true ∧
      prepareLinks push' view' = .ok (push', view') := by
  constructor
  · intro key value
    obtain ⟨link, q, hlink, hq, hpq, hsame⟩ := ensureText_extends hp key value
    refine ⟨link, hlink, ?_, fun second => ensureText_of_has hq (has_of_extends hpq) second⟩
    cases hk : p.params.has key with
    | true => exact hsame hk
    | false =>
      have hmissing : p.params.missing key value = [(key, value)] := by simp [Params.missing, hk]
      rw [hmissing] at hpq
      have hpath := hpq.path
      simp only [ne_eq, List.cons_ne_nil, not_false_eq_true, and_true] at hpath
      exact ⟨q, hq, hpq.scheme, hpq.authority, hpath, hpq.fragment, hpq.params⟩
  · obtain ⟨push', view', p', v', hlinks, hp', hv', hpp, hvv⟩ := prepareLinks_extends hp hv
    have hstart : p'.params.has "autostart" = true := by
      rw [hpp.params, ← List.append_assoc, Params.has_append, Params.has_append_missing]
      rfl
    have hcam : p'.params.has "webcam" = true := by
      have hne : "autostart" ≠ "webcam" := by decide
      have hmissing := Params.missing_append_missing hne "1" "1" p.params
      rw [hpp.params, ← List.append_assoc, ← hmissing, Params.has_append_missing]
    have hclean := has_of_extends hvv
    exact ⟨push', view', p', v', hlinks, hp', hv', hpp, hvv, hstart, hcam, hclean,
      prepareLinks_of_has hp' hv' hstart hcam hclean⟩

def untidyLink : String := " \tHTTPS://h.example?push=%zz&&a=+b&a=&webcam=0#f?g"

def untidyParts : Parts where
  scheme := "https".toList
  authority := "h.example".toList
  path := []
  query := "push=%zz&&a=+b&a=&webcam=0".toList
  fragment := "f?g".toList

theorem ensured_links_keep_their_parts_untidy :
    Splits untidyLink untidyParts ∧
    untidyParts.params = [("push", "%zz"), ("a", " b"), ("a", ""), ("webcam", "0")] ∧
    ∃ push view p v, prepareLinks untidyLink untidyLink = .ok (push, view) ∧
      Splits push p ∧ p.path = ['/'] ∧
      p.params =
        [("push", "%zz"), ("a", " b"), ("a", ""), ("webcam", "0"), ("autostart", "1")] ∧
      Splits view v ∧ v.path = ['/'] ∧
      v.params =
        [("push", "%zz"), ("a", " b"), ("a", ""), ("webcam", "0"), ("cleanoutput", "1")] ∧
      prepareLinks push view = .ok (push, view) := by
  have hsplits : Splits untidyLink untidyParts := ⟨rfl, by decide⟩
  have hparams :
      untidyParts.params = [("push", "%zz"), ("a", " b"), ("a", ""), ("webcam", "0")] := by
    decide
  obtain ⟨push, view, p, v, hlinks, hp, hv, hpp, hvv, -, -, -, hagain⟩ :=
    (ensured_links_keep_their_parts hsplits hsplits).2
  have hpush : p.params = _ := hpp.params
  have hview : v.params = _ := hvv.params
  rw [hparams] at hpush hview
  exact ⟨hsplits, hparams, push, view, p, v, hlinks, hp, hpp.path, hpush, hv, hvv.path, hview,
    hagain⟩

end StreamWatch.Runner.Publish
