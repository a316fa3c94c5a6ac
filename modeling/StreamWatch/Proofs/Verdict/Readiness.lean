import StreamWatch.Proofs.Verdict.Rereading

/-! Readiness and failures. A page that is polled and a page that is judged have to show the same
media: apart from a stalled playback, a verdict has failures exactly where its second snapshot is
not ready. So a viewer that was ready fails its verdict only by its playback, or because its media
changed between two samples. -/
namespace StreamWatch.Verdict

open Sample (Snapshot)

theorem mem_failures_iff (v : Verdict) (settings : Poll.Settings) (f : Failure) :
    f ∈ v.failures settings ↔
      (f = .noTracks ∧ v.hasTracks = false) ∨
      (f = .noMetadata ∧ settings.requireMetadata = true ∧ v.hasMetadata = false) ∨
      (f = .fewBytes v.inboundBytes settings.minInboundBytes ∧
        v.inboundBytes ≤ settings.minInboundBytes) ∨
      (f = .fewAudioBytes v.inboundAudioBytes settings.minInboundAudioBytes ∧
        settings.requireAudio = true ∧ v.inboundAudioBytes ≤ settings.minInboundAudioBytes) ∨
      (f = .stalled ∧ v.playbackAdvanced = false) := by
  simp only [failures, List.mem_append, List.mem_ite_nil_left, List.mem_ite_nil_right,
    List.mem_singleton, Bool.and_eq_true, Bool.not_eq_true', Bool.not_eq_true,
    decide_eq_true_eq, or_assoc, and_comm]

theorem isReady_iff (settings : Poll.Settings) (before after : Snapshot) :
    settings.isReady after = true ↔
      ∀ f ∈ (ofSnapshots before after).failures settings, f = .stalled := by
  simp only [mem_failures_iff, or_imp, forall_and, and_imp, forall_eq, reduceCtorEq, imp_false]
  simp [Poll.Settings.isReady_iff, ofSnapshots]

theorem failures_eq_nil_iff (settings : Poll.Settings) (before after : Snapshot) :
    (ofSnapshots before after).failures settings = [] ↔
      settings.isReady after = true ∧
        before.playbackAdvanced after Playback.threshold = true := by
  have hstalled : .stalled ∈ (ofSnapshots before after).failures settings ↔
      before.playbackAdvanced after Playback.threshold = false := by
    simp [mem_failures_iff, ofSnapshots]
  rw [isReady_iff settings before after, List.eq_nil_iff_forall_not_mem]
  constructor
  · intro hnone
    refine ⟨fun f hf => absurd hf (hnone f), ?_⟩
    simpa using mt hstalled.mpr (hnone .stalled)
  · rintro ⟨hready, hplayed⟩ f hf
    obtain rfl := hready f hf
    rw [hplayed] at hstalled
    exact Bool.noConfusion (hstalled.mp hf)

def stalledText : String := "playback did not advance"

theorem stalledText_ne_append {count : String} (rest : String)
    (h : count.toList.head? = some 'i') : count ++ rest ≠ stalledText := by
  intro he
  have hfirst := congrArg (fun s : String => s.toList.head?) he
  simp [String.toList_append, List.head?_append, h, stalledText] at hfirst

theorem message_eq_stalledText_iff {f : Failure} {text : String} (h : f.message = .ok text) :
    text = stalledText ↔ f = .stalled := by
  have hcount (count : String) (hi : count.toList.head? = some 'i') (r : Except Fault String)
      (hr : r.map (count ++ ·) = .ok text) : text ≠ stalledText := by
    cases r with
    | error f => cases hr
    | ok rest =>
      cases hr
      exact stalledText_ne_append rest hi
  cases f with
  | noTracks =>
    cases h
    decide
  | noMetadata =>
    cases h
    decide
  | fewBytes found floor =>
    exact iff_of_false (hcount "inbound bytes " (by decide) (comparison found floor) h)
      Failure.noConfusion
  | fewAudioBytes found floor =>
    exact iff_of_false (hcount "inbound audio bytes " (by decide) (comparison found floor) h)
      Failure.noConfusion
  | stalled =>
    cases h
    simp [stalledText]

theorem complaints_eq_nil_iff (v : Verdict) (settings : Poll.Settings) :
    v.complaints settings = .ok [] ↔ v.failures settings = [] := by
  constructor
  · intro h
    exact List.forall₂_nil_right_iff.mp (Sample.mapM_ok_iff.mp h)
  · intro h
    rw [complaints, h]
    rfl

theorem filter_texts_eq_nil_iff {failures : List Failure} {texts : List String}
    (h : failures.mapM Failure.message = .ok texts) :
    texts.filter (· ≠ stalledText) = [] ↔ ∀ f ∈ failures, f = .stalled := by
  have htexts := Sample.mapM_ok_iff.mp h
  clear h
  induction htexts with
  | nil => simp
  | cons hf _ ih =>
    simp only [List.filter_cons, List.forall_mem_cons, ← ih, ← message_eq_stalledText_iff hf,
      decide_not, Bool.not_eq_true', decide_eq_false_iff_not]
    split <;> simp_all

theorem mapM_of_stalled {failures : List Failure} (h : ∀ f ∈ failures, f = .stalled) :
    failures.mapM Failure.message = .ok (failures.map fun _ => stalledText) := by
  induction failures with
  | nil => rfl
  | cons f rest ih =>
    obtain ⟨rfl, hrest⟩ := List.forall_mem_cons.mp h
    rw [List.mapM_cons, ih hrest]
    rfl

/-- A verdict is without complaints exactly if its second snapshot is ready and playback moved on;
without its complaint about playback, exactly if that snapshot is ready. A viewer that was ready
before is rejected only because playback stalled or its media changed. -/
theorem complaints_iff_isReady (settings : Poll.Settings) (before after : Snapshot) :
    ((ofSnapshots before after).complaints settings = .ok [] ↔
      settings.isReady after = true ∧
        before.playbackAdvanced after Playback.threshold = true) ∧
    ((∃ texts, (ofSnapshots before after).complaints settings = .ok texts ∧
        texts.filter (· ≠ "playback did not advance") = []) ↔
      settings.isReady after = true) ∧
    (settings.isReady before = true →
      (ofSnapshots before after).complaints settings ≠ .ok [] →
      before.playbackAdvanced after Playback.threshold = false ∨ ¬ before.SameMedia after) := by
  have hnil : (ofSnapshots before after).complaints settings = .ok [] ↔
      settings.isReady after = true ∧
        before.playbackAdvanced after Playback.threshold = true :=
    (complaints_eq_nil_iff _ settings).trans (failures_eq_nil_iff settings before after)
  refine ⟨hnil, ?_, fun hready hrejected => ?_⟩
  · rw [isReady_iff settings before after]
    constructor
    · rintro ⟨texts, htexts, hfilter⟩
      exact (filter_texts_eq_nil_iff htexts).mp hfilter
    · intro hstalled
      have htexts := mapM_of_stalled hstalled
      exact ⟨_, htexts, (filter_texts_eq_nil_iff htexts).mpr hstalled⟩
  · by_contra hsame
    obtain ⟨hplayed, hmedia⟩ := not_or.mp hsame
    refine hrejected (hnil.mpr ⟨?_, by simpa using hplayed⟩)
    rw [(not_not.mp hmedia).isReady, hready]

end StreamWatch.Verdict
