import StreamWatch.Proofs.Runner.Consistency
import StreamWatch.Proofs.Runner.Isolation
import StreamWatch.Proofs.Runner.PictureNames
import StreamWatch.Proofs.Runner.Shortfall
import StreamWatch.Proofs.Session.Pictures
import StreamWatch.Runner.Link

/-! The pictures of a run and what reports tell of them. The findings on a link, and on each of
several, hold the picture that was asked for with what came of it, and nothing else was asked for; so
the report tells of every picture that was refused. The report of a scenario tells of none. With
several links each picture has a place of its own, however the run ends. -/
namespace StreamWatch.Runner

open Browser (Check Shot World)
open Browser.Check (Advances Confined Meets Plain Writes)
open Browser.Rehearsal (get)
open Browser.World (Album)
open Json (Value)
open Report (Path Place)

variable {τ : Type}

def Leaves (output : Option String) (P : Value → World τ → Prop) (v : World τ) : Prop :=
  ∃ path report, output = some path ∧
    v.files.read? (.ofText path) = some (report.render ++ "\n") ∧ P report v

namespace Link

section

variable {u : World τ} {taken : List Shot} {n : Nat}

def Findings.shots (n : Nat) (r : Findings) : List Shot :=
  r.picture.toList.map fun p => ⟨n, p.path, p.failure⟩

theorem meets_takePicture {page : Nat} (hpage : page < n) (path : Option String) :
    Meets (Album u taken n) (takePicture page path)
      (fun picture => Album u
        (taken ++ picture.toList.map fun p => ⟨page, p.path, p.failure⟩) n)
      fun _ _ => True := by
  rw [takePicture]
  split
  · exact .pure fun _ hw => by simpa using hw
  · exact (Session.meets_takeScreenshot hpage _).bind fun _ => .pure fun _ hv => hv

theorem meets_inspect (o : Options) (settings : Poll.Settings) (browser : Nat) :
    Meets (Album u taken n) (inspect o settings browser)
      (fun r => Album u (taken ++ r.shots n) (n + 1)) fun _ _ => True := by
  apply (Session.meets_openPage (fun _ _ _ _ => trivial) browser false).bind
  rintro ⟨context, page⟩
  apply Meets.known
  rintro rfl
  apply (Session.plain_openLink page _).meets.bind
  intro _
  apply (Check.plain_wait page _).meets.bind
  intro _
  apply (Session.plain_nudge page).meets.bind
  intro _
  apply (Check.plain_wait page _).meets.bind
  intro _
  apply (Session.plain_collect page).meets.bind
  intro snapshot
  apply Check.plain_timestamp.meets.bind
  intro startedAt
  apply Report.plain_host.meets.bind
  intro host
  apply (meets_takePicture (Nat.lt_succ_self page) o.screenshot).bind
  intro picture
  apply (Check.plain_closeContext context).meets.bind
  intro _
  exact .pure fun _ hv => hv

end

theorem advances_takePicture (page : Nat) (path : Option String) :
    Advances (τ := τ) (takePicture page path) := by
  rw [takePicture]
  split
  · exact .pure none
  · exact (Session.stays_takeScreenshot page _).advances.bind fun _ => .pure _

theorem advances_inspect (o : Options) (settings : Poll.Settings) (browser : Nat) :
    Advances (τ := τ) (inspect o settings browser) :=
  (Session.advances_openPage browser false true).bind fun (_, page) =>
    (Session.works_openLink page _).advances.bind fun _ =>
    (Check.stays_wait page _).advances.bind fun _ =>
    (Session.stays_nudge page).advances.bind fun _ =>
    (Check.stays_wait page _).advances.bind fun _ =>
    (Session.stays_collect page).advances.bind fun _ =>
    Check.stays_timestamp.advances.bind fun _ => (Confined.get.bind fun _ => .pure _).bind fun _ =>
    (advances_takePicture page _).bind fun _ => (Check.advances_record _).bind fun _ => .pure _

theorem confined_remarks {R : World τ → World τ → Prop} [IsPreorder (World τ) R] {E : Halt → Prop}
    (hsay : ∀ tone message, Confined R E (Check.say tone message)) (waiting failed : Bool)
    (warning failure : String) :
    Confined R E (do
      if waiting then Check.say .warning warning
      if failed then
        Check.say .failure failure
        pure 1
      else pure 0 : Check τ Nat) := by
  have hfailed : Confined R E (if failed then do
      Check.say .failure failure
      pure 1
    else pure 0 : Check τ Nat) := by
    split
    · exact (hsay _ _).bind fun _ => .pure 1
    · exact .pure 0
  dsimp only
  split
  · exact (hsay _ _).bind fun _ => hfailed
  · exact hfailed

theorem plain_conclude (o : Options) (r : Findings) : Plain (τ := τ) (conclude o r) :=
  (Check.plain_given _).bind fun _ => (Report.plain_write _ _ _).bind fun _ =>
    confined_remarks Check.plain_say _ _ _ _

theorem conclude_writes (o : Options) (r : Findings) (w : World τ) :
    Writes (Leaves o.output fun report _ => report = r.toJson) (conclude o r) w := by
  refine Writes.bind (Check.stays_given _).advances fun output v hout _ => ?_
  refine Report.writes_write (fun _ => ?_) fun _ _ hread =>
    ⟨output, r.toJson, Check.ok_of_given hout, hread, rfl⟩
  exact confined_remarks (fun tone message => (Check.stays_say tone message).advances) _ _ _ _

theorem run_writes (env : Environment) (o : Options) (w : World τ) :
    Writes (Leaves o.output fun report v => ∃ findings : Findings, report = findings.toJson ∧
      w.shots v = findings.shots w.pages.length) (run env o) w := by
  refine Writes.bind (Check.stays_ofFault _).advances fun settings w₁ h₁ _ => ?_
  refine Writes.bind (Session.advances_launchChromium _ _) fun browser w₂ h₂ _ => ?_
  refine Writes.bind ((advances_inspect o settings browser).ensuring (Check.advances_record _))
    fun findings w₃ h₃ _ => ?_
  obtain ⟨x, hinspect, hclose⟩ := Check.ensuring_ok h₃
  have hstart : Album w [] w.pages.length w₂ :=
    ((Album.start w).unpictured ((Check.plain_ofFault _).of_run h₁)).unpictured
      ((Session.plain_launchChromium _ _).of_run h₂)
  have hpictured := meets_inspect o settings browser w₂ hstart
  rw [hinspect] at hpictured
  have hend := (hpictured.unpictured ((Check.plain_record fun _ => rfl).of_run hclose)).unpictured
    ((plain_conclude o findings).world w₃)
  rcases conclude_writes o findings w₃ with h | ⟨path, _, hpath, hread, rfl⟩
  · exact .inl h
  · exact .inr ⟨path, _, hpath, hread, findings, rfl, hend.shots_eq⟩

theorem get_screenshotError {r : Findings} {n : Nat} {shot : Shot} {message : String}
    (hshot : shot ∈ r.shots n) (hmessage : shot.failure = some message) (hne : message ≠ "") :
    get r.toJson "screenshotError" = .text message := by
  obtain ⟨p, hp, rfl⟩ := List.mem_map.mp hshot
  have hpicture : r.picture = some p := Option.mem_toList.mp hp
  have hfields : p.fields = [("screenshotPath", .text ""), ("screenshotError", .text message)] := by
    simp only at hmessage
    simp [Picture.fields, hmessage, hne]
  change Value.field "screenshotError" _ = _
  simp [Sample.field_cons, hpicture, hfields]

end Link

namespace Matrix

section

variable {u v : World τ} {taken : List Shot} {n : Nat}

def Result.shots (n : Nat) (results : List Result) : List Shot :=
  (results.zipIdx n).map fun (r, page) => ⟨page, r.path, r.pictured⟩

theorem map_path_shots (n : Nat) (results : List Result) :
    (Result.shots n results).map (·.path) = results.map (·.path) := by
  calc (Result.shots n results).map (·.path)
      = (results.zipIdx n).map (·.1.path) := List.map_map ..
    _ = ((results.zipIdx n).map Prod.fst).map (·.path) := (List.map_map ..).symm
    _ = results.map (·.path) := by rw [List.zipIdx_map_fst]

def Reached (u : World τ) (taken : List Shot) (outputDir : Option String) (index : Nat)
    (links : List String) (v : World τ) : Prop :=
  ∃ shots n, Paths outputDir index links (shots.map (·.path)) ∧ Album u (taken ++ shots) n v

theorem plain_trySample (page : Nat) (link : String) (halfWaitMs : Int)
    (sampleGapMs : Option Int) :
    Plain (τ := τ) (trySample page link halfWaitMs sampleGapMs) := by
  have hsample : Plain (τ := τ) (sample page halfWaitMs sampleGapMs) :=
    (Check.plain_wait page _).bind fun _ => (Session.plain_nudge page).bind fun _ =>
      (Check.plain_wait page _).bind fun _ => Session.plain_collectPair page _
  refine hsample.attempt.bind fun r => ?_
  split
  · exact .pure _
  · exact (Check.plain_log _ _ _).bind fun _ => .pure _
  · exact .throw trivial

section

variable {outputDir : Option String} {index : Nat} {link directory : String} {links : List String}

theorem Reached.stop (h : Album u taken n v) : Reached u taken outputDir index links v :=
  ⟨[], n, .stop index links, by rwa [List.append_nil]⟩

theorem Reached.next {shot : Shot} (given : outputDir = some directory)
    (named : picturePath link index directory = .ok shot.path)
    (h : Reached u (taken ++ [shot]) outputDir (index + 1) links v) :
    Reached u taken outputDir index (link :: links) v := by
  obtain ⟨shots, m, hpaths, hv⟩ := h
  exact ⟨shot :: shots, m, .next given named hpaths, by simpa using hv⟩

theorem Reached.of_results {results : List Result} {m : Nat}
    (hpaths : Paths outputDir index links (results.map (·.path)))
    (h : Album u (taken ++ Result.shots n results) m v) :
    Reached u taken outputDir index links v :=
  ⟨_, m, by rwa [map_path_shots], h⟩

theorem meets_checkLink_pictured (given : outputDir = some directory) (browser : Nat)
    (link : String) (index : Nat) (perLinkWaitMs sampleGapMs : Option Int) :
    Meets (Album u taken n) (checkLink browser link index perLinkWaitMs sampleGapMs directory)
      (fun r v => picturePath link index directory = .ok r.path ∧
        Album u (taken ++ [⟨n, r.path, r.pictured⟩]) (n + 1) v)
      (fun _ => Reached u taken outputDir index (link :: links)) := by
  apply (Session.meets_openPage (fun _ _ _ => .stop) browser false).bind
  rintro ⟨context, page⟩
  apply Meets.known
  rintro rfl
  apply ((Session.plain_navigate page link _).keeps fun _ _ => .stop).bind
  intro opened
  apply ((Check.plain_given perLinkWaitMs).keeps fun _ _ => .stop).bind
  intro waitMs
  apply ((plain_trySample page link _ sampleGapMs).keeps fun _ _ => .stop).bind
  intro samples
  apply (Meets.ofFault fun _ _ => .stop).bind
  intro path
  apply Meets.known
  intro named
  apply (Session.meets_takeScreenshot (Nat.lt_succ_self page) path).bind
  intro pictured
  apply ((Check.plain_closeContext context).keeps fun _ _ hv => .next given named (.stop hv)).bind
  intro _
  exact .pure fun _ hv => ⟨named, hv⟩

end

theorem meets_checkLinks_pictured {o : Options} {directory : String}
    (given : o.outputDir = some directory) (browser total index : Nat) (links : List String) :
    Meets (Album u taken n) (checkLinks o directory browser total index links)
      (fun results v => results.length = links.length ∧
        Paths o.outputDir index links (results.map (·.path)) ∧
        Album u (taken ++ Result.shots n results) (n + results.length) v)
      (fun _ => Reached u taken o.outputDir index links) := by
  -- Every link opens one page and takes one picture of it, so the rest go on with the next page.
  induction links generalizing index taken n with
  | nil => exact .pure fun _ hw => ⟨rfl, .stop index [], by simpa [Result.shots] using hw⟩
  | cons link rest ih =>
    refine ((Check.plain_say _ _).keeps fun _ _ => .stop).bind fun _ =>
      (meets_checkLink_pictured given browser link index _ _).bind fun r =>
      Meets.known fun named => ?_
    have hrest : Meets (Album u (taken ++ [⟨n, r.path, r.pictured⟩]) (n + 1)) (do
          let rest ← checkLinks o directory browser total (index + 1) rest
          pure (r :: rest))
        (fun results v => results.length = (link :: rest).length ∧
          Paths o.outputDir index (link :: rest) (results.map (·.path)) ∧
          Album u (taken ++ Result.shots n results) (n + results.length) v)
        (fun _ => Reached u taken o.outputDir index (link :: rest)) := by
      refine ((ih (index + 1)).mono (fun _ hw => hw) (fun _ _ hv => hv) fun _ _ hv =>
        .next given named hv).bind fun results => ?_
      refine .pure fun v ⟨hlength, hpaths, hv⟩ =>
        ⟨congrArg Nat.succ hlength, .next given named hpaths, ?_⟩
      simpa [Result.shots, Nat.add_assoc, Nat.add_comm 1] using hv
    have hsay (tone : Console.Tone) (message : String) :
        Meets (Album u (taken ++ [⟨n, r.path, r.pictured⟩]) (n + 1)) (Check.say tone message)
          (fun _ => Album u (taken ++ [⟨n, r.path, r.pictured⟩]) (n + 1))
          (fun _ => Reached u taken o.outputDir index (link :: rest)) :=
      (Check.plain_say tone message).keeps fun _ _ hv => .next given named (.stop hv)
    dsimp only
    split
    · exact (hsay _ _).bind fun _ => hrest
    · exact (hsay _ _).bind fun _ => hrest

theorem meets_gather_pictured (o : Options) (links : List String) :
    Meets (Album u taken n) (gather o links)
      (fun findings v => findings.results.length = links.length ∧
        Paths o.outputDir 1 links (findings.results.map (·.path)) ∧
        Album u (taken ++ Result.shots n findings.results) (n + findings.results.length) v)
      (fun _ => Reached u taken o.outputDir 1 links) := by
  apply (Meets.given fun _ _ => .stop).bind
  intro directory
  apply Meets.known
  intro given
  apply ((Check.plain_makeDirectory _).keeps fun _ _ => .stop).bind
  intro _
  apply (Check.plain_timestamp.keeps fun _ _ => .stop).bind
  intro startedAt
  apply ((Session.plain_launchChromium _ _).keeps fun _ _ => .stop).bind
  intro browser
  have hclose (a : List Shot) (m : Nat) (v : World τ) (hv : Album u a m v) :
      Album u a m { v with calls := v.calls ++ [.closeBrowser browser] } :=
    hv.unpictured ((Check.plain_record fun _ => rfl).world v)
  apply ((meets_checkLinks_pictured given browser links.length 1 links).ensuring
    (Check.closeBrowser_run browser) (fun _ v hv => ⟨hv.1, hv.2.1, hclose _ _ v hv.2.2⟩)
    fun _ v ⟨shots, m, hpaths, hv⟩ => ⟨shots, m, hpaths, hclose _ m v hv⟩).bind
  intro results
  refine Meets.known fun hlength => Meets.known fun hpaths => ?_
  apply (Check.plain_timestamp.keeps fun _ _ => .of_results hpaths).bind
  intro finishedAt
  apply (Report.plain_host.keeps fun _ _ => .of_results hpaths).bind
  intro host
  exact .pure fun _ hv => ⟨hlength, hpaths, hv⟩

theorem meets_run_pictured (o : Options) :
    Meets (Album u taken n) (run o)
      (fun _ v => ∃ results : List Result,
        results.length = (if o.links = [] then defaultLinks else o.links).length ∧
        Paths o.outputDir 1 (if o.links = [] then defaultLinks else o.links)
          (results.map (·.path)) ∧
        Album u (taken ++ Result.shots n results) (n + results.length) v)
      (fun _ => Reached u taken o.outputDir 1
        (if o.links = [] then defaultLinks else o.links)) := by
  refine (meets_gather_pictured o _).bind fun findings => Meets.known fun hlength =>
    Meets.known fun hpaths => ?_
  refine ((Check.plain_given _).keeps fun _ _ => .of_results hpaths).bind fun output =>
    ((Report.plain_write _ _ _).keeps fun _ _ => .of_results hpaths).bind fun _ =>
    .pure fun v hv => ?_
  exact ⟨findings.results, hlength, hpaths, hv⟩

end

theorem shots_of_run (o : Options) (w : World τ) :
    Paths o.outputDir 1 (if o.links = [] then defaultLinks else o.links)
      ((w.shots (run o w).2).map (·.path)) ∧
    ∀ code, (run o w).1 = .ok code →
      (w.shots (run o w).2).length = (if o.links = [] then defaultLinks else o.links).length := by
  have hend := meets_run_pictured o w (Album.start w)
  generalize run o w = r at hend ⊢
  obtain ⟨h | code, v⟩ := r
  · obtain ⟨shots, m, hpaths, hv⟩ := hend
    exact ⟨hv.shots_eq ▸ hpaths, nofun⟩
  · obtain ⟨results, hlength, hpaths, hv⟩ := hend
    rw [hv.shots_eq, List.nil_append, map_path_shots]
    refine ⟨hpaths, fun _ _ => ?_⟩
    rw [← hlength, ← List.length_map (·.path), map_path_shots, List.length_map]

/-- No two pictures of a run are put in one place, and each is put in the output directory itself,
under a name that is numbered as its link is. A check that answers has one picture for each link. -/
theorem pictures_apart_inside (o : Options) (w : World τ) :
    ((w.shots (run o w).2).map (·.path)).Nodup ∧
    ((w.shots (run o w).2).map fun shot => Place.ofPath (.ofText shot.path)).Nodup ∧
    (∀ i shot, (w.shots (run o w).2)[i]? = some shot →
      ∃ directory link name, o.outputDir = some directory ∧
        (if o.links = [] then defaultLinks else o.links)[i]? = some link ∧
        picturePath link (i + 1 : Nat) directory = .ok shot.path ∧
        Path.ofText shot.path = (Path.ofText directory).child name ∧
        Stream.IsNumbered (i + 1) ".png" name) ∧
    ∀ code, (run o w).1 = .ok code →
      (w.shots (run o w).2).length = (if o.links = [] then defaultLinks else o.links).length := by
  obtain ⟨hpaths, hall⟩ := shots_of_run o w
  have hplaces := hpaths.nodup
  rw [List.map_map] at hplaces
  refine ⟨?_, hplaces, fun i shot hshot => ?_, hall⟩
  · refine (List.pairwise_map.mp hpaths.nodup).imp fun hne => ?_
    rintro rfl
    exact hne rfl
  · have hpath : ((w.shots (run o w).2).map (·.path))[i]? = some shot.path := by
      rw [List.getElem?_map, hshot]
      rfl
    obtain ⟨directory, link, given, hlink, named⟩ := hpaths.getElem? hpath
    rw [Nat.add_comm] at named
    obtain ⟨name, hplace⟩ := places_of_picturePath named
    exact ⟨directory, link, name, given, hlink, named, hplace.child, hplace.numbered⟩

def samePair : List String := ["https://vdo.ninja/?view=a", "https://vdo.ninja/?view=a"]

theorem pictures_apart_inside_samePair :
    (refusedThenBlank.shots (run { links := samePair } refusedThenBlank).2).map (·.path) =
      ["test-results/playwright-vdo-matrix/01__view_a.png",
        "test-results/playwright-vdo-matrix/02__view_a.png"] ∧
    ((refusedThenBlank.shots (run { links := samePair } refusedThenBlank).2).map (·.path)).Nodup :=
  ⟨by decide +kernel, (pictures_apart_inside { links := samePair } refusedThenBlank).1⟩

theorem Follow.links {scripts : Nat → Browser.PageScript τ} {links : List String}
    {results : List Result} (h : Follow scripts links results) :
    results.map (·.link) = links := by
  refine List.ext_getElem? fun i => ?_
  rw [List.getElem?_map]
  cases hlink : links[i]? with
  | none =>
    have hout : results.length ≤ i := h.1 ▸ List.getElem?_eq_none_iff.mp hlink
    rw [List.getElem?_eq_none hout]
    rfl
  | some link =>
    obtain ⟨r, hr, hfollows⟩ := h.2 i link hlink
    rw [hr]
    exact congrArg some hfollows.link

theorem run_writes (o : Options) (w : World τ) :
    Writes (Leaves o.output fun report v => ∃ findings : Findings, report = findings.toJson ∧
      w.shots v = Result.shots w.pages.length findings.results ∧
      findings.results.map (·.link) = if o.links = [] then defaultLinks else o.links)
      (run o) w := by
  have hfollow := meets_gather o (if o.links = [] then defaultLinks else o.links) w rfl
  have hpictured := meets_gather_pictured o (if o.links = [] then defaultLinks else o.links) w
    (Album.start w)
  rw [Writes, run]
  rcases hg : gather o (if o.links = [] then defaultLinks else o.links) w with ⟨h | findings, u⟩
  · rw [hg] at hfollow
    rw [Check.bind_of_error hg]
    exact .inl hfollow
  · rw [hg] at hfollow hpictured
    obtain ⟨hfollow, hunwritten⟩ := hfollow
    obtain ⟨-, -, hpictured⟩ := hpictured
    rw [Check.bind_of_ok hg]
    have hlast : Writes (Leaves o.output fun report _ => report = findings.toJson) (do
        Report.write findings.toJson (.ofText (← Check.given o.output)) true
        pure (if findings.anyActive then 0 else 1)) u :=
      Writes.bind (Check.stays_given _).advances fun output v hout _ =>
        Report.writes_write (fun _ => .pure _) fun _ _ hread =>
          ⟨output, findings.toJson, Check.ok_of_given hout, hread, rfl⟩
    have hplain : Plain (τ := τ) (do
        Report.write findings.toJson (.ofText (← Check.given o.output)) true
        pure (if findings.anyActive then 0 else 1)) :=
      (Check.plain_given _).bind fun _ => (Report.plain_write _ _ _).bind fun _ => .pure _
    have hend := hpictured.unpictured (hplain.world u)
    rcases hlast with h | ⟨path, _, hpath, hread, rfl⟩
    · exact .inl (trans_of World.Unwritten hunwritten h)
    · exact .inr ⟨path, _, hpath, hread, findings, rfl, hend.shots_eq, hfollow.links⟩

theorem get_screenshotError {r : Findings} {n : Nat} {shot : Shot} {message : String}
    (hshot : shot ∈ Result.shots n r.results) (hmessage : shot.failure = some message) :
    ∃ i result, shot.page = n + i ∧ r.results[i]? = some result ∧
      get result.toJson "inputUrl" = .text result.link ∧
      get result.toJson "screenshotError" = .text message := by
  obtain ⟨⟨result, page⟩, hmem, rfl⟩ := List.mem_map.mp hshot
  obtain ⟨hle, hresult⟩ := List.mem_zipIdx_iff_le_and_getElem?_sub.mp hmem
  refine ⟨page - n, result, (Nat.add_sub_cancel' hle).symm, hresult, rfl, ?_⟩
  have hpictured : result.pictured = some message := hmessage
  change Value.field "screenshotError" _ = _
  obtain ⟨link, opened, samples, path, pictured⟩ := result
  subst hpictured
  cases samples <;> rfl

end Matrix

namespace Scenario

open Sample (Snapshot)
open StreamWatch.Scenario (Progress)

theorem get_screenshotError {c : Stream.Config} {stream : List (String × Value)} (p : Progress)
    (last : Snapshot) (host : Value) (generatedAt : String) (hc : c.fields = .ok stream) :
    get (Findings.toJson ⟨stream ++ p.fields generatedAt, p, last, host⟩) "screenshotError" =
      .null := by
  change Value.field "screenshotError" _ = .null
  simp only [List.append_assoc]
  rw [field_stream hc (by decide)]
  cases hlast : p.rounds.getLast? <;>
    simp [Progress.fields, inboundAtViewers, hlast, Value.field, Value.find?]

variable [Browser.Timeline τ]

theorem unmentioned_of_perform {o : Options} {output : Report.Path} {s : StreamWatch.Scenario}
    {exit : Nat} {findings : Findings} {w v : World τ}
    (h : perform o output s w = (.ok (exit, findings), v)) :
    get findings.toJson "screenshotError" = .null := by
  obtain ⟨⟨outcome, progress⟩, _, -, h⟩ := Check.bind_ok h
  obtain ⟨⟨code, last⟩, _, -, h⟩ := Check.bind_ok h
  obtain ⟨summary, _, hsummary, h⟩ := Check.bind_ok h
  obtain ⟨host, _, -, h⟩ := Check.bind_ok h
  obtain ⟨stream, generatedAt, hc, rfl⟩ := summary_ok hsummary
  have hfindings : findings = ⟨stream ++ progress.fields generatedAt, progress, last, host⟩ := by
    dsimp only at h
    split at h
    · obtain ⟨_, _, -, h⟩ := Check.bind_ok h
      cases h
      rfl
    · cases h
      rfl
  rw [hfindings]
  exact get_screenshotError progress last host generatedAt hc

theorem run_writes_unmentioned (env : Environment) (o : Options) (w : World τ) :
    Writes (Leaves o.output fun report _ => get report "screenshotError" = .null)
      (run env o) w :=
  writes_performed fun output _ _ _ _ _ _ hstaged hperform _ hread =>
    ⟨output, _, (staged_ok hstaged).1, hread, unmentioned_of_perform hperform⟩

end Scenario

/-- A written report on one link or several tells of every picture that was refused, on several with
the link whose page it was of. That on a scenario has no place for such a failure. -/
theorem refused_pictures_told [Browser.Timeline τ] (env : Environment) (w : World τ) :
    (∀ o : Link.Options, Writes (Leaves o.output fun report v =>
      ∀ shot ∈ w.shots v, ∀ message, shot.failure = some message → message ≠ "" →
        get report "screenshotError" = .text message) (Link.run env o) w) ∧
    (∀ o : Matrix.Options, Writes (Leaves o.output fun report v =>
      ∃ results, get report "results" = .list results ∧
        ∀ shot ∈ w.shots v, ∀ message, shot.failure = some message →
          ∃ i link result, shot.page = w.pages.length + i ∧
            (if o.links = [] then Matrix.defaultLinks else o.links)[i]? = some link ∧
            results[i]? = some result ∧ get result "inputUrl" = .text link ∧
            get result "screenshotError" = .text message) (Matrix.run o) w) ∧
    ∀ o : Scenario.Options, Writes (Leaves o.output fun report _ =>
      get report "screenshotError" = .null) (Scenario.run env o) w := by
  refine ⟨fun o => ?_, fun o => ?_, fun o => Scenario.run_writes_unmentioned env o w⟩
  · refine (Link.run_writes env o w).imp_right ?_
    rintro ⟨path, _, hpath, hread, findings, rfl, hshots⟩
    refine ⟨path, _, hpath, hread, fun shot hshot message hmessage hne => ?_⟩
    exact Link.get_screenshotError (hshots ▸ hshot) hmessage hne
  · refine (Matrix.run_writes o w).imp_right ?_
    rintro ⟨path, _, hpath, hread, findings, rfl, hshots, hlinks⟩
    refine ⟨path, _, hpath, hread, _, rfl, fun shot hshot message hmessage => ?_⟩
    obtain ⟨i, result, hpage, hresult, hlink, herror⟩ :=
      Matrix.get_screenshotError (hshots ▸ hshot) hmessage
    refine ⟨i, result.link, result.toJson, hpage, ?_, ?_, hlink, herror⟩
    · rw [← hlinks, List.getElem?_map, hresult]
      rfl
    · rw [List.getElem?_map, hresult]
      rfl

def crashing : World Rat :=
  World.start 0 [
    { samples := [.ok (.record [("pcStats", .list [.record []])])]
      screenshotFailures := [some "Target crashed"] },
    { samples := [false, false, true].map fun later => .ok (Scenario.watched later) }]

theorem refused_pictures_told_crashing :
    (∃ report, (Link.run [] {} crashing).2.files.read?
        (.ofText "playwright-vdo-view-check.json") = some (report.render ++ "\n") ∧
      get report "screenshotError" = .text "Target crashed") ∧
    ∃ report results result,
      (Matrix.run { links := Matrix.splitPair } Matrix.refusedThenBlank).2.files.read?
        (.ofText "playwright-vdo-matrix-check.json") = some (report.render ++ "\n") ∧
      get report "results" = .list results ∧ results[0]? = some result ∧
      get result "screenshotError" = .text "Target crashed" := by
  constructor
  · rcases (refused_pictures_told [] crashing).1 {} with h | ⟨path, report, hpath, hread, htold⟩
    · exact absurd (congrArg List.length h) (by decide +kernel)
    · cases hpath
      have hshot : ∃ shot ∈ crashing.shots (Link.run [] {} crashing).2,
          shot.failure = some "Target crashed" := by
        decide +kernel
      obtain ⟨shot, hshot, hmessage⟩ := hshot
      exact ⟨report, hread, htold shot hshot _ hmessage (by decide)⟩
  · rcases (refused_pictures_told [] Matrix.refusedThenBlank).2.1 { links := Matrix.splitPair } with
      h | ⟨path, report, hpath, hread, results, hresults, htold⟩
    · exact absurd (congrArg List.length h) (by decide +kernel)
    · cases hpath
      have hshot : ∃ shot ∈ Matrix.refusedThenBlank.shots
          (Matrix.run { links := Matrix.splitPair } Matrix.refusedThenBlank).2,
          shot.page = 0 ∧ shot.failure = some "Target crashed" := by
        decide +kernel
      obtain ⟨shot, hshot, hzero, hmessage⟩ := hshot
      obtain ⟨i, link, result, hpage, -, hresult, -, herror⟩ := htold shot hshot _ hmessage
      obtain rfl : i = 0 := by
        have hnone : Matrix.refusedThenBlank.pages.length = 0 := rfl
        omega
      exact ⟨report, results, result, hread, hresults, hresult, herror⟩

/-- The scenario goes well, and the failure of the picture is nowhere in its report. -/
theorem refused_picture_untold :
    ∃ v, ∃ report : Value,
      Scenario.run [("VDO_NO_PASSWORD", some "1")] { screenshots := true } crashing = (.ok 0, v) ∧
      (∃ shot ∈ crashing.shots v, shot.failure = some "Target crashed") ∧
      v.files.read? (.ofText "test-results/vdo-scenario/report.json") =
        some (report.render ++ "\n") ∧
      Text.holds "Target crashed".toList report.render.toList = false := by
  have hzero : (Scenario.run [("VDO_NO_PASSWORD", some "1")] { screenshots := true }
      crashing).1.toOption = some 0 := by
    decide +kernel
  have hshot : ∃ shot ∈ crashing.shots
      (Scenario.run [("VDO_NO_PASSWORD", some "1")] { screenshots := true } crashing).2,
      shot.failure = some "Target crashed" := by
    decide +kernel
  have huntold : ((Scenario.staged [("VDO_NO_PASSWORD", some "1")] { screenshots := true } >>=
      fun x => Scenario.perform { screenshots := true } (.ofText x.1) x.2)
      crashing).1.toOption.map (fun x =>
        Text.holds "Target crashed".toList (x.2.toJson.print 0)) = some false := by
    decide +kernel
  have hrun := Check.run_of_toOption hzero
  obtain ⟨output, s, findings, u, x, hstaged, hperform, hread⟩ := Scenario.run_ok hrun
  obtain ⟨houtput, -⟩ := Scenario.staged_ok hstaged
  cases houtput
  rw [Check.bind_of_ok hstaged] at huntold
  dsimp only at huntold
  rw [hperform] at huntold
  refine ⟨_, _, hrun, hshot, hread, ?_⟩
  have htext : findings.toJson.render.toList = findings.toJson.print 0 := String.toList_ofList
  rw [htext]
  exact Option.some.inj huntold

end StreamWatch.Runner
