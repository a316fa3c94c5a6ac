import StreamWatch.Proofs.Runner.Course
import StreamWatch.Proofs.Runner.Isolation
import StreamWatch.Proofs.Scenario.Blindness
import StreamWatch.Runner.Link

/-! Pictures never influence a check. Two runs in worlds that are alike but for pictures make the
same calls and end the same way, and what they report differs in nothing but what it tells of
pictures. -/
namespace StreamWatch

open Browser (Check Timeline World)
open Browser.Check (Blind Twin)
open Json (Value)

variable {τ α β : Type}

namespace Json.Value

def without (keys : List String) : Value → Value
  | .record fields => .record (fields.filter fun (key, _) => key ∉ keys)
  | v => v

def onItems (f : Value → Value) : Value → Value
  | .list items => .list (items.map f)
  | v => v

def onField (key : String) (f : Value → Value) : Value → Value
  | .record fields => .record (fields.map fun (k, v) => (k, if k = key then f v else v))
  | v => v

end Json.Value

namespace Runner

def withoutPicture : Value → Value := Value.without ["screenshotPath", "screenshotError"]

/-- The trees come from one and the same by writing a report each, and `E` keeps the same of both
reports. -/
def Reported (E : Value → Value) (path : Report.Path) (t t' : Report.FileTree) : Prop :=
  ∃ (before : Report.FileTree) (report report' : Value),
    before.write path (report.render ++ "\n") = .ok t ∧
    before.write path (report'.render ++ "\n") = .ok t' ∧ E report = E report'

/-- Two runs that made the same calls and ended the same way. If they left different files, the
difference is their reports, of which `E` keeps the same. -/
structure Matched (E : Value → Value) (output : Option String)
    (r r' : Except Halt Nat × World τ) : Prop where
  outcome : r.1 = r'.1
  calls : r.2.calls = r'.2.calls
  files : r.2.files = r'.2.files ∨
    ∃ path, output = some path ∧ Reported E (.ofText path) r.2.files r'.2.files

theorem Matched.of_alike {E : Value → Value} {output : Option String} {r : Except Halt Nat}
    {u v : World τ} (hw : u.Alike v) : Matched E output (r, u) (r, v) :=
  ⟨rfl, hw.eq World.calls (fun _ => rfl), .inl (hw.eq World.files fun _ => rfl)⟩

theorem Matched.bind {E : Value → Value} {output : Option String} {R : α → β → Prop}
    {act : Check τ α} {act' : Check τ β} {k : α → Check τ Nat} {k' : β → Check τ Nat}
    (ha : Twin R act act')
    (hk : ∀ a b, R a b → ∀ u v : World τ, u.Alike v → Matched E output (k a u) (k' b v))
    {u v : World τ} (hw : u.Alike v) :
    Matched E output ((act >>= k) u) ((act' >>= k') v) := by
  obtain ⟨houtcome, hworld⟩ := ha u v hw
  rcases hu : act u with ⟨r, u'⟩
  rcases hv : act' v with ⟨r', v'⟩
  rw [hu, hv] at houtcome hworld
  cases houtcome with
  | ok h =>
    rw [Check.bind_of_ok hu, Check.bind_of_ok hv]
    exact hk _ _ h _ _ hworld
  | error e =>
    rw [Check.bind_of_error hu, Check.bind_of_error hv]
    exact .of_alike hworld

def Speaks (said : Bool → Except Halt α) (act : Check τ α) : Prop :=
  ∀ w, ∃ printed log, act w = (said w.terminal, { w with printed, log })

theorem Speaks.pure (a : α) : Speaks (τ := τ) (fun _ => .ok a) (pure a) :=
  fun w => ⟨w.printed, w.log, rfl⟩

theorem Speaks.bind {said : Bool → Except Halt α} {more : α → Bool → Except Halt β}
    {act : Check τ α} {k : α → Check τ β} (ha : Speaks said act) (hk : ∀ a, Speaks (more a) (k a)) :
    Speaks (fun terminal => said terminal >>= (more · terminal)) (act >>= k) := by
  intro w
  obtain ⟨printed, log, hact⟩ := ha w
  dsimp only
  cases hs : said w.terminal with
  | error h =>
    rw [hs] at hact
    exact ⟨printed, log, Check.bind_of_error hact⟩
  | ok a =>
    rw [hs] at hact
    obtain ⟨printed', log', hmore⟩ := hk a { w with printed, log }
    exact ⟨printed', log', (Check.bind_of_ok hact).trans hmore⟩

theorem speaks_log (level : Console.Level) (channel : Console.Channel) (message : String) :
    Speaks (τ := τ) (fun _ => .ok ()) (Check.log level channel message) := fun w => by
  obtain ⟨lines, h⟩ := Check.log_run level channel message w
  exact ⟨w.printed, lines, h⟩

theorem speaks_print (line : String) :
    Speaks (τ := τ) (fun _ => .ok ()) (Check.print line) := fun w => ⟨_, w.log, rfl⟩

theorem speaks_say (tone : Console.Tone) (message : String) :
    ∃ said, Speaks (τ := τ) said (Check.say tone message) := by
  refine ⟨fun terminal =>
    ((Console.toneLine terminal tone message).mapError .fault).map fun _ => (), fun w => ?_⟩
  rw [Check.say_run]
  dsimp only
  cases Console.toneLine w.terminal tone message with
  | error f => exact ⟨w.printed, w.log, rfl⟩
  | ok line => exact ⟨_, w.log, rfl⟩

theorem blind_write (payload : Value) (path : Report.Path) (echo : Bool) :
    Blind (τ := τ) (Report.write payload path echo) := by
  refine (Check.blind_makeDirectory _).bind fun _ => (Blind.ofFault _).bind fun _ =>
    (Check.blind_writeFile _ _).bind fun _ => (Check.blind_log _ _ _).bind fun _ => ?_
  split
  · exact Check.blind_print _
  · exact .pure rfl

theorem write_error_of_write_error {t : Report.FileTree} {p : Report.Path} {text : String}
    {f : Fault} (h : t.write p text = .error f) (other : String) :
    t.write p other = .error f := by
  rw [Report.FileTree.write] at h ⊢
  cases ht : Report.FileTree.checkText p with
  | error g =>
    rw [ht] at h
    cases h
    rfl
  | ok _ =>
    rw [ht] at h
    cases hn : Report.FileTree.checkName (p.parts.getLastD "") with
    | error g =>
      rw [hn] at h
      cases h
      rfl
    | ok _ =>
      rw [hn] at h
      dsimp only [bind, Except.bind] at h ⊢
      split at h
      · next hd =>
        rw [if_pos hd]
        exact h
      · cases h

theorem matched_writeFile {E : Value → Value} {report report' : Value} {path : String}
    (he : E report = E report') {said : Bool → Except Halt Nat} {last last' : Unit → Check τ Nat}
    (hl : Speaks said (last ())) (hl' : Speaks said (last' ())) {u v : World τ} (hw : u.Alike v) :
    Matched E (some path)
      ((Check.writeFile (.ofText path) (report.render ++ "\n") >>= last) u)
      ((Check.writeFile (.ofText path) (report'.render ++ "\n") >>= last') v) := by
  have hfiles := hw.eq World.files fun _ => rfl
  have hu := Check.writeFile_run (.ofText path) (report.render ++ "\n") u
  have hv := Check.writeFile_run (.ofText path) (report'.render ++ "\n") v
  rw [← hfiles] at hv
  cases h : u.files.write (.ofText path) (report.render ++ "\n") with
  | error f =>
    rw [h] at hu
    rw [write_error_of_write_error h] at hv
    rw [Check.bind_of_error hu, Check.bind_of_error hv]
    exact .of_alike hw
  | ok t =>
    cases h' : u.files.write (.ofText path) (report'.render ++ "\n") with
    | error f =>
      rw [write_error_of_write_error h'] at h
      cases h
    | ok t' =>
      rw [h] at hu
      rw [h'] at hv
      obtain ⟨_, _, hr⟩ := hl { u with files := t }
      obtain ⟨_, _, hr'⟩ := hl' { v with files := t' }
      rw [Check.bind_of_ok hu, Check.bind_of_ok hv, hr, hr', ← hw.eq World.terminal fun _ => rfl]
      exact ⟨rfl, hw.eq World.calls (fun _ => rfl),
        .inr ⟨path, rfl, u.files, report, report', h, h', he⟩⟩

theorem matched_write {E : Value → Value} {report report' : Value} {path : String}
    (hp : report.isWritable = report'.isWritable) (he : E report = E report')
    {said : Bool → Except Halt Nat} {last : Check τ Nat} (hl : Speaks said last)
    {u v : World τ} (hw : u.Alike v) :
    Matched E (some path)
      ((do Report.write report (.ofText path) true; last) u)
      ((do Report.write report' (.ofText path) true; last) v) := by
  simp only [Report.write, bind_assoc, if_true]
  refine Matched.bind (Check.blind_makeDirectory _) (fun _ _ _ u v hw => ?_) hw
  rw [Value.shown, Value.shown, ← hp]
  by_cases writable : report.isWritable = true
  · rw [if_pos writable, if_pos writable, Check.bind_of_ok (Check.ofFault_ok _ u),
      Check.bind_of_ok (Check.ofFault_ok _ v)]
    have told (text : String) := (speaks_log (τ := τ) .info .report
      s!"Wrote report {(Report.Path.ofText path).toText}").bind fun _ =>
        (speaks_print text).bind fun _ => hl
    exact matched_writeFile he (told report.render) (told report'.render) hw
  · rw [if_neg writable, if_neg writable]
    exact Matched.of_alike hw

theorem blind_host : Blind (τ := τ) Report.host :=
  .get fun u v hw => by
    rw [hw.eq World.host fun _ => rfl]
    exact .pure rfl

namespace Link

def Findings.unpictured (r : Findings) : Findings := { r with picture := none }

theorem Findings.withoutPicture_toJson (r : Findings) :
    withoutPicture r.unpictured.toJson = withoutPicture r.toJson := by
  rcases r with ⟨_, _, _, _, _, _ | ⟨path, _ | message⟩⟩
  · rfl
  · rfl
  · by_cases h : message = "" <;>
      simp [Findings.toJson, Findings.unpictured, Picture.fields, h, withoutPicture, Value.without]

theorem Findings.isWritable_unpictured (r : Findings) :
    r.unpictured.toJson.isWritable = r.toJson.isWritable := by
  rcases r with ⟨_, _, _, _, _, _ | ⟨path, _ | message⟩⟩
  · rfl
  · simp [Findings.toJson, Findings.unpictured, Picture.fields, Value.isWritable,
      Value.fieldsAreWritable]
  · by_cases h : message = "" <;>
      simp [Findings.toJson, Findings.unpictured, Picture.fields, h, Value.isWritable,
        Value.fieldsAreWritable]

theorem twin_takePicture (page : Nat) (path : Option String) :
    Twin (τ := τ) (fun _ _ => True) (takePicture page path) (takePicture page path) := by
  rw [takePicture]
  split
  · exact .pure trivial
  · exact (Session.twin_takeScreenshot _ _).bind fun _ _ _ => .pure trivial

theorem twin_inspect (o : Options) (settings : Poll.Settings) (browser : Nat) :
    Twin (τ := τ) (fun r r' => r.unpictured = r'.unpictured)
      (inspect o settings browser) (inspect o settings browser) :=
  (Session.blind_openPage _ _ _).bind fun _ => (Session.blind_openLink _ _).bind fun _ =>
    (Check.blind_wait _ _).bind fun _ => (Session.blind_nudge _).bind fun _ =>
    (Check.blind_wait _ _).bind fun _ => (Session.blind_collect _).bind fun _ =>
    Check.blind_timestamp.bind fun _ => blind_host.bind fun _ =>
    (twin_takePicture _ _).bind fun _ _ _ => (Check.blind_record _).bind fun _ => .pure rfl

theorem speaks_conclude (waiting failed : Bool) (warning failure : String) :
    ∃ said, Speaks (τ := τ) said (do
      if waiting then Check.say .warning warning
      if failed then
        Check.say .failure failure
        pure 1
      else pure 0) := by
  have hfailed : ∃ said, Speaks (τ := τ) said (if failed then do
      Check.say .failure failure
      pure 1
    else pure 0) := by
    cases failed with
    | true =>
      obtain ⟨_, hsay⟩ := speaks_say (τ := τ) .failure failure
      exact ⟨_, hsay.bind fun _ => .pure 1⟩
    | false => exact ⟨_, .pure 0⟩
  obtain ⟨_, hfailed⟩ := hfailed
  cases waiting with
  | true =>
    obtain ⟨_, hsay⟩ := speaks_say (τ := τ) .warning warning
    exact ⟨_, hsay.bind fun _ => hfailed⟩
  | false => exact ⟨_, hfailed⟩

theorem matched_conclude (o : Options) {r r' : Findings} (h : r.unpictured = r'.unpictured)
    {u v : World τ} (hw : u.Alike v) :
    Matched withoutPicture o.output (conclude o r u) (conclude o r' v) := by
  have hsnapshot : r.snapshot = r'.snapshot := congrArg (·.snapshot) h
  have hready : r.ready = r'.ready := congrArg (·.ready) h
  have hreport : withoutPicture r.toJson = withoutPicture r'.toJson := by
    rw [← r.withoutPicture_toJson, h, r'.withoutPicture_toJson]
  have hwritable : r.toJson.isWritable = r'.toJson.isWritable := by
    rw [← r.isWritable_unpictured, h, r'.isWritable_unpictured]
  rw [conclude, conclude, hsnapshot, hready]
  cases o.output with
  | none => exact .of_alike hw
  | some path =>
    obtain ⟨_, hlast⟩ := speaks_conclude (τ := τ) r'.snapshot.waiting (o.strict && !r'.ready) _ _
    exact matched_write hwritable hreport hlast hw

theorem matched_run (env : Environment) (o : Options) {u v : World τ} (hw : u.Alike v) :
    Matched withoutPicture o.output (run env o u) (run env o v) :=
  Matched.bind (Blind.ofFault _) (fun settings _ hs u v hw => by
    subst hs
    refine Matched.bind (Session.blind_launchChromium _ _) (fun browser _ hb u v hw => ?_) hw
    subst hb
    exact Matched.bind ((twin_inspect o settings browser).ensuring (Check.blind_record _))
      (fun _ _ h _ _ hw => matched_conclude o h hw) hw) hw

end Link

namespace Matrix

def withoutPictures : Value → Value := Value.onField "results" (Value.onItems withoutPicture)

def Result.unpictured (r : Result) : Result := { r with pictured := none }

theorem Result.withoutPicture_toJson (r : Result) :
    withoutPicture r.unpictured.toJson = withoutPicture r.toJson := by
  rcases r with ⟨link, opened, samples, path, _ | message⟩
  · rfl
  · cases samples <;> rfl

theorem Result.isWritable_unpictured (r : Result) :
    r.unpictured.toJson.isWritable = r.toJson.isWritable := by
  rcases r with ⟨link, opened, samples, path, _ | message⟩
  · rfl
  · cases samples <;> rfl

theorem Result.isActive_unpictured (r : Result) : r.unpictured.isActive = r.isActive := rfl

def Findings.unpictured (r : Findings) : Findings :=
  { r with results := r.results.map Result.unpictured }

theorem Findings.anyActive_unpictured (r : Findings) : r.unpictured.anyActive = r.anyActive := by
  simp [unpictured, anyActive, Function.comp_def, Result.isActive_unpictured]

theorem Findings.activeCount_unpictured (r : Findings) :
    r.unpictured.activeCount = r.activeCount := by
  simp [unpictured, activeCount, Function.comp_def, Result.isActive_unpictured]

theorem Findings.withoutPictures_toJson (r : Findings) :
    withoutPictures r.unpictured.toJson = withoutPictures r.toJson := by
  have hresults : r.unpictured.results.map (withoutPicture ∘ Result.toJson) =
      r.results.map (withoutPicture ∘ Result.toJson) := by
    simp [unpictured, Function.comp_def, Result.withoutPicture_toJson]
  have hlength : r.unpictured.results.length = r.results.length := List.length_map _
  simp only [toJson, r.anyActive_unpictured, r.activeCount_unpictured, hlength, withoutPictures,
    Value.onField, Value.onItems, List.map_cons, List.map_nil, List.map_map, hresults]
  rfl

theorem Findings.isWritable_unpictured (r : Findings) :
    r.unpictured.toJson.isWritable = r.toJson.isWritable := by
  have hresults : Value.areWritable (r.unpictured.results.map Result.toJson) =
      Value.areWritable (r.results.map Result.toJson) := by
    rw [Bool.eq_iff_iff, Value.areWritable_iff, Value.areWritable_iff]
    simp [unpictured, Result.isWritable_unpictured]
  have hlength : r.unpictured.results.length = r.results.length := List.length_map _
  simp only [toJson, r.anyActive_unpictured, r.activeCount_unpictured, hlength, Value.isWritable,
    Value.fieldsAreWritable, hresults]
  rfl

theorem blind_trySample (page : Nat) (link : String) (halfWaitMs : Int)
    (sampleGapMs : Option Int) :
    Blind (τ := τ) (trySample page link halfWaitMs sampleGapMs) := by
  have hsample : Blind (τ := τ) (sample page halfWaitMs sampleGapMs) :=
    (Check.blind_wait _ _).bind fun _ => (Session.blind_nudge _).bind fun _ =>
      (Check.blind_wait _ _).bind fun _ => Session.blind_collectPair _ _
  refine hsample.attempt.bind fun outcome => ?_
  split
  · exact .pure rfl
  · exact (Check.blind_log _ _ _).bind fun _ => .pure rfl
  · exact .throw _

theorem twin_checkLink (browser : Nat) (link : String) (index : Int)
    (perLinkWaitMs sampleGapMs : Option Int) (outputDir : String) :
    Twin (τ := τ) (fun r r' => r.unpictured = r'.unpictured)
      (checkLink browser link index perLinkWaitMs sampleGapMs outputDir)
      (checkLink browser link index perLinkWaitMs sampleGapMs outputDir) :=
  (Session.blind_openPage _ _ _).bind fun _ => (Session.blind_navigate _ _ _).bind fun _ =>
    (Blind.given _).bind fun _ => (blind_trySample _ _ _ _).bind fun _ =>
    (Blind.ofFault _).bind fun _ => (Session.twin_takeScreenshot _ _).bind fun _ _ _ =>
    (Check.blind_record _).bind fun _ => .pure rfl

theorem twin_checkLinks (o : Options) (outputDir : String) (browser total index : Nat)
    (links : List String) :
    Twin (τ := τ) (fun rs rs' => rs.map Result.unpictured = rs'.map Result.unpictured)
      (checkLinks o outputDir browser total index links)
      (checkLinks o outputDir browser total index links) := by
  induction links generalizing index with
  | nil => exact .pure rfl
  | cons link rest ih =>
    refine (Check.blind_say _ _).bind fun _ =>
      (twin_checkLink _ _ _ _ _ _).bind fun r r' hr => ?_
    have active : r.isActive = r'.isActive := (congrArg Result.isActive hr :)
    have later : Twin (τ := τ) (fun rs rs' => rs.map Result.unpictured = rs'.map Result.unpictured)
        (do pure (r :: (← checkLinks o outputDir browser total (index + 1) rest)))
        (do pure (r' :: (← checkLinks o outputDir browser total (index + 1) rest))) :=
      (ih _).bind fun rs rs' hrs => .pure (by rw [List.map_cons, List.map_cons, hr, hrs])
    rw [active]
    cases r'.isActive with
    | true => exact (Check.blind_say _ _).bind fun _ => later
    | false => exact (Check.blind_say _ _).bind fun _ => later

theorem twin_gather (o : Options) (links : List String) :
    Twin (τ := τ) (fun r r' => r.unpictured = r'.unpictured) (gather o links) (gather o links) :=
  (Blind.given _).bind fun _ => (Check.blind_makeDirectory _).bind fun _ =>
    Check.blind_timestamp.bind fun _ => (Session.blind_launchChromium _ _).bind fun _ =>
    ((twin_checkLinks _ _ _ _ _ _).ensuring (Check.blind_record _)).bind fun _ _ h =>
    Check.blind_timestamp.bind fun _ => blind_host.bind fun _ =>
      .pure (by simp only [Findings.unpictured, h])

theorem matched_run (o : Options) {u v : World τ} (hw : u.Alike v) :
    Matched withoutPictures o.output (run o u) (run o v) :=
  Matched.bind (twin_gather o _) (fun r r' h u v hw => by
    have hreport : withoutPictures r.toJson = withoutPictures r'.toJson := by
      rw [← r.withoutPictures_toJson, h, r'.withoutPictures_toJson]
    have hwritable : r.toJson.isWritable = r'.toJson.isWritable := by
      rw [← r.isWritable_unpictured, h, r'.isWritable_unpictured]
    have active : r.anyActive = r'.anyActive := by
      rw [← r.anyActive_unpictured, h, r'.anyActive_unpictured]
    rw [active]
    cases o.output with
    | none => exact .of_alike hw
    | some path => exact matched_write hwritable hreport (.pure _) hw) hw

end Matrix

namespace Scenario

theorem blind_settle (s : StreamWatch.Scenario) (outcome : Except Halt Sample.Snapshot) :
    Blind (τ := τ) (settle s outcome) := by
  cases outcome with
  | ok publisherAfter => exact .pure _
  | error h =>
    rw [settle]
    split
    · exact (Check.blind_log _ _ _).bind fun _ => (Check.blind_say _ _).bind fun _ =>
        (Session.blind_collect _).bind fun _ => .pure rfl
    · exact .throw _

theorem blind_viewerPictures (s : StreamWatch.Scenario) (directory : Report.Path) (i : Nat)
    (viewers : List Nat) :
    Blind (τ := τ) (takePictures.viewerPictures s directory i viewers) := by
  induction viewers generalizing i with
  | nil => exact .pure ()
  | cons viewer rest ih =>
    exact (Blind.ofFault _).bind fun _ => (Session.twin_takeScreenshot _ _).bind fun _ _ _ => ih _

theorem blind_takePictures (s : StreamWatch.Scenario) (directory : Report.Path) :
    Blind (τ := τ) (takePictures s directory) :=
  (Session.twin_takeScreenshot _ _).bind fun _ _ _ => blind_viewerPictures _ _ _ _

theorem blind_openViewers (browser n : Nat) : Blind (τ := τ) (openViewers browser n) := by
  induction n with
  | zero => exact .pure _
  | succ n ih =>
    refine (Session.blind_openPage _ _ _).attempt.bind fun r => ?_
    cases r with
    | error e => exact .pure rfl
    | ok opened => exact ih.bind fun _ => .pure rfl

theorem blind_announce (env : Environment) : Blind (τ := τ) (Stream.announce env) :=
  (Check.blind_log _ _ _).bind fun _ => (Check.blind_log _ _ _).bind fun _ => .pure rfl

variable [Timeline τ]

theorem blind_steps (o : Options) (s : StreamWatch.Scenario) :
    StreamWatch.Scenario.Staged.Blind (τ := τ) (steps o s) := by
  have hlast : StreamWatch.Scenario.Staged.Blind (τ := τ) (finish s) := by
    refine .bind (.onWorld (Session.blind_collect _)) fun publisherAfter => ?_
    split
    · exact .bind (.throw _) fun _ => .pure _
    · exact .pure _
  refine .bind (StreamWatch.Scenario.blind_start _ _ _) fun _ =>
    .bind (StreamWatch.Scenario.blind_poll _) fun _ =>
    .bind (StreamWatch.Scenario.blind_verify _ _) fun _ => ?_
  split
  · exact .bind (StreamWatch.Scenario.blind_reloadViewers _) fun _ =>
      .bind (StreamWatch.Scenario.blind_poll _) fun _ =>
      .bind (StreamWatch.Scenario.blind_verify _ _) fun _ => hlast
  · exact hlast

theorem blind_perform (o : Options) (output : Report.Path) (s : StreamWatch.Scenario) :
    Blind (τ := τ) (perform o output s) := by
  refine ((blind_steps o s).carry {}).bind fun _ => (blind_settle _ _).bind fun _ =>
    (StreamWatch.Scenario.blind_summary _ _).bind fun _ => blind_host.bind fun _ => ?_
  split
  · exact (blind_takePictures _ _).bind fun _ => .pure rfl
  · exact .pure rfl

theorem blind_onPages (o : Options) (output : Report.Path) (c : Stream.Config)
    (settings : Poll.Settings) (browser : Nat) :
    Blind (τ := τ) (onPages o output c settings browser) :=
  (Session.blind_openPage _ _ _).bind fun _ => (blind_openViewers _ _).bind fun (_, opening) =>
    Twin.ensuring (Blind.bind (Blind.ofExcept opening) fun _ => blind_perform _ _ _)
      (.forEach (fun _ => Check.blind_record _) _)

theorem blind_run (env : Environment) (o : Options) : Blind (τ := τ) (run env o) := by
  refine (blind_announce env).bind fun _ => (Blind.ofFault _).bind fun _ =>
    (Check.blind_say _ _).bind fun _ => (Check.blind_say _ _).bind fun _ =>
    (Blind.given _).bind fun _ => (Session.blind_launchChromium _ _).bind fun _ =>
    Twin.bind ((blind_onPages _ _ _ _ _).ensuring (Check.blind_record _)) fun r _ h => ?_
  subst h
  refine (blind_write _ _ _).bind fun _ => ?_
  split
  · exact (Check.blind_say _ _).bind fun _ => .pure rfl
  · exact .pure rfl

end Scenario

/-- What comes of pictures changes neither the calls of a check nor its end, and nothing that it
reports but where the pictures are and why they failed. -/
theorem pictures_change_nothing [Timeline τ] {u v : World τ} (h : u.Alike v) :
    (∀ env (o : Link.Options),
      Matched withoutPicture o.output (Link.run env o u) (Link.run env o v)) ∧
    (∀ o : Matrix.Options,
      Matched Matrix.withoutPictures o.output (Matrix.run o u) (Matrix.run o v)) ∧
    ∀ env (o : Scenario.Options),
      (Scenario.run env o u).1 = (Scenario.run env o v).1 ∧
        (Scenario.run env o u).2.calls = (Scenario.run env o v).2.calls ∧
        (Scenario.run env o u).2.files = (Scenario.run env o v).2.files := by
  refine ⟨fun env o => Link.matched_run env o h, fun o => Matrix.matched_run o h, fun env o => ?_⟩
  obtain ⟨houtcome, hworld⟩ := Scenario.blind_run env o u v h
  exact ⟨houtcome.eq, hworld.eq World.calls fun _ => rfl, hworld.eq World.files fun _ => rfl⟩

def Link.Findings.pictureFailure (r : Link.Findings) : Option String :=
  r.picture.bind (·.failure)

def pictureRefused : World Rat := World.start 0 [{ screenshotFailures := [some "Target crashed"] }]

def pictureTaken : World Rat := World.start 0 [{}]

theorem pictures_change_nothing_refused :
    pictureRefused.Alike pictureTaken ∧
      (Link.inspect {} {} 0 pictureRefused).1.toOption.bind (·.pictureFailure) =
        some "Target crashed" ∧
      (Link.inspect {} {} 0 pictureTaken).1.toOption.bind (·.pictureFailure) = none ∧
      Matched withoutPicture (some "playwright-vdo-view-check.json")
        (Link.run [] {} pictureRefused) (Link.run [] {} pictureTaken) ∧
      Matched Matrix.withoutPictures (some "playwright-vdo-matrix-check.json")
        (Matrix.run { links := ["https://vdo.ninja/?view=a"] } pictureRefused)
        (Matrix.run { links := ["https://vdo.ninja/?view=a"] } pictureTaken) ∧
      (Scenario.run [] { screenshots := true } pictureRefused).1 =
        (Scenario.run [] { screenshots := true } pictureTaken).1 := by
  have h : pictureRefused.Alike pictureTaken := rfl
  obtain ⟨link, links, scenario⟩ := pictures_change_nothing h
  exact ⟨h, by decide +kernel, by decide +kernel, link [] {},
    links { links := ["https://vdo.ninja/?view=a"] }, (scenario [] { screenshots := true }).1⟩

end Runner
end StreamWatch
