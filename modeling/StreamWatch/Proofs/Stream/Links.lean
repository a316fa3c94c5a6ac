import StreamWatch.Proofs.Link.Codec
import StreamWatch.Proofs.Link.Setting
import StreamWatch.Proofs.Link.Splitting
import StreamWatch.Stream.Config

/-! The links of a stream, read again. Unless a variable sets them outright, they lead to the site
with a query of plain ASCII, and this query decodes to the stream's identifier and to those of its
properties that have a value, in a fixed order. -/
namespace StreamWatch.Stream

open Link (Params isAscii isUnreserved)

def isQueryChar (c : Char) : Bool :=
  isUnreserved c || ['!', '*', '\x27', '(', ')', '%', '=', '&', '+'].contains c

theorem plain_of_isQueryChar {c : Char} (h : isQueryChar c = true) :
    isAscii c = true ∧ c ≠ '#' ∧ Text.isBlank c = false := by
  rw [isQueryChar, Bool.or_eq_true] at h
  rcases h with h | h
  · have hb := Link.bounds_of_isUnreserved h
    refine ⟨Link.isAscii_of_isUnreserved h, ?_, ?_⟩
    · rintro rfl
      exact absurd h (by decide)
    · simp only [Text.isBlank, Bool.or_eq_false_iff, Bool.and_eq_false_iff, decide_eq_false_iff_not,
        beq_eq_false_iff_ne]
      omega
  · have all : (['!', '*', '\x27', '(', ')', '%', '=', '&', '+'].all fun d =>
        isAscii d && (d != '#' && !Text.isBlank d)) = true := by decide
    have hc := List.all_eq_true.mp all c (List.contains_iff_mem.mp h)
    simpa only [Bool.and_eq_true, bne_iff_ne, Bool.not_eq_true'] using hc

theorem ne_of_isQueryChar {c d : Char} (h : isQueryChar c = true) (hd : isQueryChar d = false) :
    c ≠ d := by
  rintro rfl
  rw [h] at hd
  cases hd

theorem isLasting_of_isQueryChar {c : Char} (h : isQueryChar c = true) :
    Link.Parts.isLasting c = true := by
  have hc {d : Char} (hd : isQueryChar d = false) : c ≠ d := ne_of_isQueryChar h hd
  simp only [Link.Parts.isLasting, Bool.and_eq_true, bne_iff_ne, ne_eq]
  exact ⟨⟨⟨hc (by decide), hc (by decide)⟩, hc (by decide)⟩, hc (by decide)⟩

theorem keepable_isLinkMark : Link.Keepable isLinkMark := by
  have all : (['!', '~', '*', '\x27', '(', ')'].all fun d => isAscii d && d != '%') = true := by
    decide
  intro c h
  have hc := List.all_eq_true.mp all c (List.contains_iff_mem.mp h)
  simpa only [Bool.and_eq_true, bne_iff_ne] using hc

theorem isQueryChar_of_mem_linkForm {stream : String} {c : Char} (h : c ∈ linkForm stream) :
    isQueryChar c = true := by
  rcases Link.mem_quote h with h | h | rfl
  · rw [isQueryChar, h, Bool.true_or]
  · have all : ['!', '~', '*', '\x27', '(', ')'].all isQueryChar = true := by decide
    exact List.all_eq_true.mp all c (List.contains_iff_mem.mp h)
  · rfl

theorem isQueryChar_of_mem_encodePair {p : String × String} {c : Char}
    (h : c ∈ Params.encodePair p) : isQueryChar c = true := by
  rcases Params.mem_encodePair h with h | rfl | rfl | rfl | rfl
  · rw [isQueryChar, h, Bool.true_or]
  all_goals rfl

theorem notMem_linkForm {stream : String} {c : Char} (hu : isUnreserved c = false)
    (hm : isLinkMark c = false) (hc : c ≠ '%') : c ∉ linkForm stream := by
  intro h
  rcases Link.mem_quote h with h | h | h
  · rw [hu] at h
    cases h
  · rw [hm] at h
    cases h
  · exact hc h

theorem quote_of_unreserved {also : Char → Bool} {s : List Char}
    (h : s.all isUnreserved = true) : Link.quote also s = s := by
  induction s with
  | nil => rfl
  | cons c r ih =>
    rw [List.all_cons, Bool.and_eq_true] at h
    have hc : Link.quoteChar also c = [c] := by rw [Link.quoteChar, h.1, Bool.true_or, if_pos rfl]
    rw [Link.quote, List.flatMap_cons, hc]
    exact congrArg (c :: ·) (ih h.2)

def leading (action stream : String) : List Char := action.toList ++ '=' :: linkForm stream

theorem notMem_leading {action stream : String} {c : Char} (ha : c ∉ action.toList) (he : c ≠ '=')
    (hs : c ∉ linkForm stream) : c ∉ leading action stream := by
  rw [leading, List.mem_append, List.mem_cons, not_or, not_or]
  exact ⟨ha, he, hs⟩

theorem decodePair_leading {action : String} (ha : action.toList.all isUnreserved = true)
    (stream : String) : Params.decodePair (leading action stream) = (action, stream) := by
  have hname : Params.decodePiece action.toList = action.toList := by
    have h := @Params.decodePiece_quote (fun _ => false) (fun _ h => nomatch h) rfl action.toList
    rwa [quote_of_unreserved ha] at h
  have hvalue : Params.decodePiece (linkForm stream) = stream.toList :=
    Params.decodePiece_quote keepable_isLinkMark (by decide) stream.toList
  have hequals : '=' ∉ action.toList := fun h => absurd (List.all_eq_true.mp ha _ h) (by decide)
  rw [leading, Params.decodePair_append hequals, hname, hvalue, String.ofList_toList,
    String.ofList_toList]

def queryOf (action stream : String) (params : Params) : List Char :=
  ['&'].intercalate (leading action stream :: params.map Params.encodePair)

theorem siteLink_toList (site action stream : String) (params : Params) :
    (Config.siteLink site action stream params).toList =
      Text.dropEndWhile (· == '/') site.toList ++ '/' :: '?' :: queryOf action stream params := by
  cases params with
  | nil => simp [Config.siteLink, queryOf, leading, List.intercalate]
  | cons p ps => simp [Config.siteLink, queryOf, leading, List.intercalate, Params.encode]

theorem isQueryChar_of_mem_queryOf {action stream : String} {params : Params}
    (ha : action.toList.all isUnreserved = true) {c : Char} (h : c ∈ queryOf action stream params) :
    isQueryChar c = true := by
  have hleading : c ∈ leading action stream → isQueryChar c = true := by
    intro h
    rw [leading, List.mem_append, List.mem_cons] at h
    rcases h with h | rfl | h
    · rw [isQueryChar, List.all_eq_true.mp ha c h, Bool.true_or]
    · rfl
    · exact isQueryChar_of_mem_linkForm h
  rcases Text.mem_intercalate h with rfl | ⟨part, hpart, hc⟩
  · rfl
  · rcases List.mem_cons.mp hpart with rfl | hpart
    · exact hleading hc
    · obtain ⟨p, -, rfl⟩ := List.mem_map.mp hpart
      exact isQueryChar_of_mem_encodePair hc

theorem decode_queryOf {action : String} (ha : action.toList.all isUnreserved = true)
    (stream : String) (params : Params) :
    Params.decode (queryOf action stream params) = (action, stream) :: params := by
  have hparts : ∀ q ∈ leading action stream :: params.map Params.encodePair,
      '&' ∉ q ∧ q ≠ [] := by
    intro q hq
    rcases List.mem_cons.mp hq with rfl | hq
    · refine ⟨notMem_leading (fun h => ?_) (by decide) (notMem_linkForm (by decide) (by decide)
        (by decide)), by simp [leading]⟩
      exact absurd (List.all_eq_true.mp ha _ h) (by decide)
    · exact Params.encodePair_separate hq
  rw [queryOf, Params.decode_intercalate hparts, List.map_cons, decodePair_leading ha,
    Params.map_decodePair_encodePair]

/-- The link leads to the site with a query of plain ASCII that decodes to `params`; whoever splits
the link finds this query and no fragment. -/
def Leads (site : String) (params : Params) (link : String) : Prop :=
  ∃ query : List Char,
    link.toList = Text.dropEndWhile (· == '/') site.toList ++ '/' :: '?' :: query ∧
    (∀ c ∈ query, isAscii c = true ∧ c ≠ '#' ∧ Text.isBlank c = false) ∧
    Params.decode query = params ∧
    ∀ parts, Link.Parts.ofText link.toList = .ok parts →
      parts.query = query ∧ parts.fragment = []

theorem mem_of_mem_dropEndWhile {p : Char → Bool} {s : List Char} {c : Char}
    (h : c ∈ Text.dropEndWhile p s) : c ∈ s := by
  rw [Text.dropEndWhile, List.mem_reverse] at h
  exact List.mem_reverse.mp ((List.dropWhile_suffix p).subset h)

theorem leads_siteLink {site action : String} (ha : action.toList.all isUnreserved = true)
    (hsite : '?' ∉ site.toList ∧ '#' ∉ site.toList) (stream : String) (params : Params) :
    Leads site ((action, stream) :: params) (Config.siteLink site action stream params) := by
  have hchars {c : Char} (h : c ∈ queryOf action stream params) : isQueryChar c = true :=
    isQueryChar_of_mem_queryOf ha h
  have hlink := siteLink_toList site action stream params
  refine ⟨queryOf action stream params, hlink, fun c hc => plain_of_isQueryChar (hchars hc),
    decode_queryOf ha stream params, fun parts hparts => ?_⟩
  have hbefore : Link.Parts.BeforeQuery (Text.dropEndWhile (· == '/') site.toList ++ ['/']) := by
    refine Link.Parts.BeforeQuery.of_subset (s := '/' :: site.toList) ?_ fun c hc => ?_
    · exact ⟨by simpa using hsite.1, by simpa using hsite.2⟩
    · rcases List.mem_append.mp hc with hc | hc
      · exact List.mem_cons_of_mem _ (mem_of_mem_dropEndWhile hc)
      · exact List.mem_cons.mpr (.inl (List.mem_singleton.mp hc))
  rw [hlink, List.append_cons] at hparts
  exact Link.Parts.query_of_ofText hbefore
    (List.all_eq_true.mpr fun c hc => isLasting_of_isQueryChar (hchars hc)) hparts

def entry (key value : String) : Params := if value = "" then [] else [(key, value)]

theorem pushParams_eq (cleanOutput password room bitrate : String) :
    Config.pushParams cleanOutput password room bitrate =
      entry "cleanoutput" cleanOutput ++ entry "password" password ++
        [("autostart", "1"), ("webcam", "1")] ++ entry "room" room ++ entry "bitrate" bitrate := by
  unfold Config.pushParams Config.sharedParams Config.setUnlessEmpty entry
  by_cases hc : cleanOutput = "" <;> by_cases hp : password = "" <;> by_cases hr : room = "" <;>
    by_cases hb : bitrate = "" <;> simp [hc, hp, hr, hb, Params.set]

theorem viewParams_eq (cleanOutput password room : String) (roomInView sceneInView : Bool) :
    Config.viewParams cleanOutput password room roomInView sceneInView =
      entry "cleanoutput" cleanOutput ++ entry "password" password ++
        (if roomInView then ("room", room) :: (if sceneInView then [("scene", "1")] else [])
          else []) := by
  unfold Config.viewParams Config.sharedParams Config.setUnlessEmpty entry
  by_cases hc : cleanOutput = "" <;> by_cases hp : password = "" <;> cases roomInView <;>
    cases sceneInView <;> simp [hc, hp, Params.set]

theorem nodup_setUnlessEmpty {params : Params} (distinct : params.keys.Nodup)
    (key value : String) : (Config.setUnlessEmpty key value params).keys.Nodup := by
  rw [Config.setUnlessEmpty]
  split
  · exact distinct
  · exact Params.nodup_set distinct key value

theorem nodup_sharedParams (cleanOutput password : String) :
    (Config.sharedParams cleanOutput password).keys.Nodup := by
  have none : (Params.keys []).Nodup := List.nodup_nil
  exact nodup_setUnlessEmpty (nodup_setUnlessEmpty none "cleanoutput" cleanOutput) "password"
    password

theorem nodup_pushParams (cleanOutput password room bitrate : String) :
    (Config.pushParams cleanOutput password room bitrate).keys.Nodup := by
  have started := Params.nodup_set (nodup_sharedParams cleanOutput password) "autostart" "1"
  have filmed := Params.nodup_set started "webcam" "1"
  exact nodup_setUnlessEmpty (nodup_setUnlessEmpty filmed "room" room) "bitrate" bitrate

theorem nodup_viewParams (cleanOutput password room : String) (roomInView sceneInView : Bool) :
    (Config.viewParams cleanOutput password room roomInView sceneInView).keys.Nodup := by
  have shared := nodup_sharedParams cleanOutput password
  cases roomInView with
  | false => exact shared
  | true =>
    have housed := Params.nodup_set shared "room" room
    cases sceneInView with
    | false => exact housed
    | true => exact Params.nodup_set housed "scene" "1"

theorem siteOf_eq (env : Environment) :
    Config.siteOf env = if env.text "VDO_HOSTNAME" = "" then Config.defaultSite
      else env.text "VDO_HOSTNAME" := by
  change (if env.getOr "VDO_HOSTNAME" Config.defaultSite = "" then Config.defaultSite
    else env.getOr "VDO_HOSTNAME" Config.defaultSite) = _
  cases h : env.get? "VDO_HOSTNAME" with
  | none =>
    have htext : env.text "VDO_HOSTNAME" = "" := by simp [Environment.text, Environment.getOr, h]
    have hsite : env.getOr "VDO_HOSTNAME" Config.defaultSite = Config.defaultSite := by
      simp [Environment.getOr, h]
    rw [htext, hsite]
    rfl
  | some site =>
    have hany (fallback : String) : env.getOr "VDO_HOSTNAME" fallback = site := by
      simp [Environment.getOr, h]
    rw [Environment.text, hany, hany]

theorem notMem_siteOf {env : Environment}
    (h : ∀ site, env.get? "VDO_HOSTNAME" = some site → '?' ∉ site.toList ∧ '#' ∉ site.toList) :
    '?' ∉ (Config.siteOf env).toList ∧ '#' ∉ (Config.siteOf env).toList := by
  rw [siteOf_eq]
  split
  · decide
  · rename_i hne
    obtain ⟨site, hsite⟩ : ∃ site, env.get? "VDO_HOSTNAME" = some site := by
      refine Option.ne_none_iff_exists'.mp fun hnone => hne ?_
      simp [Environment.text, Environment.getOr, hnone]
    have htext : env.text "VDO_HOSTNAME" = site := by
      simp [Environment.text, Environment.getOr, hsite]
    rw [htext]
    exact h site hsite

section
variable {env : Environment}

theorem pushLink_of_unset (h : env.nonEmpty? "VDO_PUSH_URL" = none) :
    (Config.ofEnvironment env).pushLink =
      Config.siteLink (Config.ofEnvironment env).site "push" (Config.ofEnvironment env).stream
        (Config.pushParams (Config.ofEnvironment env).cleanOutput
          (Config.ofEnvironment env).password (Config.ofEnvironment env).room
          (Config.ofEnvironment env).bitrate) := by
  change (env.nonEmpty? "VDO_PUSH_URL").getD _ = _
  rw [h]
  rfl

theorem viewLink_of_unset (h : env.nonEmpty? "VDO_VIEW_URL" = none) :
    (Config.ofEnvironment env).viewLink =
      Config.siteLink (Config.ofEnvironment env).site "view" (Config.ofEnvironment env).stream
        (Config.viewParams (Config.ofEnvironment env).cleanOutput
          (Config.ofEnvironment env).password (Config.ofEnvironment env).room
          (Config.ofEnvironment env).roomInView (Config.ofEnvironment env).sceneInView) := by
  change (env.nonEmpty? "VDO_VIEW_URL").getD _ = _
  rw [h]
  rfl

theorem roomInView_iff : (Config.ofEnvironment env).roomInView = true ↔
    (Config.ofEnvironment env).room ≠ "" ∧ env.text "VDO_VIEW_INCLUDE_ROOM" ≠ "0" := by
  change (env.text "VDO_ROOM_ID" != "" && env.text "VDO_VIEW_INCLUDE_ROOM" != "0") = true ↔ _
  rw [Bool.and_eq_true, bne_iff_ne, bne_iff_ne]
  rfl

theorem sceneInView_iff (hroom : (Config.ofEnvironment env).room ≠ "") :
    (Config.ofEnvironment env).sceneInView = true ↔ env.text "VDO_VIEW_INCLUDE_SCENE" ≠ "0" := by
  change (env.text "VDO_ROOM_ID" != "" && env.text "VDO_VIEW_INCLUDE_SCENE" != "0") = true ↔ _
  rw [Bool.and_eq_true, bne_iff_ne, bne_iff_ne]
  exact and_iff_right hroom

theorem roomEntries_eq :
    (if (Config.ofEnvironment env).roomInView then
      ("room", (Config.ofEnvironment env).room) ::
        (if (Config.ofEnvironment env).sceneInView then [("scene", "1")] else [])
      else []) =
    if (Config.ofEnvironment env).room ≠ "" ∧ env.text "VDO_VIEW_INCLUDE_ROOM" ≠ "0" then
      ("room", (Config.ofEnvironment env).room) ::
        (if env.text "VDO_VIEW_INCLUDE_SCENE" ≠ "0" then [("scene", "1")] else [])
      else [] := by
  by_cases h : (Config.ofEnvironment env).room ≠ "" ∧ env.text "VDO_VIEW_INCLUDE_ROOM" ≠ "0"
  · simp only [if_pos h, roomInView_iff.mpr h, if_true, sceneInView_iff h.1]
  · simp only [if_neg h, Bool.eq_false_iff.mpr (mt roomInView_iff.mp h), Bool.false_eq_true,
      if_false]

/-- Without a link set outright, both links lead to the site and say what the variables say. -/
theorem ofEnvironment_leads
    (hpush : env.nonEmpty? "VDO_PUSH_URL" = none) (hview : env.nonEmpty? "VDO_VIEW_URL" = none)
    (hsite : ∀ site, env.get? "VDO_HOSTNAME" = some site →
      '?' ∉ site.toList ∧ '#' ∉ site.toList) :
    let c := Config.ofEnvironment env
    let shared := entry "cleanoutput" c.cleanOutput ++ entry "password" c.password
    c.stream = env.getOr "VDO_STREAM_ID" "Alsosuitbc" ∧
    c.cleanOutput = env.getOr "VDO_CLEANOUTPUT" "1" ∧
    c.password = (if env.text "VDO_NO_PASSWORD" = "1" then ""
      else if env.has "VDO_PASSWORD" then env.text "VDO_PASSWORD" else "somepassword") ∧
    c.room = env.text "VDO_ROOM_ID" ∧ c.bitrate = env.text "VDO_BITRATE" ∧
    c.site = (if env.text "VDO_HOSTNAME" = "" then "https://vdo.ninja/"
      else env.text "VDO_HOSTNAME") ∧
    Leads c.site
      (("push", c.stream) :: (shared ++ [("autostart", "1"), ("webcam", "1")] ++
        entry "room" c.room ++ entry "bitrate" c.bitrate))
      c.pushLink ∧
    Leads c.site
      (("view", c.stream) :: (shared ++
        if c.room ≠ "" ∧ env.text "VDO_VIEW_INCLUDE_ROOM" ≠ "0" then
          ("room", c.room) ::
            if env.text "VDO_VIEW_INCLUDE_SCENE" ≠ "0" then [("scene", "1")] else []
        else []))
      c.viewLink := by
  intro c shared
  have hplain := notMem_siteOf hsite
  refine ⟨rfl, rfl, rfl, rfl, rfl, siteOf_eq env, ?_, ?_⟩
  · rw [pushLink_of_unset hpush, pushParams_eq]
    exact leads_siteLink (by decide) hplain c.stream _
  · rw [viewLink_of_unset hview, viewParams_eq, roomEntries_eq]
    exact leads_siteLink (by decide) hplain c.stream _

end

def markedEnvironment : Environment :=
  [("VDO_STREAM_ID", some "a&b=c+d%#? \u00e9~"), ("VDO_PASSWORD", none),
    ("VDO_ROOM_ID", some "r=1&s +%41"), ("VDO_BITRATE", some "\u20ac#~*"),
    ("VDO_HOSTNAME", some "http://h.example//"), ("VDO_VIEW_INCLUDE_SCENE", some "0")]

theorem ofEnvironment_leads_marked :
    (markedEnvironment.nonEmpty? "VDO_PUSH_URL" = none ∧
      markedEnvironment.nonEmpty? "VDO_VIEW_URL" = none ∧
      markedEnvironment.get? "VDO_HOSTNAME" = some "http://h.example//") ∧
    Leads "http://h.example//"
      [("push", "a&b=c+d%#? \u00e9~"), ("cleanoutput", "1"), ("autostart", "1"), ("webcam", "1"),
        ("room", "r=1&s +%41"), ("bitrate", "\u20ac#~*")]
      (Config.ofEnvironment markedEnvironment).pushLink ∧
    Leads "http://h.example//"
      [("view", "a&b=c+d%#? \u00e9~"), ("cleanoutput", "1"), ("room", "r=1&s +%41")]
      (Config.ofEnvironment markedEnvironment).viewLink := by
  have hsite : markedEnvironment.get? "VDO_HOSTNAME" = some "http://h.example//" := by decide
  have hplain : ∀ site, markedEnvironment.get? "VDO_HOSTNAME" = some site →
      '?' ∉ site.toList ∧ '#' ∉ site.toList := by
    intro site h
    obtain rfl := Option.some.inj (hsite.symm.trans h)
    decide
  have h := @ofEnvironment_leads markedEnvironment (by decide) (by decide) hplain
  exact ⟨⟨by decide, by decide, hsite⟩, h.2.2.2.2.2.2.1, h.2.2.2.2.2.2.2⟩

end StreamWatch.Stream
