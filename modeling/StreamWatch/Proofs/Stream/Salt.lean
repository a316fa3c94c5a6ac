import Mathlib.Data.List.DropRight
import StreamWatch.Proofs.Link.Authority
import StreamWatch.Proofs.Link.Codec
import StreamWatch.Stream.Config

/-! The salt of a site. For a site that is written in full it is the last two labels of its host in
small letters, whatever else is written; so a stream has one name on all the sites of a domain. -/
namespace StreamWatch.Stream

open Link (isAscii)
open Link.Parts (Follows authorityText endsAuthority isClean isDeceptive isSchemeChar)

def isLabelChar (c : Char) : Bool := c.isAlphanum || c == '-'

def isUserChar (c : Char) : Bool := isAscii c && !endsAuthority c && c != '[' && c != ']'

structure Site where
  scheme : List Char
  user : Option (List Char) := none
  labels : List (List Char)
  port : Option (List Char) := none
  rest : List Char := []
  letter : ∃ c tail, scheme = c :: tail ∧ c.isAlpha = true
  schemeChars : ∀ c ∈ scheme, isSchemeChar c = true
  userChars : ∀ u ∈ user, ∀ c ∈ u, isUserChar c = true
  hosted : labels ≠ []
  named : ∀ label ∈ labels, label ≠ [] ∧ ∀ c ∈ label, isLabelChar c = true
  digits : ∀ p ∈ port, ∀ c ∈ p, c.isDigit = true
  follows : Follows rest

namespace Site

def host (a : Site) : List Char := ['.'].intercalate a.labels

def authority (a : Site) : List Char := authorityText a.user a.host a.port

def text (a : Site) : String := .ofList (a.scheme ++ "://".toList ++ a.authority ++ a.rest)

def domain (a : Site) : String :=
  .ofList (['.'].intercalate ((a.labels.rtake 2).map (List.map Char.toLower)))

def IsIn (a : Site) (first second : List Char) : Prop :=
  ∃ before x y, a.labels = before ++ [x, y] ∧
    x.map Char.toLower = first.map Char.toLower ∧ y.map Char.toLower = second.map Char.toLower

end Site

theorem ne_of_isLabelChar {c d : Char} (hc : isLabelChar c = true) (hd : isLabelChar d = false) :
    c ≠ d := by
  rintro rfl
  rw [hc] at hd
  cases hd

theorem isAscii_of_isLabelChar {c : Char} (h : isLabelChar c = true) : isAscii c = true := by
  refine Link.isAscii_of_isUnreserved ?_
  rcases (by simpa [isLabelChar] using h : c.isAlphanum = true ∨ c = '-') with h | rfl
  · simp only [Link.isUnreserved, h, Bool.true_or]
  · rfl

theorem isUserChar_of_isLabelChar {c : Char} (h : isLabelChar c = true) : isUserChar c = true := by
  have hne {d : Char} (hd : isLabelChar d = false) : (c == d) = false :=
    beq_eq_false_iff_ne.mpr (ne_of_isLabelChar h hd)
  have hopen : (c == '[') = false := hne (by decide)
  have hclose : (c == ']') = false := hne (by decide)
  have hends : endsAuthority c = false := by
    rw [endsAuthority, hne (by decide), hne (by decide), hne (by decide)]
    rfl
  simp only [isUserChar, isAscii_of_isLabelChar h, hends, bne, hopen, hclose, Bool.not_false,
    Bool.and_self]

theorem isLabelChar_of_isDigit {c : Char} (h : c.isDigit = true) : isLabelChar c = true := by
  simp only [isLabelChar, Char.isAlphanum, h, Bool.or_true, Bool.true_or]

theorem isLabelChar_toLower {c : Char} (h : isLabelChar c = true) :
    isLabelChar c.toLower = true := by
  by_cases hu : c.isUpper = true
  · have ha : c.toLower.isAlpha = true := by
      rw [Char.isAlpha_toLower_eq_isAlpha, Char.isAlpha, hu, Bool.true_or]
    rw [isLabelChar, Char.isAlphanum, ha]
    rfl
  · rwa [Char.toLower_eq_of_not_isUpper hu]

theorem isClean_of_isLabelChar {c : Char} (h : isLabelChar c = true) : isClean c = true := by
  have hne {d : Char} (hd : isLabelChar d = false) : c ≠ d := ne_of_isLabelChar h hd
  simp only [isClean, Bool.and_eq_true, decide_eq_true_eq]
  exact ⟨⟨hne (by decide), hne (by decide)⟩, hne (by decide)⟩

theorem plain_of_isUserChar {c : Char} (h : isUserChar c = true) :
    endsAuthority c = false ∧ c ≠ '[' ∧ c ≠ ']' ∧ isDeceptive c = false := by
  simp only [isUserChar, Bool.and_eq_true, Bool.not_eq_true', bne_iff_ne] at h
  obtain ⟨⟨⟨hascii, hends⟩, hopen⟩, hclose⟩ := h
  refine ⟨hends, hopen, hclose, Bool.eq_false_iff.mpr fun hc => ?_⟩
  have high : ∀ n ∈ Link.Parts.deceptive, 0x80 ≤ n := by decide
  have low : c.toNat < 0x80 := of_decide_eq_true hascii
  exact absurd (high _ (List.contains_iff_mem.mp hc)) (Nat.not_le.mpr low)

namespace Site

variable (a : Site)

theorem mem_host {c : Char} (h : c ∈ a.host) : c = '.' ∨ isLabelChar c = true := by
  rcases Text.mem_intercalate h with h | ⟨label, hlabel, h⟩
  · exact .inl h
  · exact .inr ((a.named label hlabel).2 c h)

theorem notMem_host {d : Char} (hdot : d ≠ '.') (hd : isLabelChar d = false) : d ∉ a.host := by
  intro h
  rcases a.mem_host h with h | h
  · exact hdot h
  · exact ne_of_isLabelChar h hd rfl

theorem notMem_port {d : Char} (hd : isLabelChar d = false) : ∀ p ∈ a.port, d ∉ p :=
  fun p hp hc => ne_of_isLabelChar (isLabelChar_of_isDigit (a.digits p hp d hc)) hd rfl

theorem host_ne_nil : a.host ≠ [] := by
  obtain ⟨label, labels, h⟩ := List.exists_cons_of_ne_nil a.hosted
  obtain ⟨c, r, hlabel⟩ := List.exists_cons_of_ne_nil (a.named label (h ▸ List.mem_cons_self)).1
  rw [host, h, hlabel]
  cases labels with
  | nil => simp [List.intercalate]
  | cons q qs => simp

theorem isUserChar_of_mem_authority {c : Char} (h : c ∈ a.authority) : isUserChar c = true := by
  simp only [authority, authorityText, List.mem_append] at h
  rcases h with (h | h) | h
  · cases huser : a.user with
    | none => simp [huser] at h
    | some u =>
      rw [huser, Option.map_some, Option.getD_some, List.mem_append, List.mem_singleton] at h
      rcases h with h | rfl
      · exact a.userChars u huser c h
      · rfl
  · rcases a.mem_host h with rfl | h
    · rfl
    · exact isUserChar_of_isLabelChar h
  · cases hport : a.port with
    | none => simp [hport] at h
    | some p =>
      rw [hport, Option.map_some, Option.getD_some, List.mem_cons] at h
      rcases h with rfl | h
      · rfl
      · exact isUserChar_of_isLabelChar (isLabelChar_of_isDigit (a.digits p hport c h))

theorem filter_authority : a.authority.filter isClean =
    authorityText (a.user.map (List.filter isClean)) a.host a.port := by
  have hhost : a.host.filter isClean = a.host := by
    refine List.filter_eq_self.mpr fun c hc => ?_
    rcases a.mem_host hc with rfl | h
    · rfl
    · exact isClean_of_isLabelChar h
  have hport : ((a.port.map (':' :: ·)).getD []).filter isClean =
      (a.port.map (':' :: ·)).getD [] := by
    cases hp : a.port with
    | none => rfl
    | some p =>
      have hdigits : p.filter isClean = p := List.filter_eq_self.mpr fun c hc =>
        isClean_of_isLabelChar (isLabelChar_of_isDigit (a.digits p hp c hc))
      rw [Option.map_some, Option.getD_some, List.filter_cons_of_pos (by decide), hdigits]
  rw [authority, authorityText, List.filter_append, List.filter_append, hhost, hport, authorityText]
  cases a.user with
  | none => rfl
  | some u =>
    rw [Option.map_some, Option.getD_some, List.filter_append, Option.map_some, Option.map_some,
      Option.getD_some]
    rfl

theorem host?_of_text : ∃ parts, Link.Parts.ofText a.text.toList = .ok parts ∧
    parts.host? = some (a.host.map Char.toLower) := by
  obtain ⟨parts, hparts, hauthority⟩ := Link.Parts.ofText_of_plain a.letter a.schemeChars
    (fun c hc => plain_of_isUserChar (a.isUserChar_of_mem_authority hc)) a.follows
  rw [filter_authority] at hauthority
  refine ⟨parts, by rw [text, String.toList_ofList, hparts], ?_⟩
  refine Link.Parts.host?_of_authorityText hauthority ?_ ?_ a.host_ne_nil ?_ ?_
  · exact ⟨a.notMem_host (by decide) (by decide), a.notMem_host (by decide) (by decide),
      a.notMem_host (by decide) (by decide)⟩
  · exact fun p hp => ⟨a.notMem_port (by decide) p hp, a.notMem_port (by decide) p hp⟩
  · exact a.notMem_host (by decide) (by decide)
  · intro c hc
    rcases a.mem_host hc with rfl | h
    · decide
    · exact of_decide_eq_true (isAscii_of_isLabelChar h)

end Site

theorem pieces_host (a : Site) :
    Text.pieces '.' (a.host.map Char.toLower) = a.labels.map (List.map Char.toLower) := by
  obtain ⟨label, labels, h⟩ := List.exists_cons_of_ne_nil a.hosted
  have hdots : ∀ p ∈ label.map Char.toLower :: labels.map (List.map Char.toLower), '.' ∉ p := by
    rw [← List.map_cons (f := List.map Char.toLower), ← h]
    intro p hp hdot
    obtain ⟨l, hl, rfl⟩ := List.mem_map.mp hp
    obtain ⟨c, hc, hlower⟩ := List.mem_map.mp hdot
    exact ne_of_isLabelChar (isLabelChar_toLower ((a.named l hl).2 c hc)) (by decide) hlower
  rw [Site.host, Text.map_intercalate (by decide), h, List.map_cons, Text.pieces_intercalate hdots]

theorem saltOf_text (a : Site) : saltOf a.text = .ok a.domain := by
  obtain ⟨parts, hparts, hhost⟩ := a.host?_of_text
  have hdomain : domain (a.host.map Char.toLower) =
      ['.'].intercalate ((a.labels.rtake 2).map (List.map Char.toLower)) := by
    rw [domain, pieces_host, List.length_map, ← List.map_drop, List.rtake]
  rw [saltOf, hparts]
  dsimp only [bind, Except.bind]
  rw [hhost, Site.domain, ← hdomain]
  rfl

theorem Site.IsIn.domain_eq {a : Site} {first second : List Char} (h : a.IsIn first second) :
    a.domain = .ofList ((first ++ '.' :: second).map Char.toLower) := by
  obtain ⟨before, x, y, hlabels, hx, hy⟩ := h
  have hlast : a.labels.rtake 2 = [x, y] := by
    have hlength : (before ++ [x, y]).length - 2 = before.length := by simp
    rw [hlabels, List.rtake, hlength, List.drop_left]
  rw [Site.domain, hlast, List.map_cons, List.map_singleton, hx, hy,
    Text.intercalate_cons _ (by simp), List.map_append, List.map_cons]
  simp [List.intercalate]

/-- The salt of a site comes from the last labels of its host alone, and the name of a stream is the
same on every site of a domain, under any user, port and path and in any letter case. -/
theorem salt_of_site :
    (∀ a : Site, saltOf a.text =
      .ok (.ofList (['.'].intercalate ((a.labels.rtake 2).map (List.map Char.toLower))))) ∧
    ∀ (c : Config) (first second : List Char) (a : Site), a.IsIn first second →
      { c with site := a.text }.hashedStream = .ok (hashed c.stream (some c.password)
        (.ofList ((first ++ '.' :: second).map Char.toLower))) := by
  refine ⟨saltOf_text, fun c first second a hin => ?_⟩
  rw [Config.hashedStream, saltOf_text, hin.domain_eq]
  rfl

theorem named_of_all {labels : List (List Char)}
    (h : labels.all (fun label => label ≠ [] && label.all isLabelChar) = true) :
    ∀ label ∈ labels, label ≠ [] ∧ ∀ c ∈ label, isLabelChar c = true := by
  simpa using h

def roomSite : Site where
  scheme := "HTTPS".toList
  user := some "a@b:\t%".toList
  labels := ["rooms".toList, "My-Ninja".toList, "EXAMPLE".toList]
  port := some "8443".toList
  rest := "/app[?x=@y#z".toList
  letter := ⟨_, _, rfl, by decide⟩
  schemeChars := List.all_eq_true.mp (by decide)
  userChars u h := List.all_eq_true.mp (Option.some.inj h ▸ by decide)
  hosted := by decide
  named := named_of_all (by decide)
  digits p h := List.all_eq_true.mp (Option.some.inj h ▸ by decide)
  follows c h := Option.some.inj h ▸ rfl

def bareSite : Site where
  scheme := "wss".toList
  labels := ["my-ninja".toList, "example".toList]
  letter := ⟨_, _, rfl, by decide⟩
  schemeChars := List.all_eq_true.mp (by decide)
  userChars := by simp
  hosted := by decide
  named := named_of_all (by decide)
  digits := by simp
  follows := by simp [Follows]

theorem salt_of_site_rooms :
    roomSite.text = "HTTPS://a@b:\t%@rooms.My-Ninja.EXAMPLE:8443/app[?x=@y#z" ∧
    saltOf roomSite.text = .ok "my-ninja.example" ∧
    { Config.ofEnvironment [] with site := roomSite.text }.hashedStream =
      { Config.ofEnvironment [] with site := "wss://my-ninja.example" }.hashedStream := by
  obtain ⟨salt, name⟩ := salt_of_site
  have hroom := name (.ofEnvironment []) "my-ninja".toList "example".toList roomSite
    ⟨["rooms".toList], _, _, rfl, by decide +kernel, by decide +kernel⟩
  have hbare := name (.ofEnvironment []) "my-ninja".toList "example".toList bareSite
    ⟨[], _, _, rfl, by decide +kernel, by decide +kernel⟩
  exact ⟨by decide +kernel, salt roomSite, hroom.trans hbare.symm⟩

end StreamWatch.Stream
