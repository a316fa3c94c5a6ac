import StreamWatch.Proofs.Link.Joining
import StreamWatch.Proofs.Text.Lowercase

/-! The authority of a link. It is all that splitting a link looks at before it refuses one: where
it has no brackets and no character that turns into a separator, the link is split. The host in it
stands behind the last user mark and before the first colon. -/
namespace StreamWatch.Link.Parts

def authorityOf (s : List Char) : List Char := (splitAuthority (splitScheme (clean s)).2).1

def isDeceptive (c : Char) : Bool := deceptive.contains c.toNat

section

variable {s authority : List Char} {f : Fault}

theorem authorityOf_subset (s : List Char) : authorityOf s ⊆ s := by
  have hauthority := (splitAuthority_spec (s := (splitScheme (clean s)).2) rfl).2.2.1
  have hscheme := (splitScheme_spec (s := clean s) rfl).2
  intro c hc
  have hclean : c ∈ clean s := hscheme (hauthority hc)
  exact (List.dropWhile_suffix _).subset (List.mem_filter.mp hclean).1

theorem ofText_eq_error_iff : ofText s = .error f ↔ checkBrackets (authorityOf s) = .error f ∨
    checkBrackets (authorityOf s) = .ok () ∧ checkNormalForm (authorityOf s) = .error f := by
  change (do
    checkBrackets (authorityOf s)
    checkNormalForm (authorityOf s)
    pure (ofRest (splitScheme (clean s)).1 (authorityOf s)
      (splitAuthority (splitScheme (clean s)).2).2) : Except Fault Parts) = .error f ↔ _
  cases hbrackets : checkBrackets (authorityOf s) with
  | error g =>
    change (Except.error g : Except Fault Parts) = .error f ↔ _
    simp only [Except.error.injEq, reduceCtorEq, false_and, or_false]
  | ok _ =>
    cases hform : checkNormalForm (authorityOf s) with
    | error g =>
      change (Except.error g : Except Fault Parts) = .error f ↔ _
      simp only [Except.error.injEq, reduceCtorEq, false_or, true_and]
    | ok _ => exact ⟨nofun, fun h => h.elim nofun (nomatch ·.2)⟩

theorem checkBrackets_of_notMem (hopen : '[' ∉ authority) (hclose : ']' ∉ authority) :
    checkBrackets authority = .ok () := by
  have hopen' : authority.contains '[' = false := by simpa using hopen
  have hclose' : authority.contains ']' = false := by simpa using hclose
  rw [checkBrackets, hopen', hclose']

theorem checkNormalForm_eq_error_iff : checkNormalForm authority = .error f ↔
    f = .deceptiveHost (.ofList authority) ∧ ∃ c ∈ authority, isDeceptive c = true := by
  change (if authority.any isDeceptive then
    (.error (.deceptiveHost (.ofList authority)) : Except Fault Unit) else .ok ()) = .error f ↔ _
  by_cases h : authority.any isDeceptive = true
  · rw [if_pos h, Except.error.injEq, eq_comm, and_iff_left (List.any_eq_true.mp h)]
  · rw [if_neg h]
    exact ⟨nofun, fun ⟨_, hc⟩ => absurd (List.any_eq_true.mpr hc) h⟩

/-- A link that cannot be split has a bracket in its authority, or a character there that turns into
a separator. -/
theorem mem_of_ofText_error (h : ofText s = .error f) :
    ('[' ∈ authorityOf s ∨ ']' ∈ authorityOf s) ∨
      f = .deceptiveHost (.ofList (authorityOf s)) ∧ ∃ c ∈ authorityOf s, isDeceptive c = true := by
  rcases ofText_eq_error_iff.mp h with h | ⟨-, h⟩
  · refine .inl (Decidable.byContradiction fun hnone => ?_)
    rw [not_or] at hnone
    rw [checkBrackets_of_notMem hnone.1 hnone.2] at h
    cases h
  · exact .inr (checkNormalForm_eq_error_iff.mp h)

end

section

variable {scheme authority rest : List Char}

theorem clean_append (letter : ∃ c tail, scheme = c :: tail ∧ c.isAlpha = true)
    (chars : ∀ c ∈ scheme, isSchemeChar c = true) (rest : List Char) :
    clean (scheme ++ rest) = scheme ++ rest.filter isClean := by
  obtain ⟨c, tail, rfl, halpha⟩ := letter
  have hfirst : ((c :: tail) ++ rest).dropWhile (fun c => c.toNat ≤ 0x20) = (c :: tail) ++ rest :=
    List.dropWhile_cons_of_neg (by simpa using isAlpha_gt_blank halpha)
  have hkeep : (c :: tail).filter isClean = c :: tail :=
    List.filter_eq_self.mpr fun d hd => isClean_of_isSchemeChar (chars d hd)
  rw [clean, hfirst]
  change ((c :: tail) ++ rest).filter isClean = _
  rw [List.filter_append, hkeep]

theorem Follows.filter (h : Follows rest) : Follows (rest.filter isClean) := by
  cases rest with
  | nil => exact nofun
  | cons c rest =>
    have hc := h c rfl
    have hclean : isClean c = true := by
      simp only [endsAuthority, Bool.or_eq_true, beq_iff_eq] at hc
      rcases hc with (rfl | rfl) | rfl <;> rfl
    rw [List.filter_cons_of_pos hclean]
    rintro _ ⟨⟩
    exact hc

theorem ofText_of_plain (letter : ∃ c tail, scheme = c :: tail ∧ c.isAlpha = true)
    (chars : ∀ c ∈ scheme, isSchemeChar c = true)
    (plain : ∀ c ∈ authority, endsAuthority c = false ∧ c ≠ '[' ∧ c ≠ ']' ∧ isDeceptive c = false)
    (follows : Follows rest) :
    ∃ parts, ofText (scheme ++ "://".toList ++ authority ++ rest) = .ok parts ∧
      parts.authority = authority.filter isClean := by
  have hplain : ∀ c ∈ authority.filter isClean,
      endsAuthority c = false ∧ c ≠ '[' ∧ c ≠ ']' ∧ isDeceptive c = false :=
    fun c hc => plain c (List.mem_filter.mp hc).1
  have hmarks : ("://".toList ++ (authority ++ rest)).filter isClean =
      ':' :: '/' :: '/' :: (authority.filter isClean ++ rest.filter isClean) := by
    rw [List.filter_append, List.filter_append]
    rfl
  have hclean : clean (scheme ++ "://".toList ++ authority ++ rest) =
      scheme ++ ':' :: '/' :: '/' :: (authority.filter isClean ++ rest.filter isClean) := by
    rw [List.append_assoc, List.append_assoc, clean_append letter chars, hmarks]
  have hscheme := splitScheme_append letter chars
    ('/' :: '/' :: (authority.filter isClean ++ rest.filter isClean))
  rw [← hclean] at hscheme
  have hauthority := splitAuthority_slashes (fun c hc => (hplain c hc).1) follows.filter
  have hform : checkNormalForm (authority.filter isClean) = .ok () := by
    cases h : checkNormalForm (authority.filter isClean) with
    | ok _ => rfl
    | error f =>
      obtain ⟨-, c, hc, hdeceptive⟩ := checkNormalForm_eq_error_iff.mp h
      rw [(hplain c hc).2.2.2] at hdeceptive
      cases hdeceptive
  refine ⟨_, (ofText_eq_ok_iff hscheme hauthority).mpr ⟨?_, hform, rfl⟩, rfl⟩
  exact checkBrackets_of_notMem (fun hc => (hplain _ hc).2.1 rfl) fun hc => (hplain _ hc).2.2.1 rfl

end

def authorityText (user : Option (List Char)) (host : List Char) (port : Option (List Char)) :
    List Char :=
  (user.map (· ++ ['@'])).getD [] ++ host ++ (port.map (':' :: ·)).getD []

section

variable {user port : Option (List Char)} {host : List Char}

theorem afterLast_authorityText (hhost : '@' ∉ host) (hport : ∀ p ∈ port, '@' ∉ p) :
    Text.afterLast '@' (authorityText user host port) = host ++ (port.map (':' :: ·)).getD [] := by
  have hsite : '@' ∉ host ++ (port.map (':' :: ·)).getD [] := by
    rw [List.mem_append, not_or]
    refine ⟨hhost, ?_⟩
    cases port with
    | none => exact List.not_mem_nil
    | some p => simpa using hport p rfl
  cases user with
  | none => exact Text.afterLast_of_notMem hsite
  | some u =>
    have hmark : authorityText (some u) host port =
        u ++ '@' :: (host ++ (port.map (':' :: ·)).getD []) := by
      simp [authorityText]
    rw [hmark, Text.afterLast_append hsite]

theorem hostAndRest_authorityText (hhost : '@' ∉ host ∧ '[' ∉ host ∧ ':' ∉ host)
    (hport : ∀ p ∈ port, '@' ∉ p ∧ '[' ∉ p) :
    (hostAndRest (authorityText user host port)).1 = host := by
  have hsite : Text.afterLast '@' (authorityText user host port) =
      host ++ (port.map (':' :: ·)).getD [] :=
    afterLast_authorityText hhost.1 fun p hp => (hport p hp).1
  have hopen : '[' ∉ host ++ (port.map (':' :: ·)).getD [] := by
    rw [List.mem_append, not_or]
    refine ⟨hhost.2.1, ?_⟩
    cases port with
    | none => exact List.not_mem_nil
    | some p => simpa using (hport p rfl).2
  rw [hostAndRest, hsite, Text.past?_of_notMem hopen]
  cases port with
  | none =>
    rw [Option.map_none, Option.getD_none, List.append_nil]
    exact Text.upTo_of_notMem hhost.2.2
  | some p => exact Text.upTo_append hhost.2.2 p

theorem host?_of_authorityText {p : Parts} (h : p.authority = authorityText user host port)
    (hhost : '@' ∉ host ∧ '[' ∉ host ∧ ':' ∉ host) (hport : ∀ q ∈ port, '@' ∉ q ∧ '[' ∉ q)
    (hne : host ≠ []) (hzone : '%' ∉ host) (hascii : ∀ c ∈ host, c.toNat < 0x80) :
    p.host? = some (host.map Char.toLower) := by
  have hfound : (hostAndRest (authorityText user host port)).1 = host :=
    hostAndRest_authorityText hhost hport
  have hrest : host.dropWhile (· != '%') = [] :=
    List.dropWhile_eq_nil_iff.mpr (Text.bne_of_notMem hzone)
  rw [host?, h, hfound]
  cases host with
  | nil => exact absurd rfl hne
  | cons c tail =>
    dsimp only
    rw [Text.upTo_of_notMem hzone, hrest, List.append_nil, Text.lower_of_ascii hascii]

end
end StreamWatch.Link.Parts
