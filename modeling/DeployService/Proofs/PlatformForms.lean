import DeployService.Proofs.HostNames
import DeployService.Proofs.HostUrl
import DeployService.Proofs.Trimming
import DeployService.Settings.ServiceUrl

/-!
# The forms of a platform's interface

The interface of a platform is given as a URL or by its host alone, with or without a port and a
path. The URL is read, and so nothing but the host counts in it, in lower case. The other form is no
URL as a rule; then it is taken as it is, without slashes at the end. But where a port follows a
name that begins with a letter, the name is taken for a scheme, and there is no host at all.

So the forms lead to the same service only where there is neither a port nor a path, and the domain
is in lower case (`service_of_forms`).
-/

namespace DeployService.Url

open DeployService.Text

/-! ## The characters of an authority -/

/-- The character may occur in a host name or before a port. -/
def isAuthorityChar (c : Char) : Bool := isNameChar c || c == ':'

theorem isAuthorityChar_cases {c : Char} (h : isAuthorityChar c = true) :
    isNameChar c = true ∨ c = ':' := by
  simpa [isAuthorityChar] using h

theorem isOuter_authorityChar {c : Char} (h : isAuthorityChar c = true) : isOuter c = false := by
  rcases isAuthorityChar_cases h with hname | rfl
  · exact (isHarmless_of_isNameChar hname).outer
  · rfl

theorem isBlank_authorityChar {c : Char} (h : isAuthorityChar c = true) : isBlank c = false := by
  rcases isAuthorityChar_cases h with hname | rfl
  · exact (isHarmless_of_isNameChar hname).blank
  · rfl

theorem precedesEnd_authorityChar {c : Char} (h : isAuthorityChar c = true) :
    precedesEnd c = true := by
  simp [precedesEnd, ne_of_apply (d := '?') h rfl,
    ne_of_apply (d := '#') h rfl]

theorem isNameChar_of_isDigit {c : Char} (h : c.isDigit = true) : isNameChar c = true := by
  simp [isNameChar, isLabelChar, Char.isAlphanum, h]

/-! ## A path at the end -/

theorem relevant_front_tail {front tail : List Char} (hne : front ≠ [])
    (hfront : ∀ c ∈ front, isOuter c = false) :
    relevant (String.ofList (front ++ tail)) = front ++ readTail tail := by
  have hstart : (front ++ tail).dropWhile isOuter = front ++ tail :=
    dropWhile_front hne hfront tail
  have hend : (front ++ tail).rdropWhile isOuter = front ++ tail.rdropWhile isOuter :=
    rdropWhile_front hne (fun c hc => hfront c (List.mem_of_getLast? hc)) tail
  have hbreaks : front.filter (!isBreak ·) = front := by
    refine List.filter_eq_self.mpr fun c hc => ?_
    have hc := hfront c hc
    simp only [isBreak, Bool.not_eq_true', Bool.or_eq_false_iff, beq_eq_false_iff_ne]
    refine ⟨⟨?_, ?_⟩, ?_⟩
    all_goals
      rintro rfl
      cases hc
  rw [List.rdropWhile] at hend
  rw [relevant, String.toList_ofList, hstart, hend, List.filter_append, hbreaks, readTail]

theorem readTail_rooted {path : List Char} (h : ∀ c ∈ path.head?, c = '/') :
    ∀ c ∈ (readTail path).head?, c = '/' := by
  cases path with
  | nil => simp [readTail]
  | cons c path =>
    obtain rfl : c = '/' := h c rfl
    have hrest : ('/' :: path).rdropWhile isOuter = '/' :: path.rdropWhile isOuter :=
      rdropWhile_before_stop rfl [] path
    rw [readTail, hrest]
    simp [isBreak]

/-- What precedes the query of a path is a path. -/
theorem cutEnd_rooted (kind : Kind) {path : List Char} (h : ∀ c ∈ path.head?, c = '/') :
    ∀ c ∈ (cutEnd kind path).1.head?, c = '/' := by
  cases path with
  | nil =>
    intro c hc
    cases hc
  | cons c path =>
    obtain rfl : c = '/' := h c rfl
    have hcut := @cutEnd_front kind ['/'] (List.forall_mem_singleton.mpr rfl) path
    rw [List.singleton_append] at hcut
    rw [hcut]
    simp

/-! ## Texts without an authority -/

theorem kind_of_dotted {scheme : List Char} (h : '.' ∈ scheme) :
    Kind.ofScheme (String.ofList scheme) = .other := by
  have hne : ∀ other : String, '.' ∉ other.toList → String.ofList scheme ≠ other := by
    rintro other hother rfl
    exact hother (by rwa [String.toList_ofList])
  have hlist : ["http", "https", "ws", "wss", "ftp"].contains (String.ofList scheme) = false := by
    rw [List.contains_eq_any_beq, List.any_eq_false]
    intro other hmem
    have hother : '.' ∉ other.toList := by
      simp only [List.mem_cons, List.not_mem_nil, or_false] at hmem
      rcases hmem with rfl | rfl | rfl | rfl | rfl <;> decide
    rw [beq_iff_eq]
    exact hne other hother
  rw [Kind.ofScheme, if_neg (hne "file" (by decide)), hlist]
  rfl

/-- Digits after a scheme that is not special are no authority. -/
theorem readHierarchy_digits {scheme : String} (hk : Kind.ofScheme scheme = .other) (isEnd : Bool)
    {d : Char} (hd : d ≠ '/') (rest : List Char) :
    readHierarchy scheme isEnd (d :: rest) =
      .ok (none, .rootless (String.ofList (encodeWith inControls (d :: rest)))) := by
  simp only [readHierarchy, hk]
  split
  · next heq => exact absurd (List.cons.inj heq).1 hd
  · next heq => exact absurd (List.cons.inj heq).1 hd
  · rfl

/-- A text in which the first colon is found behind a slash has no scheme. -/
theorem readScheme?_of_slash {front tail : List Char} (hf : ':' ∉ front)
    (ht : ∀ c ∈ tail.head?, c = '/') : readScheme? (front ++ tail) = none := by
  unfold readScheme?
  split
  · rfl
  · split
    · rw [cutChars?_front hf]
      cases tail with
      | nil => rfl
      | cons c tail =>
        obtain rfl : c = '/' := ht c rfl
        rw [cutChars?, if_neg (by decide)]
        rcases cutChars? ':' tail with _ | ⟨before, after⟩
        · rfl
        · have hslash : (front ++ '/' :: before).all isSchemeChar = false := by
            simp [isSchemeChar]
          simp only [Option.map_some, hslash, Bool.false_eq_true, if_false]
    · rfl

theorem readScheme?_of_head {cs : List Char} (h : cs.head?.any Char.isAlpha = false) :
    readScheme? cs = none := by
  cases cs with
  | nil => rfl
  | cons c cs =>
    have hc : c.isAlpha = false := h
    rw [readScheme?, hc, if_neg Bool.false_ne_true]

end DeployService.Url

namespace DeployService.ServiceUrl

open DeployService.Text DeployService.Url

/-! ## Interfaces -/

/-- The interface of a platform: a host name, perhaps with a port and a path. -/
structure Interface where
  name : HostName
  /-- The digits of the port. -/
  port : Option (List Char)
  /-- The path and all that follows it. -/
  path : List Char
  portRange : ∀ digits ∈ port, ∃ n, IsDecimal digits n ∧ n ≤ 65535
  rooted : ∀ c ∈ path.head?, c = '/'

namespace Interface

variable (i : Interface)

/-- The port with its colon. -/
def portChars : List Char := i.port.elim [] (':' :: ·)

/-- The host name and the port. -/
def authority : List Char := i.name.chars ++ i.portChars

/-- The interface given by its host. -/
def bare : String := String.ofList (i.authority ++ i.path)

/-- The interface given as a URL. -/
def url : String := "https://" ++ i.bare

/-- The service that belongs to the platform. -/
def service : String := label ++ "." ++ String.ofList (lower i.name.domain)

/-- The name is read as a scheme, which ends at the colon of the port. -/
def ReadsAsScheme : Prop := i.port ≠ none ∧ i.name.first.head?.any Char.isAlpha = true

instance : Decidable i.ReadsAsScheme := inferInstanceAs (Decidable (_ ∧ _))

end Interface

/-- What is left of a path when blanks and then slashes are cut off at its end. -/
def loose (path : List Char) : List Char := (path.rdropWhile isBlank).rdropWhile (· == '/')

/-- A path of slashes, with blanks behind them. -/
def IsPadding (path : List Char) : Prop :=
  ∃ slashes blanks, path = slashes ++ blanks ∧ (∀ c ∈ slashes, c = '/') ∧
    ∀ c ∈ blanks, isBlank c = true

theorem loose_eq_nil_iff {path : List Char} : loose path = [] ↔ IsPadding path := by
  rw [loose, List.rdropWhile_eq_nil_iff]
  constructor
  · intro hslashes
    obtain ⟨blanks, hblanks, heq⟩ := eq_trimEnd_append path
    exact ⟨trimEnd path, blanks, heq, fun c hc => beq_iff_eq.mp (hslashes c hc), hblanks⟩
  · rintro ⟨slashes, blanks, rfl, hslashes, hblanks⟩ c hc
    have hlast : ∀ c ∈ slashes.getLast?, isBlank c = false := by
      intro c hc
      rw [hslashes c (List.mem_of_getLast? hc)]
      rfl
    rw [rdropWhile_end hlast hblanks] at hc
    exact beq_iff_eq.mpr (hslashes c hc)

namespace Interface

variable (i : Interface)

/-- The port begins with its colon. -/
theorem portChars_cases : i.port = none ∧ i.portChars = [] ∨
    ∃ digits n, i.port = some digits ∧ i.portChars = ':' :: digits ∧ IsDecimal digits n ∧
      n ≤ 65535 := by
  rcases hport : i.port with _ | digits
  · exact .inl ⟨rfl, by rw [portChars, hport]; rfl⟩
  · obtain ⟨n, hn⟩ := i.portRange digits hport
    exact .inr ⟨digits, n, rfl, by rw [portChars, hport]; rfl, hn⟩

theorem isAuthorityChar_authority : ∀ c ∈ i.authority, isAuthorityChar c = true := by
  have hname : ∀ c, isNameChar c = true → isAuthorityChar c = true := by
    intro c hc
    rw [isAuthorityChar, hc, Bool.true_or]
  intro c hc
  rcases List.mem_append.mp hc with hc | hc
  · exact hname c (i.name.isNameChar_chars c hc)
  · rcases i.portChars_cases with ⟨-, hport⟩ | ⟨digits, n, -, hport, hdigits, -⟩
    · rw [hport] at hc
      cases hc
    · rw [hport] at hc
      rcases List.mem_cons.mp hc with rfl | hc
      · rfl
      · exact hname c (isNameChar_of_isDigit (hdigits.all c hc))

theorem authority_ne_nil : i.authority ≠ [] := by simp [authority, HostName.chars]

end Interface

/-- Blanks and slashes are cut off behind an authority, but nothing of the authority is. -/
theorem trim_front_tail {front tail : List Char} (hne : front ≠ [])
    (hfront : ∀ c ∈ front, isBlank c = false) (hlast : ∀ c ∈ front.getLast?, c ≠ '/') :
    trimEndWhile (· == '/') (trim (String.ofList (front ++ tail))) =
      String.ofList (front ++ loose tail) := by
  have hstart : trimStart (front ++ tail) = front ++ tail := dropWhile_front hne hfront tail
  have hblanks : trimEnd (front ++ tail) = front ++ tail.rdropWhile isBlank :=
    rdropWhile_front hne (fun c hc => hfront c (List.mem_of_getLast? hc)) tail
  have hslashes : (front ++ tail.rdropWhile isBlank).rdropWhile (· == '/') = front ++ loose tail :=
    rdropWhile_front hne (fun c hc => beq_eq_false_iff_ne.mpr (hlast c hc)) _
  rw [trim, String.toList_ofList, trimChars, hstart, hblanks, ← hslashes, trimEndWhile,
    String.toList_ofList]
  rfl

namespace Interface

variable (i : Interface)

theorem relevant_bare : relevant i.bare = i.authority ++ readTail i.path :=
  relevant_front_tail i.authority_ne_nil fun c hc =>
    isOuter_authorityChar (i.isAuthorityChar_authority c hc)

/-- A name before a port that begins with a letter is taken for a scheme, without an authority. -/
theorem parse_bare_schemed (h : i.ReadsAsScheme) : ∃ u, parse i.bare = .ok u ∧ u.host = none := by
  obtain ⟨hport, hletter⟩ := h
  rcases i.portChars_cases with ⟨hnone, -⟩ | ⟨digits, n, -, hchars, hdigits, -⟩
  · exact absurd hnone hport
  -- the first digit of the port is no slash, and so the port begins a rootless path
  obtain ⟨d, ds, rfl⟩ := List.exists_cons_of_ne_nil hdigits.nonempty
  have hread : readScheme? (relevant i.bare) =
      some (lower i.name.chars, d :: (ds ++ readTail i.path)) := by
    have hscheme : i.name.chars.all isSchemeChar = true :=
      List.all_eq_true.mpr fun c hc =>
        (isHarmless_of_isNameChar (i.name.isNameChar_chars c hc)).scheme
    rw [relevant_bare, authority, hchars, List.append_assoc]
    exact readScheme?_colon (i.name.head?_chars ▸ hletter) hscheme _
  have hkind : Kind.ofScheme (String.ofList (lower i.name.chars)) = .other := by
    refine kind_of_dotted ?_
    simp [lower, HostName.chars]
  have hprecedes : ∀ c ∈ d :: ds, precedesEnd c = true := by
    intro c hc
    have hport : c ∈ i.portChars := hchars ▸ List.mem_cons_of_mem _ hc
    have hmem : c ∈ i.authority := List.mem_append_right _ hport
    exact precedesEnd_authorityChar (i.isAuthorityChar_authority c hmem)
  have hd : d ≠ '/' := by
    rintro rfl
    exact absurd (hdigits.all '/' List.mem_cons_self) (by decide)
  have hcut := @cutEnd_front .other (d :: ds) hprecedes (readTail i.path)
  rw [List.cons_append, List.cons_append] at hcut
  simp only [parse, hread, hkind, hcut, readHierarchy_digits hkind _ hd, bind, Except.bind, pure,
    Except.pure]
  exact ⟨_, rfl, rfl⟩

theorem head?_authority : i.authority.head? = i.name.first.head? := by
  have hname : i.name.chars ≠ [] := by simp [HostName.chars]
  rw [authority, List.head?_append_of_ne_nil _ hname, i.name.head?_chars]

theorem colon_not_mem_name : ':' ∉ i.name.chars :=
  fun hmem => absurd (i.name.isNameChar_chars ':' hmem) (by decide)

theorem parse_bare (h : ¬i.ReadsAsScheme) : parse i.bare = .error .noScheme := by
  have hread : readScheme? (relevant i.bare) = none := by
    rw [relevant_bare]
    by_cases hletter : i.name.first.head?.any Char.isAlpha = true
    · have hport : i.port = none := not_not.mp fun hsome => h ⟨hsome, hletter⟩
      have hname : i.authority = i.name.chars := by
        rw [authority, portChars, hport]
        exact List.append_nil _
      rw [hname]
      exact readScheme?_of_slash i.colon_not_mem_name (readTail_rooted i.rooted)
    · refine readScheme?_of_head ?_
      rw [List.head?_append_of_ne_nil _ i.authority_ne_nil, head?_authority]
      exact Bool.eq_false_iff.mpr hletter
  rw [parse, hread]
  rfl

/-! ## Reading the URL -/

theorem cutHost_authority : cutHost false i.authority = (i.name.chars, i.portChars) := by
  have hport : cutHost false i.portChars = ([], i.portChars) := by
    rcases i.portChars_cases with ⟨-, hnone⟩ | ⟨digits, -, -, hsome, -⟩
    · rw [hnone, cutHost]
    · rw [hsome, cutHost, if_pos (by simp)]
  have hfront : ∀ cs : List Char, (∀ c ∈ cs, isNameChar c = true) →
      cutHost false (cs ++ i.portChars) = (cs, i.portChars) := by
    intro cs hcs
    induction cs with
    | nil => exact hport
    | cons c cs ih =>
      have hc := hcs c List.mem_cons_self
      have hcolon : c ≠ ':' := ne_of_apply hc rfl
      have hopen : c ≠ '[' := ne_of_apply hc rfl
      have hclose : c ≠ ']' := ne_of_apply hc rfl
      rw [List.cons_append, cutHost, if_neg fun hand => hcolon hand.1, if_neg hopen, if_neg hclose]
      simp only [ih fun d hd => hcs d (List.mem_cons_of_mem _ hd)]
  exact hfront i.name.chars i.name.isNameChar_chars

theorem ne_backslash_of_mem_portChars : ∀ c ∈ i.portChars, decide (c ≠ '\\') = true :=
  fun c hc => decide_eq_true (ne_of_apply
    (i.isAuthorityChar_authority c (List.mem_append_right _ hc)) rfl)

theorem readPort_portChars :
    ∃ port, readPort "https" (i.portChars.takeWhile (· ≠ '\\')) = .ok port := by
  rw [List.takeWhile_eq_self_iff.mpr i.ne_backslash_of_mem_portChars]
  rcases i.portChars_cases with ⟨-, hnone⟩ | ⟨digits, n, -, hsome, hdigits, hn⟩
  · rw [hnone]
    exact ⟨none, rfl⟩
  · obtain ⟨d, ds, rfl⟩ := List.exists_cons_of_ne_nil hdigits.nonempty
    rw [hsome, readPort, hdigits.readNat?]
    · exact ⟨_, if_neg (Nat.not_lt.mpr hn)⟩
    · rintro ⟨⟩

theorem readAuthority_eq (isEnd : Bool) :
    (i.name.HasAsciiForm → ∃ a, readAuthority "https" isEnd i.authority = .ok (a, []) ∧
      a.host = .name (String.ofList (lower i.name.chars))) ∧
    (¬i.name.HasAsciiForm → readAuthority "https" isEnd i.authority = .error .invalidName) := by
  have hat : cutLastAt? i.authority = none := by
    have hmem : '@' ∉ i.authority := fun hmem =>
      absurd (i.isAuthorityChar_authority '@' hmem) (by decide)
    rw [cutLastAt?, List.contains_eq_mem, decide_eq_false hmem]
    exact if_neg Bool.false_ne_true
  have hkind : Kind.ofScheme "https" = .special := rfl
  have hhost : readHost .special i.name.chars = readSpecialHost i.name.chars := by
    rw [readHost]
    exact if_neg (by simp [HostName.chars])
  have hnamed : Host.name (String.ofList (lower i.name.chars)) ≠ .name "" := by
    simp [lower, HostName.chars]
  have hend : i.portChars.dropWhile (· ≠ '\\') = [] :=
    List.dropWhile_eq_nil_iff.mpr i.ne_backslash_of_mem_portChars
  obtain ⟨port, hport⟩ := i.readPort_portChars
  constructor
  · intro hform
    simp only [readAuthority, hat, hkind, i.cutHost_authority, hhost, i.name.readSpecialHost_eq,
      hport, if_pos hform, hnamed, hend, bind, Except.bind, false_and, if_false]
    exact ⟨_, rfl, rfl⟩
  · intro hform
    simp only [readAuthority, hat, hkind, i.cutHost_authority, hhost, i.name.readSpecialHost_eq,
      if_neg hform, bind, Except.bind]
    rfl

theorem url_eq : i.url = String.ofList (("https://".toList ++ i.authority) ++ i.path) := by
  rw [← String.toList_inj]
  simp [url, bare]

/-- Of the URL only the name is taken as the host. -/
theorem parse_url :
    (i.name.HasAsciiForm → ∃ u, parse i.url = .ok u ∧
      u.host = some (.name (String.ofList (lower i.name.chars)))) ∧
    (¬i.name.HasAsciiForm → parse i.url = .error .invalidName) := by
  have hs : IsWebScheme "https" := .inr rfl
  have hchars := i.isAuthorityChar_authority
  have hrelevant : relevant i.url =
      "https".toList ++ ':' :: (('/' :: '/' :: i.authority) ++ readTail i.path) := by
    have hscheme : ∀ c ∈ "https://".toList, isOuter c = false := by simp [isOuter]
    have hfront : ∀ c ∈ "https://".toList ++ i.authority, isOuter c = false :=
      List.forall_mem_append.mpr ⟨hscheme, fun c hc => isOuter_authorityChar (hchars c hc)⟩
    rw [url_eq, relevant_front_tail (by simp) hfront]
    simp
  have hprecedes : ∀ c ∈ '/' :: '/' :: i.authority, precedesEnd c = true := by
    simp only [List.forall_mem_cons]
    exact ⟨rfl, rfl, fun c hc => precedesEnd_authorityChar (hchars c hc)⟩
  have hhost : ∀ c ∈ i.authority, c ≠ '/' ∧ c ≠ '?' ∧ c ≠ '#' ∧ c ≠ '\\' := fun c hc =>
    ⟨ne_of_apply (hchars c hc) rfl, ne_of_apply (hchars c hc) rfl,
      ne_of_apply (hchars c hc) rfl, ne_of_apply (hchars c hc) rfl⟩
  have hrooted := cutEnd_rooted .special (readTail_rooted i.rooted)
  have hcut := @cutEnd_front .special _ hprecedes (readTail i.path)
  rw [List.cons_append, List.cons_append] at hcut
  have hkind : Kind.ofScheme "https" = .special := rfl
  simp only [parse, hrelevant, readScheme?_web hs, String.ofList_toList, hkind, List.cons_append,
    hcut, readHierarchy_rooted hs i.authority_ne_nil hhost hrooted, bind, Except.bind]
  -- where the URL ends counts only for an authority with user information
  generalize (_ && List.isEmpty _) = isEnd
  obtain ⟨hread, hfail⟩ := i.readAuthority_eq isEnd
  constructor
  · intro hform
    obtain ⟨a, ha, hname⟩ := hread hform
    rw [ha]
    exact ⟨_, rfl, congrArg some hname⟩
  · intro hform
    rw [hfail hform]

/-! ## The host -/

theorem getLast_authority : ∀ c ∈ i.authority.getLast?, c ≠ '/' := fun c hc =>
  ne_of_apply (i.isAuthorityChar_authority c (List.mem_of_getLast? hc)) rfl

theorem platformHost_bare (h : ¬i.ReadsAsScheme) :
    platformHost i.bare = .ok (String.ofList (i.authority ++ loose i.path)) := by
  have hblank : ∀ c ∈ i.authority, isBlank c = false := fun c hc =>
    isBlank_authorityChar (i.isAuthorityChar_authority c hc)
  rw [platformHost, i.parse_bare h, bare]
  exact congrArg _ (trim_front_tail i.authority_ne_nil hblank i.getLast_authority)

theorem platformHost_bare_schemed (h : i.ReadsAsScheme) :
    platformHost i.bare =
      .error (.plain ("Cloud Foundry API URL " ++ i.bare ++ " has no host")) := by
  obtain ⟨u, hu, hhost⟩ := i.parse_bare_schemed h
  have hnone : u.hostText? = none := by rw [hostText?, hhost]
  rw [platformHost, hu]
  simp only [hnone]

theorem platformHost_url (h : i.name.HasAsciiForm) :
    platformHost i.url = .ok (String.ofList (lower i.name.chars)) := by
  obtain ⟨u, hu, hhost⟩ := i.parse_url.1 h
  have hne : String.ofList (lower i.name.chars) ≠ "" := by simp [lower, HostName.chars]
  have htext : u.hostText? = some (String.ofList (lower i.name.chars)) := by
    unfold hostText?
    rw [hhost]
    split
    · next heq => exact absurd (Host.name.inj (Option.some.inj heq)) hne
    · next heq =>
      rw [← Option.some.inj heq]
      rfl
    · next heq => cases heq
  rw [platformHost, hu]
  simp only [htext]

theorem platformHost_url_unread (h : ¬i.name.HasAsciiForm) :
    platformHost i.url =
      .ok (String.ofList ("https://".toList ++ i.authority ++ loose i.path)) := by
  have hscheme : ∀ c ∈ "https://".toList, isBlank c = false := by simp [isBlank]
  have hblank : ∀ c ∈ "https://".toList ++ i.authority, isBlank c = false :=
    List.forall_mem_append.mpr
      ⟨hscheme, fun c hc => isBlank_authorityChar (i.isAuthorityChar_authority c hc)⟩
  have hlast : ∀ c ∈ ("https://".toList ++ i.authority).getLast?, c ≠ '/' := by
    rw [List.getLast?_append_of_ne_nil _ i.authority_ne_nil]
    exact i.getLast_authority
  rw [platformHost, i.parse_url.2 h, url_eq]
  exact congrArg _ (trim_front_tail (by simp) hblank hlast)

end Interface

/-! ## The service -/

/-- The service is named after what follows the first dot of the host. -/
theorem ofPlatform_of_host {platform : String} {first domain : List Char}
    (h : platformHost platform = .ok (String.ofList (first ++ '.' :: domain)))
    (hfirst : '.' ∉ first) (hdomain : domain ≠ []) :
    ofPlatform platform = .ok (label ++ "." ++ String.ofList domain) := by
  have hcut : cut? '.' (String.ofList (first ++ '.' :: domain)) =
      some (String.ofList first, String.ofList domain) := by
    rw [cut?, String.toList_ofList, cutChars?_append '.' first hfirst]
    rfl
  have hne : String.ofList domain ≠ "" := by simpa using hdomain
  simp only [ofPlatform, h, hcut, hne, bind, Except.bind, if_false]
  rfl

/-- With neither an option nor a deploy service in the settings, the platform decides. -/
theorem choose_platform {platform : String} (h : isBlankText platform = false) (s : Settings) :
    choose none { s with controllerUrl := none } (some platform) = ofPlatform platform := by
  have hgiven : given? (some platform) = some platform := by
    rw [given?, Option.filter_some, h]
    rfl
  have hnone : given? none = none := rfl
  rw [choose, hnone, hgiven]

/-- The service that is chosen for a platform with the given interface. -/
def chosen (s : Settings) (interface : String) : Except Error String :=
  choose none { s with controllerUrl := none } (some interface)

namespace Interface

variable (i : Interface) (s : Settings)

/-- The service that is named after the host as it is given. -/
def unreadService : String :=
  label ++ "." ++ String.ofList (i.name.domain ++ i.portChars ++ loose i.path)

theorem bare_not_blank : isBlankText i.bare = false := by
  obtain ⟨c, rest, hc⟩ := List.exists_cons_of_ne_nil i.authority_ne_nil
  have hmem : c ∈ i.authority := hc ▸ List.mem_cons_self
  rw [isBlankText, bare, String.toList_ofList, hc, List.cons_append, List.all_cons,
    isBlank_authorityChar (i.isAuthorityChar_authority c hmem), Bool.false_and]

theorem url_not_blank : isBlankText i.url = false := by
  have hblank : isBlank 'h' = false := rfl
  simp [isBlankText, url, hblank]

theorem dot_not_mem_first : '.' ∉ i.name.first ∧ '.' ∉ lower i.name.first :=
  ⟨i.name.isLabel_first.dot_not_mem, i.name.isLabel_first.lower.dot_not_mem⟩

theorem unread_ne_nil : i.name.domain ++ i.portChars ++ loose i.path ≠ [] := by
  simp [i.name.domain_ne_nil]

theorem chosen_bare (h : ¬i.ReadsAsScheme) : chosen s i.bare = .ok i.unreadService := by
  have hhost := i.platformHost_bare h
  have hparts : i.authority ++ loose i.path =
      i.name.first ++ '.' :: (i.name.domain ++ i.portChars ++ loose i.path) := by
    simp [authority, HostName.chars]
  rw [hparts] at hhost
  rw [chosen, choose_platform i.bare_not_blank]
  exact ofPlatform_of_host hhost i.dot_not_mem_first.1 i.unread_ne_nil

theorem chosen_bare_schemed (h : i.ReadsAsScheme) : chosen s i.bare =
    .error (.plain ("Cloud Foundry API URL " ++ i.bare ++ " has no host")) := by
  rw [chosen, choose_platform i.bare_not_blank, ofPlatform, i.platformHost_bare_schemed h]
  rfl

theorem chosen_url (h : i.name.HasAsciiForm) : chosen s i.url = .ok i.service := by
  have hhost := i.platformHost_url h
  have hparts : lower i.name.chars = lower i.name.first ++ '.' :: lower i.name.domain := by
    simp [lower, HostName.chars]
  have hdomain : lower i.name.domain ≠ [] := by simp [lower, i.name.domain_ne_nil]
  rw [hparts] at hhost
  rw [chosen, choose_platform i.url_not_blank]
  exact ofPlatform_of_host hhost i.dot_not_mem_first.2 hdomain

/-- A name without an ASCII form is taken as it is given, behind the scheme. -/
theorem chosen_url_unread (h : ¬i.name.HasAsciiForm) : chosen s i.url = .ok i.unreadService := by
  have hhost := i.platformHost_url_unread h
  have hparts : "https://".toList ++ i.authority ++ loose i.path =
      ("https://".toList ++ i.name.first) ++
        '.' :: (i.name.domain ++ i.portChars ++ loose i.path) := by
    simp [authority, HostName.chars]
  have hdot : '.' ∉ "https://".toList ++ i.name.first := by
    rw [List.mem_append, not_or]
    exact ⟨by decide, i.dot_not_mem_first.1⟩
  rw [hparts] at hhost
  rw [chosen, choose_platform i.url_not_blank]
  exact ofPlatform_of_host hhost hdot i.unread_ne_nil

/-- What is not read stays as it should be only if there is nothing to read. -/
theorem unreadService_eq_iff : i.unreadService = i.service ↔
    i.port = none ∧ IsPadding i.path ∧ lower i.name.domain = i.name.domain := by
  have hlength : (lower i.name.domain).length = i.name.domain.length := List.length_map _
  have hport : i.portChars = [] ↔ i.port = none := by
    rcases i.portChars_cases with ⟨hnone, hchars⟩ | ⟨digits, n, hsome, hchars, -⟩
    · simp [hnone, hchars]
    · simp [hsome, hchars]
  have hnames : i.unreadService = i.service ↔
      i.name.domain ++ (i.portChars ++ loose i.path) = lower i.name.domain ++ [] := by
    rw [unreadService, service, String.append_right_inj, String.ofList_inj, List.append_assoc,
      List.append_nil]
  rw [hnames, ← hport, ← loose_eq_nil_iff]
  constructor
  · intro h
    obtain ⟨hdomain, hrest⟩ := List.append_inj h hlength.symm
    obtain ⟨hport, hpath⟩ := List.append_eq_nil_iff.mp hrest
    exact ⟨hport, hpath, hdomain.symm⟩
  · rintro ⟨hport, hpath, hdomain⟩
    rw [hport, hpath, hdomain]
    rfl

end Interface

/-- Which service is chosen for the two forms of an interface. -/
structure FormRules (i : Interface) (s : Settings) : Prop where
  /-- Of a URL that is read, neither the port nor the path counts. -/
  url : i.name.HasAsciiForm → chosen s i.url = .ok i.service
  /-- Only a label in punycode can keep a URL from being read. -/
  literal : (∀ label ∈ i.name.labels, IsLiteral label) → i.name.HasAsciiForm
  url_unread : ¬i.name.HasAsciiForm → chosen s i.url = .ok i.unreadService
  bare : ¬i.ReadsAsScheme → chosen s i.bare = .ok i.unreadService
  bare_schemed : i.ReadsAsScheme → chosen s i.bare =
    .error (.plain ("Cloud Foundry API URL " ++ i.bare ++ " has no host"))
  /-- The forms lead to the service that belongs to the platform only where there is nothing but a
  name, whose domain is in lower case. -/
  agree : (chosen s i.bare = chosen s i.url ∧ chosen s i.url = .ok i.service) ↔
    i.port = none ∧ IsPadding i.path ∧ lower i.name.domain = i.name.domain

/-- **The host alone is not read** as its URL is: with a port, a path or a domain in upper case it
leads to another service, or to none. -/
theorem service_of_forms (i : Interface) (s : Settings) : FormRules i s := by
  refine ⟨i.chosen_url s, i.name.hasAsciiForm_of_literal, i.chosen_url_unread s, i.chosen_bare s,
    i.chosen_bare_schemed s, ?_⟩
  rw [← i.unreadService_eq_iff]
  constructor
  · rintro ⟨hsame, hservice⟩
    by_cases hs : i.ReadsAsScheme
    · rw [i.chosen_bare_schemed s hs, hservice] at hsame
      cases hsame
    · rw [i.chosen_bare s hs, hservice] at hsame
      exact Except.ok.inj hsame
  · intro heq
    have hs : ¬i.ReadsAsScheme := fun hs => hs.1 (i.unreadService_eq_iff.mp heq).1
    have hurl : chosen s i.url = .ok i.service := by
      by_cases hform : i.name.HasAsciiForm
      · exact i.chosen_url s hform
      · rw [i.chosen_url_unread s hform, heq]
    rw [hurl, i.chosen_bare s hs, heq]
    exact ⟨rfl, rfl⟩

/-- With a port, a name alone leads to no service, but its URL does. -/
theorem port_without_scheme :
    ∃ i : Interface, i.bare = "api.example.com:443" ∧
      chosen .standard i.bare =
        .error (.plain "Cloud Foundry API URL api.example.com:443 has no host") ∧
      chosen .standard i.url = .ok "deploy-service.example.com" := by
  have hport : ∀ digits ∈ some "443".toList, ∃ n, IsDecimal digits n ∧ n ≤ 65535 := by
    intro digits hdigits
    obtain rfl := Option.mem_some_iff.mp hdigits
    exact ⟨443, ⟨by decide, List.all_eq_true.mp rfl, by decide⟩, by decide⟩
  obtain ⟨i, hbare⟩ : ∃ i : Interface, i.bare = "api.example.com:443" :=
    ⟨⟨⟨"api".toList, "example".toList, ["com".toList], by decide, by decide⟩,
      some "443".toList, [], hport, by simp⟩, rfl⟩
  refine ⟨i, hbare, ?_, ?_⟩
  · rw [hbare]
    decide +kernel
  · rw [Interface.url, hbare]
    decide +kernel

end DeployService.ServiceUrl
