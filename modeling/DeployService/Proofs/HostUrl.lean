import DeployService.Proofs.ArgumentEncoding
import DeployService.Proofs.Runs
import DeployService.Proofs.Splitting

/-!
# URLs below a host

Where a URL consists of a host and a path of inert characters, reading it reads the host and the
path apart: scheme, user information, host and port are those of the URL of the host alone, and
there is neither query nor fragment.
-/

namespace DeployService.Url

open DeployService.Text

/-! ## The end of a URL -/

/-- The character stands before the query and the fragment. -/
def precedesEnd (c : Char) : Bool := c ≠ '?' && c ≠ '#'

/-! ## The authority -/

theorem mem_of_mem_cutHost {c : Char} {inBrackets : Bool} {cs : List Char}
    (h : c ∈ (cutHost inBrackets cs).2) : c ∈ cs := by
  induction cs generalizing inBrackets with
  | nil => cases h
  | cons d cs ih =>
    unfold cutHost at h
    split at h
    · exact h
    · exact List.mem_cons_of_mem _ (ih h)

theorem mem_of_mem_cutLastAt {c : Char} {cs before after : List Char}
    (h : cutLastAt? cs = some (before, after)) (hc : c ∈ after) : c ∈ cs := by
  unfold cutLastAt? at h
  split at h
  · simp only [Option.some.injEq, Prod.mk.injEq] at h
    rw [← h.2, List.mem_reverse] at hc
    exact List.mem_reverse.mp (List.takeWhile_subset _ hc)
  · cases h

/-- What is left after the port stands after the host in the part behind the user information. -/
theorem readAuthority_rest_eq {scheme : String} {isEnd : Bool} {cs rest : List Char}
    {authority : Authority} (h : readAuthority scheme isEnd cs = .ok (authority, rest)) :
    ∃ hostPort : List Char, (∀ c ∈ hostPort, c ∈ cs) ∧
      rest = (cutHost false hostPort).2.dropWhile (· ≠ '\\') := by
  unfold readAuthority at h
  simp only [bind, Except.bind, pure, Except.pure, throw, throwThe, MonadExceptOf.throw] at h
  rcases hcut : cutLastAt? cs with _ | ⟨userinfo, hostPort⟩
  · refine ⟨cs, fun c hc => hc, ?_⟩
    simp only [hcut] at h
    repeat' split at h
    all_goals cases h
    rfl
  · refine ⟨hostPort, fun c hc => mem_of_mem_cutLastAt hcut hc, ?_⟩
    simp only [hcut] at h
    repeat' split at h
    all_goals cases h
    rfl

/-- What is left after the port of an authority begins with a backslash. -/
theorem readAuthority_rest {scheme : String} {isEnd : Bool} {cs rest : List Char}
    {authority : Authority} (h : readAuthority scheme isEnd cs = .ok (authority, rest))
    (hb : '\\' ∉ cs) : rest = [] := by
  obtain ⟨hostPort, hsub, rfl⟩ := readAuthority_rest_eq h
  rw [List.dropWhile_eq_nil_iff]
  intro c hc
  exact decide_eq_true fun heq => hb (heq ▸ hsub c (mem_of_mem_cutHost hc))

/-- There is no authority without a host in a URL with an HTTP scheme. -/
theorem readAuthority_nil {scheme : String} (h : Kind.ofScheme scheme = .special) (isEnd : Bool) :
    readAuthority scheme isEnd [] = .error .emptyHost := by
  simp [readAuthority, cutLastAt?, cutHost, readHost, h, bind, Except.bind]

/-! ## The whole URL -/

/-- The scheme is one of those in which services are reached. -/
def IsWebScheme (scheme : String) : Prop := scheme = "http" ∨ scheme = "https"

instance (scheme : String) : Decidable (IsWebScheme scheme) := instDecidableOr

/-- The text has none of the characters at which a host ends. -/
def IsHostText (name : String) : Prop :=
  ∀ c ∈ name.toList, c ≠ '/' ∧ c ≠ '?' ∧ c ≠ '#' ∧ c ≠ '\\'

-- the characters of the text are tried, not all characters there are
instance (name : String) : Decidable (IsHostText name) := List.decidableBAll _ _

/-- The text of a URL that consists of a scheme, a host and a path. -/
def belowHost (scheme name : String) (path : List Char) : String :=
  scheme ++ "://" ++ name ++ String.ofList ('/' :: path)

/-- The path has only slashes and characters that stand for themselves. -/
def IsPlainPath (path : List Char) : Prop := ∀ c ∈ path, c = '/' ∨ isInert c = true

theorem IsPlainPath.precedesEnd {path : List Char} (h : IsPlainPath path) :
    ∀ c ∈ path, precedesEnd c = true := by
  intro c hc
  rcases h c hc with rfl | hi
  · rfl
  · simp [Url.precedesEnd, ((isInert_iff c).mp hi).2.2.2.2.2.2.2]

/-- What is read of the end of a text. -/
def readTail (tail : List Char) : List Char := (tail.rdropWhile isOuter).filter (!isBreak ·)

/-- Nothing is ignored in a plain path. -/
theorem IsPlainPath.readTail_eq {path : List Char} (h : IsPlainPath path) :
    readTail path = path := by
  have hend : path.rdropWhile isOuter = path := by
    rw [List.rdropWhile_eq_self_iff]
    intro hne
    rcases h _ (List.getLast_mem hne) with hl | hi
    · rw [hl]
      decide
    · simp [((isInert_iff _).mp hi).2.2.2.1]
  rw [readTail, hend, List.filter_eq_self]
  intro c hc
  rcases h c hc with rfl | hi
  · rfl
  · simp [((isInert_iff c).mp hi).2.2.1]

/-- The text of a URL as it is read: what is ignored at the start of the scheme and at the end, and
the line breaks, are left out. -/
theorem relevant_front (scheme name : String) (tail : List Char) :
    relevant (belowHost scheme name tail) =
      (scheme.toList.dropWhile isOuter).filter (!isBreak ·) ++ ':' :: '/' :: '/' ::
        (name.toList.filter (!isBreak ·) ++ '/' :: readTail tail) := by
  have hlist : (belowHost scheme name tail).toList =
      scheme.toList ++ ':' :: '/' :: '/' :: (name.toList ++ '/' :: tail) := by
    simp [belowHost]
  have hstart : (belowHost scheme name tail).toList.dropWhile isOuter =
      (scheme.toList.dropWhile isOuter ++ ':' :: '/' :: '/' :: name.toList) ++ '/' :: tail := by
    rw [hlist, dropWhile_before_stop rfl]
    simp
  have hend : ∀ front : List Char, ((front ++ '/' :: tail).reverse.dropWhile isOuter).reverse =
      front ++ '/' :: tail.rdropWhile isOuter :=
    fun front => rdropWhile_before_stop rfl front tail
  have hcolon : isBreak ':' = false := rfl
  have hslash : isBreak '/' = false := rfl
  rw [relevant, hstart, hend]
  simp [List.filter_append, hcolon, hslash, readTail]

/-- What is read of a URL below a host: everything before the path is in the authority. -/
theorem relevant_belowHost {scheme name : String} (hs : IsWebScheme scheme) (tail : List Char) :
    relevant (belowHost scheme name tail) =
      scheme.toList ++ ':' :: '/' :: '/' ::
        (name.toList.filter (!isBreak ·) ++ '/' :: readTail tail) := by
  have hscheme : (scheme.toList.dropWhile isOuter).filter (!isBreak ·) = scheme.toList := by
    rcases hs with rfl | rfl <;> decide
  rw [relevant_front, hscheme]

theorem kind_of_web {scheme : String} (hs : IsWebScheme scheme) :
    Kind.ofScheme scheme = .special := by
  rcases hs with rfl | rfl <;> rfl

/-- What begins with a letter and has only characters of a scheme is read as a scheme. -/
theorem readScheme?_colon {scheme : List Char} (hletter : scheme.head?.any Char.isAlpha = true)
    (hchars : scheme.all isSchemeChar = true) (rest : List Char) :
    readScheme? (scheme ++ ':' :: rest) = some (scheme.map Char.toLower, rest) := by
  have hcolon : ':' ∉ scheme := fun hmem =>
    absurd (List.all_eq_true.mp hchars ':' hmem) (by decide)
  have hcut := cutChars?_append ':' scheme hcolon rest
  cases scheme with
  | nil => cases hletter
  | cons c cs =>
    have halpha : c.isAlpha = true := hletter
    rw [List.cons_append] at hcut ⊢
    simp only [readScheme?, halpha, if_true, hcut, hchars]

theorem readScheme?_web {scheme : String} (hs : IsWebScheme scheme) (rest : List Char) :
    readScheme? (scheme.toList ++ ':' :: rest) = some (scheme.toList, rest) := by
  obtain ⟨hletter, hchars, hlower⟩ : scheme.toList.head?.any Char.isAlpha = true ∧
      scheme.toList.all isSchemeChar = true ∧
      scheme.toList.map Char.toLower = scheme.toList := by
    rcases hs with rfl | rfl <;> decide
  rw [readScheme?_colon hletter hchars, hlower]

/-- What stands before the query and the fragment is what does so behind a front without either. -/
theorem cutEnd_front {kind : Kind} {front : List Char} (h : ∀ c ∈ front, precedesEnd c = true)
    (rest : List Char) :
    cutEnd kind (front ++ rest) = (front ++ (cutEnd kind rest).1, (cutEnd kind rest).2) := by
  have hq : '?' ∉ front := mt (h '?') (by decide)
  have hf : '#' ∉ front := mt (h '#') (by decide)
  simp only [cutEnd, cutChars?_front hf]
  rcases cutChars? '#' rest with _ | ⟨before, fragment⟩
  · simp only [Option.map_none, cutChars?_front hq]
    rcases cutChars? '?' rest with _ | ⟨before, query⟩ <;> rfl
  · simp only [Option.map_some, cutChars?_front hq]
    rcases cutChars? '?' before with _ | ⟨before, query⟩ <;> rfl

theorem cutEnd_of_none {kind : Kind} {cs : List Char} (hq : '?' ∉ cs) (hf : '#' ∉ cs) :
    cutEnd kind cs = (cs, none, none) := by
  simp only [cutEnd, cutChars?_eq_none hf, cutChars?_eq_none hq]

/-- What follows the scheme of a URL with an HTTP scheme, where the host is not empty. -/
theorem readHierarchy_rooted {scheme : String} (hs : IsWebScheme scheme) {isEnd : Bool}
    {host tail : List Char} (hne : host ≠ [])
    (hh : ∀ c ∈ host, c ≠ '/' ∧ c ≠ '?' ∧ c ≠ '#' ∧ c ≠ '\\') (ht : ∀ c ∈ tail.head?, c = '/') :
    readHierarchy scheme isEnd ('/' :: '/' :: (host ++ tail)) =
      match readAuthority scheme (isEnd && tail.isEmpty) host with
      | .error fault => .error fault
      | .ok (authority, start) =>
        .ok (some authority, .segments (readPath .special (start ++ tail))) := by
  have hkind := kind_of_web hs
  have hends : ∀ c ∈ host, (!endsAuthority .special c) = true := by
    intro c hc
    obtain ⟨h₁, h₂, h₃, h₄⟩ := hh c hc
    simp [endsAuthority, h₁, h₂, h₃, h₄]
  have hstop : ∀ c ∈ tail.head?, (!endsAuthority .special c) = false := by
    intro c hc
    rw [ht c hc]
    rfl
  have hslashes : ('/' :: '/' :: (host ++ tail)).dropWhile isSlash = host ++ tail := by
    rw [List.dropWhile_cons_of_pos rfl, List.dropWhile_cons_of_pos rfl]
    refine dropWhile_of_head fun c hc => ?_
    have hmem : c ∈ host := by
      rcases host with _ | ⟨d, host⟩
      · exact absurd rfl hne
      · obtain rfl : d = c := by simpa using hc
        exact List.mem_cons_self
    simp [isSlash, (hh c hmem).1, (hh c hmem).2.2.2]
  simp only [readHierarchy, hkind, hslashes, takeWhile_append_of_head hends hstop,
    dropWhile_append_of_head hends hstop, bind, Except.bind, pure, Except.pure]
  rcases readAuthority scheme (isEnd && tail.isEmpty) host with fault | ⟨authority, start⟩ <;> rfl

theorem readHierarchy_web {scheme : String} (hs : IsWebScheme scheme) {isEnd : Bool}
    {host path : List Char} (hne : host ≠ [])
    (hh : ∀ c ∈ host, c ≠ '/' ∧ c ≠ '?' ∧ c ≠ '#' ∧ c ≠ '\\') :
    readHierarchy scheme isEnd ('/' :: '/' :: (host ++ '/' :: path)) =
      match readAuthority scheme false host with
      | .error fault => .error fault
      | .ok (authority, start) =>
        .ok (some authority, .segments (readPath .special (start ++ '/' :: path))) := by
  rw [readHierarchy_rooted hs hne hh (by simp), List.isEmpty_cons, Bool.and_false]

theorem readHierarchy_no_host {scheme : String} (hs : IsWebScheme scheme) (isEnd : Bool) :
    readHierarchy scheme isEnd ['/', '/', '/'] = .error .emptyHost := by
  have hkind := kind_of_web hs
  have hslashes : ['/', '/', '/'].dropWhile isSlash = [] := by decide
  simp only [readHierarchy, hkind, hslashes, List.takeWhile_nil, readAuthority_nil hkind, bind,
    Except.bind]

theorem mem_of_mem_readTail {c : Char} {tail : List Char} (h : c ∈ readTail tail) : c ∈ tail :=
  (List.rdropWhile_prefix isOuter tail).subset (List.mem_filter.mp h).1

theorem parse_of_hierarchy {scheme name : String} (hs : IsWebScheme scheme)
    (hn : IsHostText name) {tail : List Char} (ht : ∀ c ∈ tail, precedesEnd c = true) :
    parse (belowHost scheme name tail) =
      match readHierarchy scheme true
        ('/' :: '/' :: (name.toList.filter (!isBreak ·) ++ '/' :: readTail tail)) with
      | .error fault => .error fault
      | .ok (authority, path) => .ok {
          scheme, path, query := none, fragment := none
          username := authority.elim "" Authority.username
          password := authority.bind Authority.password
          host := authority.map Authority.host
          port := authority.bind Authority.port } := by
  have hprecedes : ∀ c ∈ '/' :: '/' :: (name.toList.filter (!isBreak ·) ++ '/' :: readTail tail),
      precedesEnd c = true := by
    intro c hc
    simp only [List.mem_cons, List.mem_append, List.mem_filter] at hc
    rcases hc with rfl | rfl | ⟨hc, -⟩ | rfl | hc
    · rfl
    · rfl
    · simp [precedesEnd, (hn c hc).2.1, (hn c hc).2.2.1]
    · rfl
    · exact ht c (mem_of_mem_readTail hc)
  have hq := mt (hprecedes '?') (by decide)
  have hf := mt (hprecedes '#') (by decide)
  rw [parse, relevant_belowHost hs, readScheme?_web hs]
  simp only [String.ofList_toList, cutEnd_of_none hq hf, Option.isNone_none, Bool.and_true, bind,
    Except.bind, pure, Except.pure]
  rcases readHierarchy scheme true _ with fault | ⟨authority, path⟩ <;> rfl

theorem query_of_host {scheme name : String} (hs : IsWebScheme scheme) (hn : IsHostText name)
    {tail : List Char} (ht : ∀ c ∈ tail, precedesEnd c = true) {url : Url}
    (h : parse (belowHost scheme name tail) = .ok url) : url.query = none := by
  rw [parse_of_hierarchy hs hn ht] at h
  split at h
  · cases h
  · cases h
    rfl

/-- **Host and path are read apart.** If the URL of a host can be read, then so can every URL of a
path below it that announces no query and no fragment, and it differs in the path only. -/
theorem parse_behindHost {scheme name : String} (hs : IsWebScheme scheme) (hn : IsHostText name)
    {host : Url} (hhost : parse (belowHost scheme name []) = .ok host) {tail : List Char}
    (ht : ∀ c ∈ tail, precedesEnd c = true) :
    parse (belowHost scheme name tail) =
      .ok { host with path := .segments (readPath .special ('/' :: readTail tail)) } := by
  rw [parse_of_hierarchy hs hn (by simp)] at hhost
  rw [parse_of_hierarchy hs hn ht]
  by_cases hne : name.toList.filter (!isBreak ·) = []
  · have hempty : readTail [] = [] := rfl
    rw [hne, List.nil_append, hempty, readHierarchy_no_host hs] at hhost
    cases hhost
  · have hchars : ∀ c ∈ name.toList.filter (!isBreak ·),
        c ≠ '/' ∧ c ≠ '?' ∧ c ≠ '#' ∧ c ≠ '\\' := fun c hc => hn c (List.mem_filter.mp hc).1
    rw [readHierarchy_web hs hne hchars] at hhost ⊢
    rcases ha : readAuthority scheme false (name.toList.filter (!isBreak ·)) with
      fault | ⟨authority, start⟩ <;> simp only [ha] at hhost ⊢
    · cases hhost
    · obtain rfl : start = [] := readAuthority_rest ha fun h => (hchars _ h).2.2.2 rfl
      rw [← Except.ok.inj hhost]
      rfl

theorem parse_belowHost {scheme name : String} (hs : IsWebScheme scheme) (hn : IsHostText name)
    {host : Url} (hhost : parse (belowHost scheme name []) = .ok host) {path : List Char}
    (hp : IsPlainPath path) :
    parse (belowHost scheme name path) =
      .ok { host with path := .segments (readPath .special ('/' :: path)) } := by
  rw [parse_behindHost hs hn hhost hp.precedesEnd, hp.readTail_eq]

end DeployService.Url
