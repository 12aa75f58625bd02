import DeployService.Proofs.HostUrl

/-!
# What the authority of a URL is read from

Where the text of a URL has a slash after the first two characters behind its scheme, the authority
ends there at the latest, so what stands behind that slash has nothing to say about the server
(`authority_fixed`). There are two exceptions. A scheme whose URLs always have a host skips slashes
until there is something that can be one. And a file has no host if its path begins with a drive
letter (`HasDrive`).
-/

namespace DeployService.Url

open DeployService.Text

/-! ## Cutting in front of a slash -/

section Cutting

variable {p : Char → Bool} {c : Char}

/-- Nothing of what follows is cut off if there is something to stop at before. -/
theorem takeWhile_of_stop {front : List Char} (h : ∃ c ∈ front, p c = false) (rest : List Char) :
    (front ++ rest).takeWhile p = front.takeWhile p := by
  obtain ⟨c, hmem, hc⟩ := h
  obtain ⟨before, after, rfl⟩ := List.append_of_mem hmem
  rw [List.append_assoc, List.cons_append, takeWhile_before_stop hc, takeWhile_before_stop hc]

theorem dropWhile_of_stop {front : List Char} (h : ∃ c ∈ front, p c = false) (rest : List Char) :
    (front ++ rest).dropWhile p = front.dropWhile p ++ rest := by
  obtain ⟨c, hmem, hc⟩ := h
  obtain ⟨before, after, rfl⟩ := List.append_of_mem hmem
  rw [List.append_assoc, List.cons_append, dropWhile_before_stop hc, dropWhile_before_stop hc,
    List.append_assoc, List.cons_append]

theorem cutChars?_of_mem {sep : Char} {cs : List Char} (h : sep ∈ cs) :
    ∃ rest, cutChars? sep cs = some (cs.takeWhile (· ≠ sep), rest) := by
  obtain ⟨before, after, rfl, hbefore⟩ := List.eq_append_cons_of_mem h
  have htake : (before ++ sep :: after).takeWhile (· ≠ sep) = before := by
    refine takeWhile_append_stop (fun c hc => ?_) (by simp)
    have hne : c ≠ sep := fun heq => hbefore (heq ▸ hc)
    simpa using hne
  exact ⟨after, by rw [cutChars?_append sep before hbefore, htake]⟩

theorem takeWhile_ne_of_not_mem {sep : Char} {cs : List Char} (h : sep ∉ cs) :
    cs.takeWhile (· ≠ sep) = cs := by
  refine List.takeWhile_eq_self_iff.mpr fun c hc => ?_
  have hne : c ≠ sep := fun heq => h (heq ▸ hc)
  simpa using hne

end Cutting

theorem cutEnd_fst (kind : Kind) (cs : List Char) :
    (cutEnd kind cs).1 = cs.takeWhile precedesEnd := by
  have hboth : (cs.takeWhile (· ≠ '#')).takeWhile (· ≠ '?') = cs.takeWhile precedesEnd := by
    rw [List.takeWhile_takeWhile]
    congr 1
    funext c
    simp [precedesEnd]
  rw [← hboth]
  by_cases hf : '#' ∈ cs
  · obtain ⟨fragment, hcut⟩ := cutChars?_of_mem hf
    by_cases hq : '?' ∈ cs.takeWhile (· ≠ '#')
    · obtain ⟨query, hcut'⟩ := cutChars?_of_mem hq
      simp only [cutEnd, hcut, hcut']
    · simp only [cutEnd, hcut, cutChars?_eq_none hq]
      rw [takeWhile_ne_of_not_mem hq]
  · rw [takeWhile_ne_of_not_mem hf]
    by_cases hq : '?' ∈ cs
    · obtain ⟨query, hcut⟩ := cutChars?_of_mem hq
      simp only [cutEnd, cutChars?_eq_none hf, hcut]
    · simp only [cutEnd, cutChars?_eq_none hf, cutChars?_eq_none hq]
      rw [takeWhile_ne_of_not_mem hq]

/-- A URL with a query or a fragment does not end before them. -/
theorem cutEnd_open {kind : Kind} {cs : List Char} (h : ∃ c ∈ cs, precedesEnd c = false) :
    ((cutEnd kind cs).2.1.isNone && (cutEnd kind cs).2.2.isNone) = false := by
  obtain ⟨c, hmem, hc⟩ := h
  unfold cutEnd
  by_cases hf : '#' ∈ cs
  · obtain ⟨rest, hcut⟩ := cutChars?_of_mem hf
    simp only [hcut]
    rcases cutChars? '?' (cs.takeWhile (· ≠ '#')) with _ | ⟨before, query⟩ <;> rfl
  · have hq : '?' ∈ cs := by
      by_cases hcq : c = '?'
      · exact hcq ▸ hmem
      · have hcf : c = '#' := by simpa [precedesEnd, hcq] using hc
        exact absurd (hcf ▸ hmem) hf
    obtain ⟨rest, hcut⟩ := cutChars?_of_mem hq
    simp only [cutChars?_eq_none hf, hcut]
    rfl

/-! ## The server of a URL -/

/-- The server that a URL leads to, and as whom. -/
structure Server where
  scheme : String
  username : String
  password : Option String
  host : Option Host
  port : Option Nat
  deriving DecidableEq

def server (u : Url) : Server :=
  { scheme := u.scheme, username := u.username, password := u.password, host := u.host
    port := u.port }

@[simp] theorem appendPairs_server (u : Url) (pairs : List (String × String)) :
    (u.appendPairs pairs).server = u.server := by
  unfold appendPairs
  split
  · rfl
  · split <;> rfl

/-- The first segment of the path is a drive letter. -/
def Path.hasDrive : Path → Bool
  | .segments (first :: _) => isDriveLetter first.toList
  | _ => false

theorem Path.hasDrive_segments (segments : List String) :
    (Path.segments segments).hasDrive = true ↔
      (segments.head?.map fun s => isDriveLetter s.toList) = some true := by
  cases segments <;> simp [Path.hasDrive]

/-- The URL of a file on a drive. -/
def HasDrive (u : Url) : Prop := u.scheme = "file" ∧ u.path.hasDrive = true

/-- No server: where the files are that have no host. -/
def Server.nowhere : Server :=
  { scheme := "file", username := "", password := none, host := some (.name ""), port := none }

/-- The server of a scheme and an authority. -/
def serverOf (scheme : String) (authority : Option Authority) : Server where
  scheme := scheme
  username := authority.elim "" Authority.username
  password := authority.bind Authority.password
  host := authority.map Authority.host
  port := authority.bind Authority.port

/-- What a URL that can be read is read from. -/
theorem parse_ok {s : String} {u : Url} (h : parse s = .ok u) :
    ∃ scheme rest authority, readScheme? (relevant s) = some (scheme, rest) ∧
      readHierarchy (String.ofList scheme)
        ((cutEnd (Kind.ofScheme (String.ofList scheme)) rest).2.1.isNone &&
          (cutEnd (Kind.ofScheme (String.ofList scheme)) rest).2.2.isNone)
        (cutEnd (Kind.ofScheme (String.ofList scheme)) rest).1 = .ok (authority, u.path) ∧
      u.server = serverOf (String.ofList scheme) authority := by
  unfold parse at h
  rcases hs : readScheme? (relevant s) with _ | ⟨scheme, rest⟩
  · rw [hs] at h
    cases h
  · rw [hs] at h
    simp only [bind, Except.bind] at h
    split at h
    · cases h
    · next v hv =>
      obtain ⟨authority, path⟩ := v
      cases h
      exact ⟨scheme, rest, authority, rfl, hv, rfl⟩

/-! ## The authority -/

theorem kind_file_iff (scheme : String) : Kind.ofScheme scheme = .file ↔ scheme = "file" := by
  unfold Kind.ofScheme
  split
  · next h => simp [h]
  · next h =>
    split <;> simp [h]

/-- A file on a drive has no host. -/
theorem readHierarchy_drive {scheme : String} (hk : Kind.ofScheme scheme = .file) {isEnd : Bool}
    {cs : List Char} {authority : Option Authority} {path : Path}
    (h : readHierarchy scheme isEnd cs = .ok (authority, path)) (hd : path.hasDrive = true) :
    serverOf scheme authority = Server.nowhere := by
  have hscheme : scheme = "file" := (kind_file_iff scheme).mp hk
  simp only [readHierarchy, hk, bind, Except.bind, pure, Except.pure] at h
  split at h
  · split at h
    · split at h
      · cases h
        rw [hscheme]
        rfl
      · split at h
        · cases h
        · simp only [Except.ok.injEq, Prod.mk.injEq] at h
          obtain ⟨rfl, rfl⟩ := h
          rw [if_pos ((Path.hasDrive_segments _).mp hd), hscheme]
          rfl
    · cases h
      rw [hscheme]
      rfl
  · cases h
    rw [hscheme]
    rfl

theorem takeWhile_authority (kind : Kind) (front tail : List Char) :
    (front ++ '/' :: tail).takeWhile (!endsAuthority kind ·) =
      front.takeWhile (!endsAuthority kind ·) :=
  takeWhile_before_stop rfl front tail

theorem dropWhile_authority (kind : Kind) (front tail : List Char) :
    (front ++ '/' :: tail).dropWhile (!endsAuthority kind ·) =
      front.dropWhile (!endsAuthority kind ·) ++ '/' :: tail :=
  dropWhile_before_stop rfl front tail

theorem isEmpty_before_slash (front tail : List Char) :
    (front ++ '/' :: tail).isEmpty = false := by
  cases front <;> rfl

/-- The authority of a URL that begins with `front` and a slash. -/
def Fixes (scheme : String) (front : List Char) (authority : Option Authority) : Prop :=
  ∀ isEnd tail authority' path,
    readHierarchy scheme isEnd (front ++ '/' :: tail) = .ok (authority', path) →
      ¬(Kind.ofScheme scheme = .file ∧ path.hasDrive = true) → authority' = authority

theorem fixes_const {scheme : String} {front : List Char} {authority : Option Authority}
    (h : ∀ isEnd tail, ∃ path,
      readHierarchy scheme isEnd (front ++ '/' :: tail) = .ok (authority, path)) :
    Fixes scheme front authority := by
  intro isEnd tail authority' path hread _
  obtain ⟨path', hpath⟩ := h isEnd tail
  rw [hpath] at hread
  cases hread
  rfl

/-- The authority is read in front of the slash. -/
theorem fixes_of_authority {scheme : String} {front : List Char} (kind : Kind)
    (chars : List Char) (h : ∀ isEnd tail, ∃ f : Authority × List Char → Path,
      readHierarchy scheme isEnd (front ++ '/' :: tail) =
        (readAuthority scheme false (chars.takeWhile (!endsAuthority kind ·))).map
          fun a => (some a.1, f a)) : ∃ authority, Fixes scheme front authority := by
  rcases ha : readAuthority scheme false (chars.takeWhile (!endsAuthority kind ·)) with
    fault | ⟨authority, start⟩
  · refine ⟨none, fun isEnd tail authority' path hread _ => ?_⟩
    obtain ⟨f, hf⟩ := h isEnd tail
    rw [hf, ha] at hread
    cases hread
  · refine ⟨some authority, fun isEnd tail authority' path hread _ => ?_⟩
    obtain ⟨f, hf⟩ := h isEnd tail
    rw [hf, ha] at hread
    cases hread
    rfl

/-- A URL of a scheme that always has a host. Something has to be there that is no slash. -/
theorem fixes_special {scheme : String} (hk : Kind.ofScheme scheme = .special) {front : List Char}
    (hf : ∃ c ∈ front, isSlash c = false) : ∃ authority, Fixes scheme front authority := by
  refine fixes_of_authority .special (front.dropWhile isSlash) ?_
  intro isEnd tail
  have htake := takeWhile_authority .special (front.dropWhile isSlash) tail
  have hdrop := dropWhile_authority .special (front.dropWhile isSlash) tail
  simp only [readHierarchy, hk, dropWhile_of_stop hf, htake, hdrop, isEmpty_before_slash,
    Bool.and_false, bind, Except.bind, pure, Except.pure]
  rcases readAuthority scheme false _ with fault | authority
  · exact ⟨fun _ => .segments [], rfl⟩
  · exact ⟨fun _ => _, rfl⟩

/-- A URL of any other scheme has an authority if the first two characters are slashes. -/
theorem fixes_other {scheme : String} (hk : Kind.ofScheme scheme = .other) {front : List Char}
    (h2 : 2 ≤ front.length) : ∃ authority, Fixes scheme front authority := by
  obtain ⟨a, b, rest, rfl⟩ : ∃ a b rest, front = a :: b :: rest := by
    match front, h2 with
    | a :: b :: rest, _ => exact ⟨a, b, rest, rfl⟩
  by_cases ha : a = '/'
  · by_cases hb : b = '/'
    · subst ha hb
      refine fixes_of_authority .other rest ?_
      intro isEnd tail
      have htake := takeWhile_authority .other rest tail
      have hdrop := dropWhile_authority .other rest tail
      simp only [readHierarchy, hk, List.cons_append, htake, hdrop, isEmpty_before_slash,
        Bool.and_false, bind, Except.bind, pure, Except.pure]
      rcases readAuthority scheme false _ with fault | authority
      · exact ⟨fun _ => .segments [], rfl⟩
      · exact ⟨fun _ => _, rfl⟩
    · subst ha
      refine ⟨none, fixes_const fun isEnd tail => ?_⟩
      simp only [readHierarchy, hk, List.cons_append]
      split
      · next heq => simp_all
      · exact ⟨_, rfl⟩
      · exact ⟨_, rfl⟩
  · refine ⟨none, fixes_const fun isEnd tail => ?_⟩
    simp only [readHierarchy, hk, List.cons_append]
    split
    · next heq => simp_all
    · next heq => simp_all
    · exact ⟨_, rfl⟩

/-- A file has a host if there are two slashes, and no drive letter follows them. -/
theorem fixes_file {scheme : String} (hk : Kind.ofScheme scheme = .file) {front : List Char}
    (h2 : 2 ≤ front.length) : ∃ authority, Fixes scheme front authority := by
  obtain ⟨a, b, rest, rfl⟩ : ∃ a b rest, front = a :: b :: rest := by
    match front, h2 with
    | a :: b :: rest, _ => exact ⟨a, b, rest, rfl⟩
  have htake (tail : List Char) := takeWhile_authority .file rest tail
  cases hslash : isSlash a && isSlash b with
  | false =>
    refine ⟨some ⟨"", none, .name "", none⟩, fixes_const fun isEnd tail => ?_⟩
    simp only [readHierarchy, hk, List.cons_append, hslash, Bool.false_eq_true, if_false]
    exact ⟨_, rfl⟩
  | true =>
    cases hdrive : isDriveLetter (rest.takeWhile (!endsAuthority .file ·)) with
    | true =>
      refine ⟨some ⟨"", none, .name "", none⟩, fixes_const fun isEnd tail => ?_⟩
      simp only [readHierarchy, hk, List.cons_append, hslash, htake, hdrive, if_true]
      exact ⟨_, rfl⟩
    | false =>
      rcases hhost : readHost .file (rest.takeWhile (!endsAuthority .file ·)) with fault | host
      · refine ⟨none, fun isEnd tail authority' path hread _ => ?_⟩
        simp only [readHierarchy, hk, List.cons_append, hslash, htake, hdrive, hhost, if_true,
          Bool.false_eq_true, if_false, bind, Except.bind] at hread
        cases hread
      · refine ⟨some ⟨"", none, host, none⟩, fun isEnd tail authority' path hread hd => ?_⟩
        simp only [readHierarchy, hk, List.cons_append, hslash, htake, hdrive, hhost, if_true,
          Bool.false_eq_true, if_false, bind, Except.bind, pure, Except.pure, Except.ok.injEq,
          Prod.mk.injEq] at hread
        obtain ⟨rfl, rfl⟩ := hread
        rw [if_neg fun h => hd ⟨hk, (Path.hasDrive_segments _).mpr h⟩]

theorem authority_fixed {scheme : String} {front : List Char} (h2 : 2 ≤ front.length)
    (hf : Kind.ofScheme scheme = .special → ∃ c ∈ front, isSlash c = false) :
    ∃ authority, Fixes scheme front authority := by
  cases hk : Kind.ofScheme scheme with
  | special => exact fixes_special hk (hf hk)
  | file => exact fixes_file hk h2
  | other => exact fixes_other hk h2

/-- The server of a URL is read from its scheme and from what stands in front of a slash. -/
theorem server_eq_of_front {scheme front tail tail' : List Char} {s s' : String} {u v : Url}
    (h2 : 2 ≤ front.length)
    (hf : Kind.ofScheme (String.ofList scheme) = .special → ∃ c ∈ front, isSlash c = false)
    (hs : readScheme? (relevant s) = some (scheme, front ++ '/' :: tail))
    (hs' : readScheme? (relevant s') = some (scheme, front ++ '/' :: tail'))
    (hu : parse s = .ok u) (hv : parse s' = .ok v) (hdu : ¬u.HasDrive) (hdv : ¬v.HasDrive) :
    u.server = v.server := by
  obtain ⟨_, _, a, hsu, hru, hserver⟩ := parse_ok hu
  obtain ⟨_, _, b, hsv, hrv, hserver'⟩ := parse_ok hv
  rw [hs] at hsu
  rw [hs'] at hsv
  cases hsu
  cases hsv
  rw [hserver, hserver']
  by_cases hend : ∃ c ∈ front, precedesEnd c = false
  · -- the query or the fragment begins before the slash, and nothing after it is read
    have hopen : ∀ tail : List Char, ∃ c ∈ front ++ '/' :: tail, precedesEnd c = false := by
      intro tail
      obtain ⟨c, hmem, hc⟩ := hend
      exact ⟨c, List.mem_append_left _ hmem, hc⟩
    rw [cutEnd_fst, cutEnd_open (hopen _), takeWhile_of_stop hend] at hru hrv
    obtain ⟨hsame, -⟩ := Prod.mk.inj (Except.ok.inj (hru.symm.trans hrv))
    rw [hsame]
  · have hplain : ∀ c ∈ front, precedesEnd c = true := by
      intro c hc
      by_contra h
      exact hend ⟨c, hc, by simpa using h⟩
    have hcut : ∀ tail : List Char, (front ++ '/' :: tail).takeWhile precedesEnd =
        front ++ '/' :: tail.takeWhile precedesEnd := by
      intro tail
      rw [List.takeWhile_append_of_pos hplain]
      rfl
    obtain ⟨authority, hfixed⟩ := authority_fixed h2 hf
    rw [cutEnd_fst, hcut] at hru hrv
    have hscheme : u.scheme = String.ofList scheme := congrArg Server.scheme hserver
    have hscheme' : v.scheme = String.ofList scheme := congrArg Server.scheme hserver'
    have ha := hfixed _ _ _ _ hru fun h =>
      hdu ⟨hscheme.trans ((kind_file_iff _).mp h.1), h.2⟩
    have hb := hfixed _ _ _ _ hrv fun h =>
      hdv ⟨hscheme'.trans ((kind_file_iff _).mp h.1), h.2⟩
    rw [ha, hb]

end DeployService.Url
