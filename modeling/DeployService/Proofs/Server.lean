import DeployService.Channel.Basic
import DeployService.Proofs.Authority
import DeployService.Proofs.PathSegments
import Mathlib

/-!
# Which server a URL leads to

The URL of a call is put together as a text, which begins with the text of the host and a slash, and
is then read. So the host text decides about the server, and neither the base path nor the call
does, except where the host text names nothing behind a scheme whose URLs always have a host
(`IsNameless`): then the first segment of the path is taken for the host.
-/

namespace DeployService.Url

open DeployService.Text

/-! ## The text of a host -/

/-- The scheme of a text is what stands before the first colon, in lower case. -/
theorem readScheme?_front {front rest scheme after : List Char} (hf : ':' ∉ front)
    (h : readScheme? (front ++ ':' :: rest) = some (scheme, after)) :
    scheme = front.map Char.toLower ∧ after = rest := by
  have hcut := cutChars?_append ':' front hf rest
  unfold readScheme? at h
  split at h
  · cases h
  · split at h
    · next heq _ =>
      rw [hcut] at h
      simp only at h
      split at h
      · cases h
        exact ⟨rfl, rfl⟩
      · cases h
    · cases h

/-- The first colon stands at the end of the scheme text, or in it. -/
theorem split_at_colon (scheme name : List Char) :
    ∃ front rest, scheme ++ ':' :: '/' :: '/' :: name = front ++ ':' :: rest ∧ ':' ∉ front ∧
      2 ≤ rest.length ∧ ((∀ c ∈ rest, isSlash c = true) →
        front = scheme ∧ ∀ c ∈ name, isSlash c = true) := by
  by_cases hc : ':' ∈ scheme
  · obtain ⟨front, more, rfl, hfront⟩ := List.eq_append_cons_of_mem hc
    refine ⟨front, more ++ ':' :: '/' :: '/' :: name, by simp, hfront, by simp; omega, ?_⟩
    intro hslash
    have hcolon : isSlash ':' = true := hslash ':' (by simp)
    cases hcolon
  · refine ⟨scheme, '/' :: '/' :: name, rfl, hc, by simp, fun hslash => ⟨rfl, ?_⟩⟩
    intro c hmem
    exact hslash c (by simp [hmem])

/-- The scheme of a host text is in lower case. -/
theorem splitHost_lower (host : String) :
    ∀ c ∈ (Channel.splitHost host).1.toList, c.toLower = c := by
  unfold Channel.splitHost
  split
  · intro c hc
    rw [lowerAscii, String.toList_ofList, List.mem_map] at hc
    obtain ⟨d, -, rfl⟩ := hc
    exact d.toLower_toLower_eq_toLower
  · intro c hc
    have hall : Channel.defaultScheme.toList.all (fun c => c.toLower == c) = true := by decide
    exact beq_iff_eq.mp (List.all_eq_true.mp hall c hc)

/-- The scheme in a host text, as it is read. -/
def schemeChars (host : String) : List Char :=
  ((Channel.splitHost host).1.toList.dropWhile isOuter).filter (!isBreak ·)

/-- What a host text has behind its scheme, as it is read. -/
def nameChars (host : String) : List Char := (Channel.splitHost host).2.toList.filter (!isBreak ·)

/-- The host text names no server, although there is one in every URL of its scheme. -/
def IsNameless (host : String) : Prop :=
  Kind.ofScheme (String.ofList (schemeChars host)) = .special ∧
    ∀ c ∈ nameChars host, isSlash c = true

instance (host : String) : Decidable (IsNameless host) :=
  @instDecidableAnd _ _ _ (List.decidableBAll _ _)

theorem schemeChars_lower (host : String) :
    (schemeChars host).map Char.toLower = schemeChars host := by
  have hlower : ∀ c ∈ schemeChars host, c.toLower = c := by
    intro c hc
    exact splitHost_lower host c ((List.dropWhile_sublist _).mem (List.mem_of_mem_filter hc))
  rw [List.map_congr_left hlower, List.map_id']

/-! ## A host text that names nothing -/

theorem readScheme?_special {scheme : List Char}
    (h : Kind.ofScheme (String.ofList scheme) = .special) (rest : List Char) :
    readScheme? (scheme ++ ':' :: rest) = some (scheme, rest) := by
  have hmem : String.ofList scheme ∈ ["http", "https", "ws", "wss", "ftp"] := by
    unfold Kind.ofScheme at h
    split at h
    · cases h
    · split at h
      · next hc => simpa using hc
      · cases h
  have hscheme : scheme = (String.ofList scheme).toList := (String.toList_ofList).symm
  simp only [List.mem_cons, List.not_mem_nil, or_false] at hmem
  rw [hscheme]
  rcases hmem with h | h | h | h | h <;> rw [h] <;> rfl

/-- The first thing behind the slashes is taken for a host. -/
theorem readHierarchy_nameless {scheme : String} (hk : Kind.ofScheme scheme = .special)
    {slashes : List Char} (hs : ∀ c ∈ slashes, isSlash c = true) {letter : Char}
    (hl : letter = 'a' ∨ letter = 'b') :
    readHierarchy scheme true (slashes ++ [letter]) =
      .ok (some ⟨"", none, .name (String.ofList [letter]), none⟩, .segments [""]) := by
  have hskip : (slashes ++ [letter]).dropWhile isSlash = [letter] := by
    rw [List.dropWhile_append_of_pos hs]
    rcases hl with rfl | rfl <;> rfl
  have hauthority : readAuthority scheme true [letter] =
      .ok (⟨"", none, .name (String.ofList [letter]), none⟩, []) := by
    rcases hl with rfl | rfl <;> simp only [readAuthority, hk] <;> rfl
  have htake : [letter].takeWhile (!endsAuthority .special ·) = [letter] ∧
      [letter].dropWhile (!endsAuthority .special ·) = [] := by
    rcases hl with rfl | rfl <;> exact ⟨rfl, rfl⟩
  simp only [readHierarchy, hk, hskip, htake.1, htake.2, List.isEmpty_nil, Bool.and_true,
    hauthority, bind, Except.bind, pure, Except.pure]
  rfl

theorem parse_nameless {host : String} (h : IsNameless host) {letter : Char}
    (hl : letter = 'a' ∨ letter = 'b') :
    ∃ u, parse (belowHost (Channel.splitHost host).1 (Channel.splitHost host).2 [letter]) = .ok u ∧
      u.host = some (.name (String.ofList [letter])) ∧ ¬u.HasDrive := by
  obtain ⟨hk, hslash⟩ := h
  have hrest : readTail [letter] = [letter] := by
    rcases hl with rfl | rfl <;> rfl
  obtain ⟨slashes, hslashes⟩ : ∃ slashes, slashes = '/' :: '/' :: (nameChars host ++ ['/']) :=
    ⟨_, rfl⟩
  have hs : ∀ c ∈ slashes, isSlash c = true := by
    intro c hc
    rw [hslashes] at hc
    simp only [List.mem_cons, List.mem_append, List.not_mem_nil, or_false] at hc
    rcases hc with rfl | rfl | hc | rfl
    · rfl
    · rfl
    · exact hslash c hc
    · rfl
  have hread : readScheme? (relevant (belowHost (Channel.splitHost host).1
      (Channel.splitHost host).2 [letter])) = some (schemeChars host, slashes ++ [letter]) := by
    have hchars : slashes ++ [letter] = '/' :: '/' :: (nameChars host ++ '/' :: [letter]) := by
      simp [hslashes]
    rw [relevant_front, hrest, hchars]
    exact readScheme?_special hk _
  have hnot : ∀ c, isSlash c = false → c ≠ letter → c ∉ slashes ++ [letter] := by
    intro c hc hne hmem
    rcases List.mem_append.mp hmem with hmem | hmem
    · rw [hs c hmem] at hc
      cases hc
    · exact hne (List.mem_singleton.mp hmem)
  have hletter : '?' ≠ letter ∧ '#' ≠ letter := by
    rcases hl with rfl | rfl <;> decide
  have hend : cutEnd (Kind.ofScheme (String.ofList (schemeChars host))) (slashes ++ [letter]) =
      (slashes ++ [letter], none, none) :=
    cutEnd_of_none (hnot '?' rfl hletter.1) (hnot '#' rfl hletter.2)
  refine ⟨{
    scheme := String.ofList (schemeChars host), username := "", password := none
    host := some (.name (String.ofList [letter])), port := none, path := .segments [""]
    query := none, fragment := none }, ?_, rfl, ?_⟩
  · rw [parse, hread]
    simp only [hend, Option.isNone_none, Bool.and_true, readHierarchy_nameless hk hs hl, bind,
      Except.bind, pure, Except.pure]
    rfl
  · rintro ⟨-, hd⟩
    cases hd

end DeployService.Url

/-! ## The URLs of a host text -/

namespace DeployService

open DeployService.Text DeployService.Url

theorem Channel.rawUrl_below (c : Channel) (path : String) :
    ∃ tail, c.rawUrl path = belowHost c.scheme c.host tail := by
  refine ⟨(trimWhile (· == '/') (c.encodedBasePath.getD c.basePath) ++
    (if trimWhile (· == '/') (c.encodedBasePath.getD c.basePath) = "" ∨
      trimStartWhile (· == '/') path = "" then "" else "/") ++
    trimStartWhile (· == '/') path).toList, ?_⟩
  rw [← String.toList_inj]
  simp [rawUrl, belowHost]

/-- The URL of some call, below some base path of the host. -/
def IsUrlOf (host : String) (u : Url) : Prop :=
  ∃ basePath encoded e, (Channel.of host basePath encoded).url e = .ok u

variable {host : String} {u v : Url}

theorem IsUrlOf.parsed (h : IsUrlOf host u) :
    ∃ tail parsed,
      Url.parse (belowHost (Channel.splitHost host).1 (Channel.splitHost host).2 tail) =
        .ok parsed ∧ u.server = parsed.server ∧ (u.HasDrive ↔ parsed.HasDrive) := by
  obtain ⟨basePath, encoded, e, h⟩ := h
  obtain ⟨tail, htail⟩ := (Channel.of host basePath encoded).rawUrl_below e.path
  unfold Channel.url at h
  simp only [htail] at h
  split at h
  · next parsed hp =>
    cases h
    have hserver := appendPairs_server parsed e.query
    have hscheme : (parsed.appendPairs e.query).scheme = parsed.scheme :=
      congrArg Server.scheme hserver
    refine ⟨tail, parsed, hp, hserver, ?_⟩
    rw [HasDrive, HasDrive, hscheme, appendPairs_path]
  · cases h

/-- What is read of a host text, up to the slash behind it. -/
theorem readScheme?_of_host (host : String) :
    ∃ front rest, 2 ≤ rest.length ∧ ((∀ c ∈ rest, isSlash c = true) →
        front = schemeChars host ∧ ∀ c ∈ nameChars host, isSlash c = true) ∧
      ∀ tail, ∃ tail', ∀ scheme after,
        readScheme? (relevant (belowHost (Channel.splitHost host).1 (Channel.splitHost host).2
          tail)) = some (scheme, after) →
        scheme = front.map Char.toLower ∧ after = rest ++ '/' :: tail' := by
  obtain ⟨front, rest, hsplit, hfront, h2, hslash⟩ :=
    split_at_colon (schemeChars host) (nameChars host)
  refine ⟨front, rest, h2, hslash, fun tail => ⟨readTail tail, fun scheme after h => ?_⟩⟩
  rw [relevant_front] at h
  have hchars : schemeChars host ++ ':' :: '/' :: '/' :: (nameChars host ++ '/' :: readTail tail) =
      front ++ ':' :: (rest ++ '/' :: readTail tail) := by
    calc schemeChars host ++ ':' :: '/' :: '/' :: (nameChars host ++ '/' :: readTail tail)
        = (schemeChars host ++ ':' :: '/' :: '/' :: nameChars host) ++ '/' :: readTail tail := by
          simp
      _ = (front ++ ':' :: rest) ++ '/' :: readTail tail := by rw [hsplit]
      _ = _ := by simp
  exact readScheme?_front hfront ((congrArg readScheme? hchars).symm.trans h)

theorem IsUrlOf.server_eq (hn : ¬IsNameless host) (hu : IsUrlOf host u) (hv : IsUrlOf host v)
    (hdu : ¬u.HasDrive) (hdv : ¬v.HasDrive) : u.server = v.server := by
  obtain ⟨tail, u', hpu, hsu, hdu'⟩ := hu.parsed
  obtain ⟨tail', v', hpv, hsv, hdv'⟩ := hv.parsed
  obtain ⟨front, rest, h2, hslash, hread⟩ := readScheme?_of_host host
  obtain ⟨scheme, after, -, hs, -⟩ := parse_ok hpu
  obtain ⟨scheme', after', -, hs', -⟩ := parse_ok hpv
  obtain ⟨cut, hcut⟩ := hread tail
  obtain ⟨cut', hcut'⟩ := hread tail'
  obtain ⟨rfl, rfl⟩ := hcut scheme after hs
  obtain ⟨rfl, rfl⟩ := hcut' scheme' after' hs'
  have hnamed : Kind.ofScheme (String.ofList (front.map Char.toLower)) = .special →
      ∃ c ∈ rest, isSlash c = false := by
    intro hk
    by_contra hnot
    have hall : ∀ c ∈ rest, isSlash c = true := by
      intro c hc
      by_contra h
      exact hnot ⟨c, hc, by simpa using h⟩
    obtain ⟨rfl, hname⟩ := hslash hall
    rw [schemeChars_lower] at hk
    exact hn ⟨hk, hname⟩
  rw [hsu, hsv]
  exact server_eq_of_front h2 hnamed hs hs' hpu hpv (fun h => hdu (hdu'.mpr h))
    fun h => hdv (hdv'.mpr h)

theorem IsUrlOf.server_of_drive (h : IsUrlOf host u) (hd : u.HasDrive) :
    u.server = .nowhere := by
  obtain ⟨tail, parsed, hp, hserver, hdrive⟩ := h.parsed
  obtain ⟨hfile, hpath⟩ := hdrive.mp hd
  obtain ⟨scheme, rest, authority, -, hread, hparsed⟩ := parse_ok hp
  have hscheme : parsed.scheme = String.ofList scheme := congrArg Server.scheme hparsed
  have hk : Kind.ofScheme (String.ofList scheme) = .file := by
    rw [kind_file_iff, ← hscheme]
    exact hfile
  rw [hserver, hparsed]
  exact readHierarchy_drive hk hread hpath

/-- Where a host text names nothing, the call decides about the server. -/
theorem isUrlOf_nameless (h : IsNameless host) {letter : Char} (hl : letter = 'a' ∨ letter = 'b') :
    ∃ u, IsUrlOf host u ∧ u.host = some (.name (String.ofList [letter])) ∧ ¬u.HasDrive := by
  obtain ⟨u, hp, hu, hd⟩ := parse_nameless h hl
  have hraw : (Channel.of host "" none).rawUrl (String.ofList [letter]) =
      belowHost (Channel.splitHost host).1 (Channel.splitHost host).2 [letter] := by
    rw [← String.toList_inj]
    rcases hl with rfl | rfl <;>
      simp [Channel.rawUrl, Channel.of, belowHost, trimWhile, trimEndWhile, trimStartWhile]
  refine ⟨u, ⟨"", none, .get "Call" (String.ofList [letter]), ?_⟩, hu, hd⟩
  unfold Channel.url
  simp only [Endpoint.get, Endpoint.of, hraw, hp]
  rfl

/-- **The host text decides about the server.** All URLs of a host text lead to one server, except
that there is none where a file on a drive is; and this is so exactly if the host text names a
server, or need not. -/
theorem server_decided_by_host_text (host : String) :
    ((∀ u v, IsUrlOf host u → IsUrlOf host v → ¬u.HasDrive → ¬v.HasDrive →
        u.server = v.server) ↔ ¬IsNameless host) ∧
      ∀ u, IsUrlOf host u → u.HasDrive → u.server = .nowhere := by
  refine ⟨⟨fun hsame hn => ?_, fun hn u v hu hv hdu hdv => hu.server_eq hn hv hdu hdv⟩,
    fun u hu hd => hu.server_of_drive hd⟩
  obtain ⟨u, hu, hhost, hdu⟩ := isUrlOf_nameless hn (.inl rfl)
  obtain ⟨v, hv, hhost', hdv⟩ := isUrlOf_nameless hn (.inr rfl)
  have hserver := congrArg Server.host (hsame u v hu hv hdu hdv)
  have hletters : u.host = v.host := hserver
  rw [hhost, hhost'] at hletters
  exact absurd hletters (by decide)

example : IsNameless "https://" ∧ ¬IsNameless "https://example.com" := by decide +kernel

/-- Behind a scheme alone, the first segment of the path becomes the host; and a drive letter takes
the place of a host. -/
theorem path_decides_about_server :
    (((Channel.of "https://" "" none).url (.get "GetOne" "/one/x")).toOption.map server,
        ((Channel.of "https://" "" none).url (.get "GetTwo" "/two/x")).toOption.map server) =
      (some ⟨"https", "", none, some (.name "one"), none⟩,
        some ⟨"https", "", none, some (.name "two"), none⟩) ∧
    (((Channel.of "file://server" "" none).url (.get "GetX" "/x")).toOption.map server,
        ((Channel.of "file://server" "" none).url (.get "GetC" "/C:/x")).toOption.map server) =
      (some ⟨"file", "", none, some (.name "server"), none⟩, some .nowhere) := by
  decide +kernel

end DeployService
