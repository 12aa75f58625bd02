import DeployService.Proofs.Addressing
import DeployService.Proofs.Server

/-!
# Slashes where the parts of a URL meet

The text of a URL is put together of a host text, a base path and the path of a call. However many
slashes these have where they meet, there is one slash in the URL (`IsJoined`). So slashes at the
joints change neither a URL nor the error for a text that is none, and neither does the case of the
letters of the scheme (`slashes_at_joints`). Only behind a colon do slashes count: there they turn
what stands before them into a scheme.
-/

namespace DeployService

open DeployService.Text DeployService.Url

/-! ## Trimming -/

/-- A text of slashes. -/
def slashes (n : Nat) : String := String.ofList (List.replicate n '/')

@[simp] theorem toList_slashes (n : Nat) : (slashes n).toList = List.replicate n '/' := by
  rw [slashes, String.toList_ofList]

theorem dropWhile_slashes (n : Nat) (cs : List Char) :
    (List.replicate n '/' ++ cs).dropWhile (· == '/') = cs.dropWhile (· == '/') := by
  refine List.dropWhile_append_of_pos fun c hc => ?_
  rw [List.eq_of_mem_replicate hc]
  rfl

theorem rdropWhile_slashes (cs : List Char) (n : Nat) :
    (cs ++ List.replicate n '/').rdropWhile (· == '/') = cs.rdropWhile (· == '/') := by
  rw [List.rdropWhile, List.reverse_append, List.reverse_replicate, dropWhile_slashes]
  rfl

theorem toList_trimEndWhile (p : Char → Bool) (s : String) :
    (trimEndWhile p s).toList = s.toList.rdropWhile p := by
  simp [trimEndWhile, List.rdropWhile]

theorem trimEndWhile_slashes (core : String) (n : Nat) :
    trimEndWhile (· == '/') (core ++ slashes n) = trimEndWhile (· == '/') core := by
  rw [← String.toList_inj, toList_trimEndWhile, toList_trimEndWhile, String.toList_append,
    toList_slashes, rdropWhile_slashes]

theorem trimStartWhile_slashes (n : Nat) (core : String) :
    trimStartWhile (· == '/') (slashes n ++ core) = trimStartWhile (· == '/') core := by
  rw [trimStartWhile, trimStartWhile, String.toList_append, toList_slashes, dropWhile_slashes]

theorem trimWhile_slashes (n : Nat) (core : String) (m : Nat) :
    trimWhile (· == '/') (slashes n ++ core ++ slashes m) = trimWhile (· == '/') core := by
  rw [← String.toList_inj, Channel.toList_trimWhile, Channel.toList_trimWhile]
  simp only [String.toList_append, toList_slashes, List.append_assoc]
  rw [dropWhile_slashes, List.dropWhile_append]
  split
  · next hempty =>
    rw [List.isEmpty_iff.mp hempty]
    have hnone := dropWhile_slashes m []
    rw [List.append_nil] at hnone
    rw [hnone]
    rfl
  · exact rdropWhile_slashes _ m

theorem eq_slashes_append (cs : List Char) :
    ∃ n, cs = List.replicate n '/' ++ cs.dropWhile (· == '/') := by
  have hall : ∀ c ∈ cs.takeWhile (· == '/'), c = '/' := fun c hc =>
    beq_iff_eq.mp (List.all_eq_true.mp List.all_takeWhile c hc)
  refine ⟨(cs.takeWhile (· == '/')).length, ?_⟩
  rw [← List.eq_replicate_of_mem hall, List.takeWhile_append_dropWhile]

theorem eq_append_slashes (cs : List Char) :
    ∃ n, cs = cs.rdropWhile (· == '/') ++ List.replicate n '/' := by
  obtain ⟨n, hn⟩ := eq_slashes_append cs.reverse
  refine ⟨n, ?_⟩
  rw [List.rdropWhile, ← List.reverse_replicate, ← List.reverse_append, ← hn, List.reverse_reverse]

/-! ## Cutting at a separator -/

theorem stripStart?_eq_some {sep cs rest : List Char} :
    stripStart? sep cs = some rest ↔ cs = sep ++ rest := by
  induction sep generalizing cs with
  | nil => simp [stripStart?]
  | cons p sep ih =>
    cases cs with
    | nil => simp [stripStart?]
    | cons c cs =>
      rw [stripStart?]
      split
      · next h => rw [ih, h, List.cons_append, List.cons_inj_right]
      · next h =>
        constructor
        · intro h'
          cases h'
        · intro h'
          exact absurd (List.cons.inj h').1.symm h

theorem eq_of_cutCharsAt? {sep cs before after : List Char}
    (h : cutCharsAt? sep cs = some (before, after)) : cs = before ++ sep ++ after := by
  induction cs generalizing before with
  | nil =>
    rw [cutCharsAt?] at h
    split at h
    · next hsep =>
      cases h
      rw [List.isEmpty_iff.mp hsep]
      rfl
    · cases h
  | cons c cs ih =>
    rw [cutCharsAt?] at h
    split at h
    · next hstrip =>
      cases h
      exact stripStart?_eq_some.mp hstrip
    · obtain ⟨⟨before', after'⟩, hcut, heq⟩ := Option.map_eq_some_iff.mp h
      cases heq
      rw [ih hcut]
      rfl

/-- The first occurrence of a separator is found in front of more text as well. -/
theorem cutCharsAt?_append {sep cs before after : List Char}
    (h : cutCharsAt? sep cs = some (before, after)) (more : List Char) :
    cutCharsAt? sep (cs ++ more) = some (before, after ++ more) := by
  induction cs generalizing before with
  | nil =>
    rw [cutCharsAt?] at h
    split at h
    · next hsep =>
      cases h
      rw [List.isEmpty_iff.mp hsep]
      cases more <;> rfl
    · cases h
  | cons c cs ih =>
    rw [cutCharsAt?] at h
    rw [List.cons_append, cutCharsAt?]
    split at h
    · next rest hstrip =>
      cases h
      have hmore : stripStart? sep (c :: (cs ++ more)) = some (after ++ more) := by
        rw [stripStart?_eq_some, ← List.cons_append, stripStart?_eq_some.mp hstrip,
          List.append_assoc]
      rw [hmore]
    · next hstrip =>
      obtain ⟨⟨before', after'⟩, hcut, heq⟩ := Option.map_eq_some_iff.mp h
      cases heq
      -- a separator that begins here would end before the one that is found
      have hmore : stripStart? sep (c :: (cs ++ more)) = none := by
        cases hs : stripStart? sep (c :: (cs ++ more)) with
        | none => rfl
        | some rest =>
          have hprefix : sep <+: c :: cs := by
            have hlength := congrArg List.length (eq_of_cutCharsAt? hcut)
            simp only [List.length_append] at hlength
            have hsep : sep <+: (c :: cs) ++ more := ⟨rest, (stripStart?_eq_some.mp hs).symm⟩
            refine List.prefix_of_prefix_length_le hsep (List.prefix_append _ more) ?_
            rw [List.length_cons]
            omega
          obtain ⟨rest', hrest⟩ := hprefix
          rw [stripStart?_eq_some.mpr hrest.symm] at hstrip
          cases hstrip
      rw [hmore]
      simp only [ih hcut, Option.map_some]

/-- A separator is found in the same place if its characters are the only ones mapped to them. -/
theorem cutCharsAt?_map {f : Char → Char} {sep : List Char}
    (hf : ∀ p ∈ sep, ∀ c, f c = p ↔ c = p) (cs : List Char) :
    cutCharsAt? sep (cs.map f) =
      (cutCharsAt? sep cs).map fun (before, after) => (before.map f, after.map f) := by
  have hstrip : ∀ cs : List Char,
      stripStart? sep (cs.map f) = (stripStart? sep cs).map (List.map f) := by
    induction sep with
    | nil => exact fun cs => rfl
    | cons p sep ih =>
      intro cs
      cases cs with
      | nil => rfl
      | cons c cs =>
        have hc : p = f c ↔ p = c := by
          rw [eq_comm, hf p List.mem_cons_self c, eq_comm]
        rw [List.map_cons, stripStart?, stripStart?,
          ih (fun p' hp => hf p' (List.mem_cons_of_mem _ hp))]
        simp only [hc]
        split <;> rfl
  induction cs with
  | nil =>
    rw [List.map_nil, cutCharsAt?]
    split <;> rfl
  | cons c cs ih =>
    have hhere := hstrip (c :: cs)
    rw [List.map_cons] at hhere ⊢
    rw [cutCharsAt?, cutCharsAt?, hhere, ih]
    cases stripStart? sep (c :: cs) with
    | some rest => rfl
    | none => cases cutCharsAt? sep cs <;> rfl

/-! ## The scheme of a host text -/

/-- Only a letter is changed to lower case, and it stays a letter. -/
theorem toLower_eq_iff {p : Char} (hp : p.isAlpha = false) (c : Char) : c.toLower = p ↔ c = p := by
  have hsame : ∀ d : Char, d.isAlpha = false → d.toLower = d := fun d hd =>
    Char.toLower_eq_of_not_isUpper (Bool.eq_false_iff.mp (Bool.or_eq_false_iff.mp hd).1)
  constructor
  · rintro rfl
    exact (hsame c (c.isAlpha_toLower_eq_isAlpha ▸ hp)).symm
  · rintro rfl
    exact hsame c hp

theorem cutAt?_eq_some {sep s before after : String} : cutAt? sep s = some (before, after) ↔
    cutCharsAt? sep.toList s.toList = some (before.toList, after.toList) := by
  rw [cutAt?, Option.map_eq_some_iff]
  constructor
  · rintro ⟨⟨b, a⟩, hcut, heq⟩
    cases heq
    rw [hcut, String.toList_ofList, String.toList_ofList]
  · intro h
    exact ⟨_, h, by simp only [String.ofList_toList]⟩

/-- The separator of a scheme is found in the same place whatever the case of the letters. -/
theorem cutAt?_of_case {host scheme rest scheme' : String}
    (h : cutAt? "://" host = some (scheme, rest))
    (hcase : lowerAscii scheme' = lowerAscii scheme) :
    cutAt? "://" (scheme' ++ "://" ++ rest) = some (scheme', rest) := by
  rw [cutAt?_eq_some] at h ⊢
  have hsep : ∀ p ∈ "://".toList, ∀ c : Char, c.toLower = p ↔ c = p := by
    intro p hp
    have hletters : p = ':' ∨ p = '/' ∨ p = '/' := by simpa using hp
    rcases hletters with rfl | rfl | rfl <;> exact toLower_eq_iff rfl
  have hlower : scheme'.toList.map Char.toLower = scheme.toList.map Char.toLower :=
    String.ofList_injective hcase
  have hlength : scheme'.toList.length = scheme.toList.length := by
    simpa only [List.length_map] using congrArg List.length hlower
  have hmapped := cutCharsAt?_map hsep host.toList
  have hmapped' := cutCharsAt?_map hsep (scheme' ++ "://" ++ rest).toList
  have hsame : (scheme' ++ "://" ++ rest).toList.map Char.toLower =
      host.toList.map Char.toLower := by
    rw [eq_of_cutCharsAt? h]
    simp only [String.toList_append, List.map_append, hlower]
  rw [hsame, hmapped, h] at hmapped'
  obtain ⟨⟨before, after⟩, hcut, heq⟩ := Option.map_eq_some_iff.mp hmapped'.symm
  -- the parts are cut off at the same length
  have hbefore : before.length = scheme'.toList.length := by
    rw [hlength]
    simpa only [List.length_map] using congrArg List.length (Prod.mk.inj heq).1
  have hparts := eq_of_cutCharsAt? hcut
  simp only [String.toList_append, List.append_assoc] at hparts
  obtain ⟨rfl, hrest⟩ := List.append_inj hparts hbefore.symm
  rw [hcut, List.append_cancel_left hrest]

theorem cutCharsAt?_colon {cs : List Char} (h : cutCharsAt? "://".toList cs = none)
    (hlast : ∀ c ∈ cs.getLast?, c ≠ ':' ∧ c ≠ '/') (n : Nat) :
    cutCharsAt? "://".toList (cs ++ List.replicate n '/') = none := by
  have hsep : "://".toList = [':', '/', '/'] := rfl
  rw [hsep] at h ⊢
  induction cs with
  | nil =>
    rw [List.nil_append]
    induction n with
    | zero => rfl
    | succ n ih =>
      rw [List.replicate_succ, cutCharsAt?, ih]
      rfl
  | cons c cs ih =>
    rw [cutCharsAt?] at h
    split at h
    · cases h
    · next hstrip =>
      rw [Option.map_eq_none_iff] at h
      have hrest : ∀ d ∈ cs.getLast?, d ≠ ':' ∧ d ≠ '/' := by
        intro d hd
        refine hlast d ?_
        rw [List.getLast?_cons, Option.mem_def.mp hd]
        rfl
      have hmore : stripStart? [':', '/', '/'] (c :: (cs ++ List.replicate n '/')) = none := by
        cases hs : stripStart? [':', '/', '/'] (c :: (cs ++ List.replicate n '/')) with
        | none => rfl
        | some rest =>
          have heq := stripStart?_eq_some.mp hs
          obtain ⟨rfl, hslashes⟩ := List.cons.inj heq
          -- the two slashes belong to the text, unless it ends in the colon or in a slash
          match cs, hlast, hstrip, hslashes with
          | [], hlast, _, _ => exact absurd rfl (hlast ':' rfl).1
          | [d], hlast, _, hslashes => exact absurd (List.cons.inj hslashes).1 (hlast d rfl).2
          | d :: e :: cs, _, hstrip, hslashes =>
            obtain ⟨rfl, hslash⟩ := List.cons.inj hslashes
            obtain ⟨rfl, -⟩ := List.cons.inj hslash
            cases hstrip
      rw [List.cons_append, cutCharsAt?, hmore, ih h hrest]
      rfl

theorem getLast?_rdropWhile (p : Char → Bool) (cs : List Char) :
    ∀ c ∈ (cs.rdropWhile p).getLast?, p c = false := by
  intro c hc
  have hnot := List.head?_dropWhile_not p cs.reverse
  rw [List.rdropWhile, List.getLast?_reverse] at hc
  rw [Option.mem_def.mp hc] at hnot
  simpa using hnot

/-- Slashes behind a host text belong to neither of its parts, unless they follow a colon. -/
theorem splitHost_slashes {core : String}
    (h : (trimEndWhile (· == '/') core).toList.getLast? ≠ some ':') (n : Nat) :
    Channel.splitHost (core ++ slashes n) = Channel.splitHost (trimEndWhile (· == '/') core) := by
  obtain ⟨k, hk⟩ := eq_append_slashes core.toList
  rw [← toList_trimEndWhile] at hk
  have hlast := getLast?_rdropWhile (· == '/') core.toList
  rw [← toList_trimEndWhile] at hlast
  generalize trimEndWhile (· == '/') core = host at h hk hlast
  have hmore : core ++ slashes n = host ++ slashes (k + n) := by
    rw [← String.toList_inj]
    simp only [String.toList_append, toList_slashes, List.replicate_add, hk, List.append_assoc]
  rw [hmore]
  unfold Channel.splitHost
  cases hcut : cutAt? "://" host with
  | some parts =>
    obtain ⟨scheme, rest⟩ := parts
    have hcut' : cutAt? "://" (host ++ slashes (k + n)) =
        some (scheme, rest ++ slashes (k + n)) := by
      rw [cutAt?_eq_some] at hcut ⊢
      rw [String.toList_append, String.toList_append]
      exact cutCharsAt?_append hcut _
    rw [hcut']
    simp only [trimEndWhile_slashes]
  | none =>
    have hcut' : cutAt? "://" (host ++ slashes (k + n)) = none := by
      rw [cutAt?, Option.map_eq_none_iff] at hcut ⊢
      rw [String.toList_append, toList_slashes]
      refine cutCharsAt?_colon hcut (fun c hc => ⟨?_, ?_⟩) _
      · rintro rfl
        exact h hc
      · rintro rfl
        exact absurd (hlast '/' hc) (by decide)
    rw [hcut']
    simp only [trimEndWhile_slashes]

/-! ## The text of a URL -/

/-- The texts differ in slashes at their ends. -/
def SameInside (s t : String) : Prop :=
  ∃ core a b c d, s = slashes a ++ core ++ slashes b ∧ t = slashes c ++ core ++ slashes d

/-- The texts differ in slashes at the start. -/
def SameBehind (s t : String) : Prop :=
  ∃ core a b, s = slashes a ++ core ∧ t = slashes b ++ core

/-- The host texts differ in slashes at the end and in the case of the letters of their scheme. -/
inductive SameHost : String → String → Prop where
  | refl (host : String) : SameHost host host
  /-- Behind a colon slashes would begin another scheme. -/
  | slashes {core : String} (h : (trimEndWhile (· == '/') core).toList.getLast? ≠ some ':')
    (a b : Nat) : SameHost (core ++ slashes a) (core ++ slashes b)
  | scheme {host scheme rest scheme' : String} (h : cutAt? "://" host = some (scheme, rest))
    (hcase : lowerAscii scheme' = lowerAscii scheme) :
    SameHost host (scheme' ++ "://" ++ rest)
  | trans {host other last : String} (h : SameHost host other) (h' : SameHost other last) :
    SameHost host last

/-- The scheme of a host text, and what stands behind it. Without a scheme it is the secure one. -/
inductive HasParts (host : String) : String → String → Prop where
  | named {scheme rest : String} (h : cutAt? "://" host = some (scheme, rest)) :
    HasParts host (lowerAscii scheme) rest
  | bare (h : cutAt? "://" host = none) : HasParts host "https" host

/-- A base path and a path with a slash between them, unless one of them is empty. -/
def joined (base path : String) : String :=
  if base = "" ∨ path = "" then base ++ path else base ++ "/" ++ path

/-- The text consists of the parts of a host text, a base path and a path without the slashes where
they meet, and of one slash at each joint. -/
structure IsJoined (host basePath path raw : String) : Prop where
  parts : ∃ scheme name base rest a b c d,
    HasParts host scheme (name ++ slashes a) ∧ name.toList.getLast? ≠ some '/' ∧
    basePath = slashes b ++ base ++ slashes c ∧ base.toList.head? ≠ some '/' ∧
      base.toList.getLast? ≠ some '/' ∧
    path = slashes d ++ rest ∧ rest.toList.head? ≠ some '/' ∧
    raw = scheme ++ "://" ++ name ++ "/" ++ joined base rest

theorem SameInside.trim_eq {s t : String} (h : SameInside s t) :
    trimWhile (· == '/') s = trimWhile (· == '/') t := by
  obtain ⟨core, a, b, c, d, rfl, rfl⟩ := h
  rw [trimWhile_slashes, trimWhile_slashes]

theorem SameBehind.trim_eq {s t : String} (h : SameBehind s t) :
    trimStartWhile (· == '/') s = trimStartWhile (· == '/') t := by
  obtain ⟨core, a, b, rfl, rfl⟩ := h
  rw [trimStartWhile_slashes, trimStartWhile_slashes]

theorem SameHost.splitHost_eq {host other : String} (h : SameHost host other) :
    Channel.splitHost host = Channel.splitHost other := by
  induction h with
  | refl host => rfl
  | slashes h a b => rw [splitHost_slashes h a, splitHost_slashes h b]
  | scheme h hcase =>
    unfold Channel.splitHost
    rw [h, cutAt?_of_case h hcase]
    simp only [hcase]
  | trans _ _ ih ih' => exact ih.trans ih'

theorem hasParts_splitHost (host : String) : ∃ n,
    HasParts host (Channel.splitHost host).1 ((Channel.splitHost host).2 ++ slashes n) := by
  have hsplit : ∀ s : String, ∃ n, s = trimEndWhile (· == '/') s ++ slashes n := by
    intro s
    obtain ⟨n, hn⟩ := eq_append_slashes s.toList
    refine ⟨n, ?_⟩
    rw [← String.toList_inj, String.toList_append, toList_trimEndWhile, toList_slashes, ← hn]
  unfold Channel.splitHost
  split
  · next scheme rest hcut =>
    obtain ⟨n, hn⟩ := hsplit rest
    refine ⟨n, ?_⟩
    rw [← hn]
    exact .named hcut
  · next hcut =>
    obtain ⟨n, hn⟩ := hsplit host
    refine ⟨n, ?_⟩
    rw [← hn]
    exact .bare hcut

theorem Channel.rawUrl_joined (c : Channel) (path : String) :
    c.rawUrl path = c.scheme ++ "://" ++ c.host ++ "/" ++
      joined (trimWhile (· == '/') (c.encodedBasePath.getD c.basePath))
        (trimStartWhile (· == '/') path) := by
  simp only [rawUrl, joined]
  split <;> simp [String.append_assoc]

/-- The text of a URL is joined from its parts. -/
theorem isJoined_rawUrl (host basePath : String) (encoded : Option String) (path : String) :
    IsJoined host (encoded.getD basePath) path
      ((Channel.of host basePath encoded).rawUrl path) := by
  generalize hbase : encoded.getD basePath = given
  obtain ⟨a, ha⟩ := hasParts_splitHost host
  have hname : (Channel.splitHost host).2.toList.getLast? ≠ some '/' := by
    intro h
    unfold Channel.splitHost at h
    split at h <;> rw [toList_trimEndWhile] at h <;>
      exact absurd (getLast?_rdropWhile _ _ '/' h) (by decide)
  have hbehind : ∀ cs : List Char, (cs.dropWhile (· == '/')).head? ≠ some '/' := by
    intro cs h
    have hnot := List.head?_dropWhile_not (· == '/') cs
    rw [h] at hnot
    exact absurd hnot (by decide)
  obtain ⟨b, hb⟩ := eq_slashes_append given.toList
  obtain ⟨c, hc⟩ := eq_append_slashes (given.toList.dropWhile (· == '/'))
  obtain ⟨d, hd⟩ := eq_slashes_append path.toList
  refine ⟨_, _, trimWhile (· == '/') given, trimStartWhile (· == '/') path, a, b, c, d, ha, hname,
    ?_, ?_, ?_, ?_, ?_, ?_⟩
  · rw [← String.toList_inj]
    simp only [String.toList_append, toList_slashes, Channel.toList_trimWhile, List.append_assoc]
    rw [← hc, ← hb]
  · rw [Channel.toList_trimWhile]
    intro h
    refine hbehind given.toList ?_
    rw [hc, List.head?_append, h]
    rfl
  · rw [Channel.toList_trimWhile]
    exact fun h => absurd (getLast?_rdropWhile _ _ '/' h) (by decide)
  · rw [← String.toList_inj]
    simp only [String.toList_append, toList_slashes, trimStartWhile, String.toList_ofList]
    exact hd
  · rw [trimStartWhile, String.toList_ofList]
    exact hbehind path.toList
  · rw [Channel.rawUrl_joined, ← hbase]
    rfl

/-- Nothing else of a channel and a path is in the text of a URL. -/
theorem Channel.rawUrl_congr {c c' : Channel} {path path' : String} (hs : c.scheme = c'.scheme)
    (hn : c.host = c'.host)
    (hb : trimWhile (· == '/') (c.encodedBasePath.getD c.basePath) =
      trimWhile (· == '/') (c'.encodedBasePath.getD c'.basePath))
    (hp : trimStartWhile (· == '/') path = trimStartWhile (· == '/') path') :
    c.rawUrl path = c'.rawUrl path' := by
  unfold Channel.rawUrl
  generalize trimWhile (· == '/') (c.encodedBasePath.getD c.basePath) = base at hb ⊢
  generalize trimStartWhile (· == '/') path = rest at hp ⊢
  subst hb hp
  rw [hs, hn]

/-- The URL that a text stands for as the URL of a call. -/
def Endpoint.urlOf (e : Endpoint) (raw : String) : Except Error Url :=
  match Url.parse raw with
  | .ok url => .ok (url.appendPairs e.query)
  | .error fault =>
    .error (.externalIn ("Invalid URL for operation " ++ e.id ++ ": " ++ raw) (.url fault))

theorem Channel.url_eq_urlOf (c : Channel) (e : Endpoint) :
    c.url e = e.urlOf (c.rawUrl e.path) := rfl

theorem Endpoint.urlOf_withPath (e : Endpoint) (path raw : String) :
    Endpoint.urlOf { e with path } raw = e.urlOf raw := by
  simp only [Endpoint.urlOf]

/-- **Slashes at the joints do not matter.** The URL of a call and the error for one that cannot be
read stay the same if slashes are added or taken away where the parts meet, or if the scheme of the
host is written in other letters. The parts are joined by one slash each. -/
theorem slashes_at_joints (host basePath : String) (encoded : Option String) (e : Endpoint) :
    (∀ host' basePath' encoded' path', SameHost host host' → SameInside basePath basePath' →
      Option.Rel SameInside encoded encoded' → SameBehind e.path path' →
      (Channel.of host' basePath' encoded').url { e with path := path' } =
        (Channel.of host basePath encoded).url e) ∧
    ∃ raw, IsJoined host (encoded.getD basePath) e.path raw ∧
      (Channel.of host basePath encoded).url e = e.urlOf raw := by
  constructor
  · intro host' basePath' encoded' path' hhost hbase hencoded hpath
    have hinside : trimWhile (· == '/') (encoded.getD basePath) =
        trimWhile (· == '/') (encoded'.getD basePath') := by
      cases hencoded with
      | none => exact hbase.trim_eq
      | some h => exact h.trim_eq
    have hraw : (Channel.of host' basePath' encoded').rawUrl path' =
        (Channel.of host basePath encoded).rawUrl e.path :=
      Channel.rawUrl_congr (congrArg Prod.fst hhost.splitHost_eq).symm
        (congrArg Prod.snd hhost.splitHost_eq).symm hinside.symm hpath.trim_eq.symm
    calc (Channel.of host' basePath' encoded').url { e with path := path' }
        = Endpoint.urlOf { e with path := path' }
            ((Channel.of host' basePath' encoded').rawUrl path') := Channel.url_eq_urlOf _ _
      _ = e.urlOf ((Channel.of host basePath encoded).rawUrl e.path) := by
        rw [hraw, Endpoint.urlOf_withPath]
      _ = (Channel.of host basePath encoded).url e := (Channel.url_eq_urlOf _ _).symm
  · exact ⟨_, isJoined_rawUrl host basePath encoded e.path, Channel.url_eq_urlOf _ e⟩

/-- Behind a colon slashes matter: with two of them the text names a scheme. -/
example : Channel.splitHost "local:" = ("https", "local:") ∧
    Channel.splitHost "local://" = ("local", "") := by
  decide

end DeployService
