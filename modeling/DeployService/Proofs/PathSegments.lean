import DeployService.Channel.Basic
import DeployService.Proofs.HostUrl

/-!
# Segments of a path

A path is written as a slash before each of its encoded segments (`pathChars`). What is read of it
are its segments again, with those of dots resolved (`resolved`); and before that, where a base path
and a path meet, the empty segments at the joint are lost with the slashes around them (`kept`). So
a path keeps all of its segments exactly if there are no dots and nothing is empty at the joint
(`resolved_kept_iff`).
-/

namespace DeployService.Url

open DeployService.Text

/-! ## Slashes -/

/-- Pieces with a slash before each of them. -/
def slashed (pieces : List (List Char)) : List Char := pieces.flatMap ('/' :: ·)

theorem splitChars_slashed {piece : List Char} {pieces : List (List Char)} (h : '/' ∉ piece)
    (hs : ∀ piece ∈ pieces, '/' ∉ piece) :
    splitChars '/' (piece ++ slashed pieces) = piece :: pieces := by
  induction pieces generalizing piece with
  | nil => simpa [slashed] using splitChars_of_not_mem h
  | cons next pieces ih =>
    have hnext := ih (hs next (by simp)) fun p hp => hs p (List.mem_cons_of_mem _ hp)
    rw [slashed, List.flatMap_cons, List.cons_append, splitChars_append h]
    exact congrArg _ hnext

/-! ## Writing and reading a path -/

/-- The characters of an encoded segment. -/
def segmentChars (segment : String) : List Char := argumentChars segment.toList

/-- A path: a slash before each encoded segment. -/
def pathChars (segments : List String) : List Char := slashed (segments.map segmentChars)

@[simp] theorem pathChars_nil : pathChars [] = [] := rfl

@[simp] theorem pathChars_cons (segment : String) (segments : List String) :
    pathChars (segment :: segments) = '/' :: (segmentChars segment ++ pathChars segments) := by
  simp [pathChars, slashed]

@[simp] theorem pathChars_append (segments more : List String) :
    pathChars (segments ++ more) = pathChars segments ++ pathChars more := by
  simp [pathChars, slashed]

theorem segmentChars_inert {segment : String} {c : Char} (h : c ∈ segmentChars segment) :
    isInert c = true := argumentChars_inert h

theorem slash_not_mem_segmentChars (segment : String) : '/' ∉ segmentChars segment := fun h =>
  absurd (segmentChars_inert h) (by decide)

theorem segmentChars_eq_nil_iff (segment : String) : segmentChars segment = [] ↔ segment = "" := by
  constructor
  · intro h
    have hdecode := percentDecode_argumentChars segment.toList
    rw [show argumentChars segment.toList = [] from h] at hdecode
    exact Utf8.encode_injective (s := segment) (t := "") hdecode.symm
  · rintro rfl
    rfl

theorem pathChars_plain (segments : List String) : IsPlainPath (pathChars segments) := by
  induction segments with
  | nil => simp [IsPlainPath]
  | cons segment segments ih =>
    intro c hc
    rw [pathChars_cons, List.mem_cons, List.mem_append] at hc
    rcases hc with rfl | hc | hc
    · exact .inl rfl
    · exact .inr (segmentChars_inert hc)
    · exact ih c hc

/-- The segments of a path after the ones in `done`, with those of dots resolved. -/
def resolved (done : List String) : List String → List String
  | [] => done
  | [last] =>
    if last = ".." then done.dropLast ++ [""]
    else if last = "." then done ++ [""]
    else done ++ [last]
  | segment :: rest =>
    if segment = ".." then resolved done.dropLast rest
    else if segment = "." then resolved done rest
    else resolved (done ++ [segment]) rest

theorem pushSegment_segmentChars (done : List (List Char)) (segment : String) :
    pushSegment .special done (segmentChars segment) = done ++ [segmentChars segment] := by
  have hinert : encodeWith inPath (segmentChars segment) = segmentChars segment :=
    encodeWith_inPath_of_inert fun _ => segmentChars_inert
  simp [pushSegment, hinert]

theorem shorten_special (done : List (List Char)) : shorten .special done = done.dropLast := by
  cases done <;> rfl

/-- The dots in an encoded path are the dots among its segments. -/
theorem resolveDots_segmentChars (done segments : List String) :
    resolveDots .special (done.map segmentChars) (segments.map segmentChars) =
      (resolved done segments).map segmentChars := by
  have hsingle (s : String) : isSingleDot (segmentChars s) = true ↔ s = "." :=
    isSingleDot_encodeArgument s
  have hdouble (s : String) : isDoubleDot (segmentChars s) = true ↔ s = ".." :=
    isDoubleDot_encodeArgument s
  have hempty : segmentChars "" = [] := rfl
  fun_induction resolved done segments with
  | case1 done => rfl
  | case2 done => simp [resolveDots, hdouble, shorten_special, List.map_dropLast, hempty]
  | case3 done _ => simp [resolveDots, hdouble, hsingle, hempty]
  | case4 done last h₁ h₂ =>
    simp [resolveDots, hdouble, hsingle, h₁, h₂, pushSegment_segmentChars]
  | case5 done rest hr ih =>
    rw [List.map_cons, resolveDots]
    · simp [hdouble, shorten_special, ← List.map_dropLast, ih]
    · simpa using hr
  | case6 done rest hr _ ih =>
    rw [List.map_cons, resolveDots]
    · simp [hdouble, hsingle, ih]
    · simpa using hr
  | case7 done segment rest hr h₁ h₂ ih =>
    rw [List.map_cons, resolveDots]
    · simpa [hdouble, hsingle, h₁, h₂, pushSegment_segmentChars] using ih
    · simpa using hr

theorem readPath_pathChars (segment : String) (segments : List String) :
    readPath .special (pathChars (segment :: segments)) =
      (resolved [] (segment :: segments)).map encodeArgument := by
  have hno : ∀ c ∈ segmentChars segment ++ pathChars segments, (c = '\\') = False := by
    intro c hc
    have hplain := pathChars_plain (segment :: segments) c (by simp [List.mem_append.mp hc])
    rw [eq_iff_iff, iff_false]
    rintro rfl
    rcases hplain with h | h
    · cases h
    · exact absurd h (by decide)
  have hmap : (segmentChars segment ++ pathChars segments).map
      (fun c => if c = '\\' then '/' else c) = segmentChars segment ++ pathChars segments := by
    conv_rhs => rw [← List.map_id (segmentChars segment ++ pathChars segments)]
    refine List.map_congr_left fun c hc => ?_
    simp [hno c hc]
  have hpieces : pathPieces .special (segmentChars segment ++ pathChars segments) =
      (segment :: segments).map segmentChars := by
    have hkind : Kind.special.isSpecial = true := rfl
    rw [pathPieces, if_pos hkind, hmap, List.map_cons]
    refine splitChars_slashed (slash_not_mem_segmentChars segment) fun piece hp => ?_
    obtain ⟨s, -, rfl⟩ := List.mem_map.mp hp
    exact slash_not_mem_segmentChars s
  have hresolve := resolveDots_segmentChars [] (segment :: segments)
  rw [List.map_nil] at hresolve
  simp only [pathChars_cons, readPath, true_or, if_true, hpieces, hresolve, reduceCtorEq, if_false,
    List.map_map]
  rfl

/-! ## What is seen in a URL -/

/-- The segments of the path of a URL, each of them decoded. -/
def segmentTexts (url : Url) : List (Option String) :=
  ((splitChars '/' url.path.text.toList).drop 1).map fun piece => Utf8.decode? (percentDecode piece)

theorem text_segments (segments : List String) :
    (Path.segments (segments.map encodeArgument)).text.toList = pathChars segments := by
  induction segments with
  | nil => rfl
  | cons segment segments ih =>
    have hcons : (Path.segments ((segment :: segments).map encodeArgument)).text =
        "/" ++ encodeArgument segment ++ (Path.segments (segments.map encodeArgument)).text := by
      simp [Path.text]
    rw [hcons]
    simp [ih, encodeArgument, segmentChars]

/-- What stands in a URL between its slashes decodes to the segments that were encoded. -/
theorem segmentTexts_encoded {url : Url} {segments : List String}
    (h : url.path = .segments (segments.map encodeArgument)) :
    segmentTexts url = segments.map some := by
  have hdecode (s : String) : Utf8.decode? (percentDecode (segmentChars s)) = some s := by
    rw [segmentChars, percentDecode_argumentChars]
    exact Utf8.decode?_encode s
  have hsplit : splitChars '/' (pathChars segments) = [] :: segments.map segmentChars :=
    splitChars_slashed List.not_mem_nil fun piece hp => by
      obtain ⟨s, -, rfl⟩ := List.mem_map.mp hp
      exact slash_not_mem_segmentChars s
  rw [segmentTexts, h, text_segments, hsplit, List.drop_one, List.tail_cons, List.map_map]
  exact List.map_congr_left fun s _ => hdecode s

@[simp] theorem appendPairs_path (url : Url) (pairs : List (String × String)) :
    (url.appendPairs pairs).path = url.path := by
  unfold appendPairs
  split
  · rfl
  · split <;> rfl

/-! ## The joint of two paths -/

/-- The segments of a base path and a path that are left where the two meet. -/
def kept (base path : List String) : List String :=
  base.rdropWhile (· = "") ++ path.dropWhile (· = "")

theorem head?_segmentChars {segment : String} (h : segment ≠ "") (rest : List Char) :
    ∀ c ∈ (segmentChars segment ++ rest).head?, c ≠ '/' := by
  intro c hc
  have hne : segmentChars segment ≠ [] := fun h' => h ((segmentChars_eq_nil_iff segment).mp h')
  rw [List.head?_append_of_ne_nil _ hne] at hc
  rintro rfl
  exact slash_not_mem_segmentChars segment (List.mem_of_mem_head? hc)

/-- Slashes at the start of a path go together with the empty segments behind them. -/
theorem dropWhile_pathChars (path : List String) :
    (pathChars path).dropWhile (· == '/') = (pathChars (path.dropWhile (· = ""))).drop 1 := by
  induction path with
  | nil => rfl
  | cons segment path ih =>
    by_cases h : segment = ""
    · subst h
      rw [List.dropWhile_cons_of_pos (by simp), ← ih, pathChars_cons,
        List.dropWhile_cons_of_pos (by simp)]
      rfl
    · rw [List.dropWhile_cons_of_neg (p := (· = "")) (by simpa using h), pathChars_cons,
        List.dropWhile_cons_of_pos (by simp), List.drop_one, List.tail_cons]
      exact dropWhile_of_head fun c hc => by simpa using head?_segmentChars h _ c hc

/-- Slashes at the end of a path go together with the empty segments before them. -/
theorem rdropWhile_pathChars {start : List Char} (hs : '/' ∉ start) (path : List String) :
    (start ++ pathChars path).rdropWhile (· == '/') =
      start ++ pathChars (path.rdropWhile (· = "")) := by
  have hstop {before : List Char} {c : Char} (hc : c ≠ '/') :
      (before ++ [c]).rdropWhile (· == '/') = before ++ [c] :=
    List.rdropWhile_concat_neg _ _ _ (by simpa using hc)
  induction path using List.reverseRecOn with
  | nil =>
    rcases List.eq_nil_or_concat start with rfl | ⟨before, c, rfl⟩
    · rfl
    · rw [List.concat_eq_append] at hs ⊢
      simp only [pathChars_nil, List.append_nil, List.rdropWhile_nil]
      exact hstop fun h => hs (by simp [h])
  | append_singleton path segment ih =>
    by_cases h : segment = ""
    · subst h
      have hchars : start ++ pathChars (path ++ [""]) = (start ++ pathChars path) ++ ['/'] := by
        simp [show segmentChars "" = [] from rfl]
      rw [hchars, List.rdropWhile_concat_pos _ _ _ (by simp), ih,
        List.rdropWhile_concat_pos _ _ _ (by simp)]
    · rw [List.rdropWhile_concat_neg (p := (· = "")) _ _ (by simpa using h)]
      rcases List.eq_nil_or_concat (segmentChars segment) with hnil | ⟨before, c, hc⟩
      · exact absurd ((segmentChars_eq_nil_iff segment).mp hnil) h
      · have hchars : start ++ pathChars (path ++ [segment]) =
            (start ++ pathChars path ++ '/' :: before) ++ [c] := by
          simp [hc]
        rw [hchars]
        exact hstop fun h => slash_not_mem_segmentChars segment (by simp [hc, h])

theorem rdropWhile_cons_of_ne {first : String} (h : first ≠ "") (rest : List String) :
    (first :: rest).rdropWhile (· = "") = first :: rest.rdropWhile (· = "") := by
  induction rest using List.reverseRecOn with
  | nil => exact List.rdropWhile_concat_neg (p := (· = "")) [] first (by simpa using h)
  | append_singleton rest last ih =>
    rw [← List.cons_append]
    by_cases hl : last = ""
    · rw [List.rdropWhile_concat_pos _ _ _ (by simpa using hl),
        List.rdropWhile_concat_pos _ _ _ (by simpa using hl), ih]
    · rw [List.rdropWhile_concat_neg _ _ _ (by simpa using hl),
        List.rdropWhile_concat_neg _ _ _ (by simpa using hl), List.cons_append]

/-! ## When a path keeps its segments -/

theorem length_resolved_le (done segments : List String) :
    (resolved done segments).length ≤ done.length + segments.length := by
  fun_induction resolved done segments <;> simp_all <;> omega

theorem resolved_eq_iff (done segments : List String) :
    resolved done segments = done ++ segments ↔ ∀ s ∈ segments, s ≠ "." ∧ s ≠ ".." := by
  fun_induction resolved done segments with
  | case1 done => simp
  | case2 done =>
    refine iff_of_false (fun h => ?_) (fun h => (h ".." (by simp)).2 rfl)
    exact absurd (List.append_inj' h rfl).2 (by decide)
  | case3 done _ =>
    refine iff_of_false (fun h => ?_) (fun h => (h "." (by simp)).1 rfl)
    exact absurd (List.append_inj' h rfl).2 (by decide)
  | case4 done last h₁ h₂ => simp [h₁, h₂]
  | case5 done rest hr ih =>
    refine iff_of_false (fun h => ?_) (fun h => (h ".." (by simp)).2 rfl)
    -- nothing that follows makes up for the segments that are gone
    have hlen := length_resolved_le done.dropLast rest
    rw [h] at hlen
    simp only [List.length_append, List.length_cons, List.length_dropLast] at hlen
    omega
  | case6 done rest hr _ ih =>
    refine iff_of_false (fun h => ?_) (fun h => (h "." (by simp)).1 rfl)
    have hlen := length_resolved_le done rest
    rw [h] at hlen
    simp only [List.length_append, List.length_cons] at hlen
    omega
  | case7 done segment rest hr h₁ h₂ ih => simpa [h₁, h₂] using ih

theorem rdropWhile_eq_self_iff (base : List String) :
    base.rdropWhile (· = "") = base ↔ base.getLast? ≠ some "" := by
  rw [List.rdropWhile_eq_self_iff]
  rcases List.eq_nil_or_concat base with rfl | ⟨before, last, rfl⟩ <;> simp

theorem dropWhile_eq_self_iff (path : List String) :
    path.dropWhile (· = "") = path ↔ path.head? ≠ some "" := by
  rw [List.dropWhile_eq_self_iff]
  cases path <;> simp

theorem kept_eq_append {base path : List String} (hb : base.getLast? ≠ some "")
    (hp : path.head? ≠ some "") : kept base path = base ++ path := by
  rw [kept, (rdropWhile_eq_self_iff base).mpr hb, (dropWhile_eq_self_iff path).mpr hp]

/-- Segments are left out where a base path and a path meet, unless none of them is empty there. -/
theorem ends_of_length_kept {base path : List String}
    (h : base.length + path.length ≤ (kept base path).length) :
    base.getLast? ≠ some "" ∧ path.head? ≠ some "" := by
  have hb := List.rdropWhile_prefix (p := (· = "")) (l := base)
  have hp := List.dropWhile_suffix (p := (· = "")) (l := path)
  have hbl := hb.length_le
  have hpl := hp.length_le
  rw [kept, List.length_append] at h
  rw [← rdropWhile_eq_self_iff, ← dropWhile_eq_self_iff]
  exact ⟨hb.eq_of_length (by omega), hp.eq_of_length (by omega)⟩

/-- A base path and a path keep all of their segments exactly if none of them is made of dots, and
neither the last one of the base path nor the first one of the path is empty. -/
theorem resolved_kept_iff (base path : List String) :
    resolved [] (kept base path) = base ++ path ↔
      (∀ s ∈ base ++ path, s ≠ "." ∧ s ≠ "..") ∧ base.getLast? ≠ some "" ∧
        path.head? ≠ some "" := by
  constructor
  · intro h
    have hlen := length_resolved_le [] (kept base path)
    rw [h, List.length_append, List.length_nil, Nat.zero_add] at hlen
    obtain ⟨hb, hp⟩ := ends_of_length_kept hlen
    rw [kept_eq_append hb hp] at h
    exact ⟨(resolved_eq_iff [] (base ++ path)).mp h, hb, hp⟩
  · rintro ⟨hdots, hb, hp⟩
    rw [kept_eq_append hb hp]
    exact (resolved_eq_iff [] (base ++ path)).mpr hdots

end DeployService.Url
