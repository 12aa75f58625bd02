import DeployService.Payload.Shape
import DeployService.Proofs.JsonReading

/-!
# Values of a shape read back

What a value of a shape is encoded as, is decoded to the value. The shape has to be sound for that
(`Shape.isSound`): the members of a record have different names, and no value but the absent one is
encoded as `null`. A member that is left out because it is empty takes its default again, since the
default of such a member is the empty value.

Only dictionaries put a condition on the values (`Shape.Regular`), and only they can make a document
deeper than their shape (`Shape.height?`).
-/

namespace DeployService.Payload

open DeployService.Json

/-! ## Sound shapes -/

/-- The names of the members of a record. -/
def Fields.names : Fields → List String
  | .nil => []
  | .cons name _ _ rest => name :: rest.names

/-- A value of the shape may be encoded as `null`. -/
def Shape.admitsNull : Shape → Bool
  | .optional _ => true
  | _ => false

mutual

/-- Different values of the shape have different encodings. -/
def Shape.isSound : Shape → Bool
  | .text => true
  | .flag => true
  | .integer64 => true
  | .integer32 => true
  | .optional s => !s.admitsNull && s.isSound
  | .list s => s.isSound
  | .dictionary => true
  | .record fs => fs.isSound

/-- The members have different names and sound shapes. -/
def Fields.isSound : Fields → Bool
  | .nil => true
  | .cons name _ s rest => !rest.names.contains name && s.isSound && rest.isSound

end

mutual

/-- The dictionaries in a value hold what a reader can come up with. -/
def Shape.Regular : (s : Shape) → s.Value → Prop
  | .text, _ => True
  | .flag, _ => True
  | .integer64, _ => True
  | .integer32, _ => True
  | .optional s, v => ∀ w, (v : Option s.Value) = some w → s.Regular w
  | .list s, v =>
    let items : List s.Value := v
    ∀ item ∈ items, s.Regular item
  | .dictionary, v => (Json.object v).Regular
  | .record fs, v => fs.Regular v

/-- The dictionaries in the members of a record hold what a reader can come up with. -/
def Fields.Regular : (fs : Fields) → fs.Values → Prop
  | .nil, _ => True
  | .cons _ _ s rest, (v, vs) => s.Regular v ∧ rest.Regular vs

end

mutual

/-- How many arrays and objects are open at once in a value of the shape at most, if the shape has a
bound for that. -/
def Shape.height? : Shape → Option Nat
  | .text => some 0
  | .flag => some 0
  | .integer64 => some 0
  | .integer32 => some 0
  | .optional s => s.height?
  | .list s => s.height?.map (· + 1)
  | .dictionary => none
  | .record fs => fs.height?.map (· + 1)

/-- The greatest height of the members of a record. -/
def Fields.height? : Fields → Option Nat
  | .nil => some 0
  | .cons _ _ s rest => s.height?.bind fun n => rest.height?.map (max n)

end

mutual

/-- A shape with a height has no dictionaries, and its values are not deeper. -/
theorem Shape.of_height? : (s : Shape) → {n : Nat} → s.height? = some n → (v : s.Value) →
    s.Regular v ∧ (s.encode v).depth ≤ n
  | .text, _, _, _ => ⟨trivial, Nat.zero_le _⟩
  | .flag, _, _, _ => ⟨trivial, Nat.zero_le _⟩
  | .integer64, _, _, _ => ⟨trivial, Nat.zero_le _⟩
  | .integer32, _, _, _ => ⟨trivial, Nat.zero_le _⟩
  | .optional s, n, h, none => ⟨fun w hw => (by cases hw), Nat.zero_le _⟩
  | .optional s, n, h, some v => by
    obtain ⟨hregular, hdepth⟩ := s.of_height? h v
    refine ⟨fun w hw => ?_, hdepth⟩
    cases hw
    exact hregular
  | .list s, n, h, items => by
    obtain ⟨k, hk, rfl⟩ := Option.map_eq_some_iff.mp h
    refine ⟨fun item _ => (s.of_height? hk item).1, Nat.succ_le_succ (depthOfItems_le.mpr ?_)⟩
    intro j hj
    obtain ⟨item, -, rfl⟩ := List.mem_map.mp hj
    exact (s.of_height? hk item).2
  | .record fs, n, h, vs => by
    obtain ⟨k, hk, rfl⟩ := Option.map_eq_some_iff.mp h
    obtain ⟨hregular, hdepth⟩ := fs.of_height? hk vs
    exact ⟨hregular, Nat.succ_le_succ (depthOfMembers_le.mpr hdepth)⟩

theorem Fields.of_height? : (fs : Fields) → {n : Nat} → fs.height? = some n → (vs : fs.Values) →
    fs.Regular vs ∧ ∀ m ∈ fs.encode vs, m.2.depth ≤ n
  | .nil, _, _, _ => ⟨trivial, by intro m hm; cases hm⟩
  | .cons name omitEmpty s rest, n, h, (v, vs) => by
    obtain ⟨k, hk, h⟩ := Option.bind_eq_some_iff.mp h
    obtain ⟨k', hk', rfl⟩ := Option.map_eq_some_iff.mp h
    obtain ⟨hregular, hdepth⟩ := s.of_height? hk v
    obtain ⟨hregulars, hdepths⟩ := rest.of_height? hk' vs
    refine ⟨⟨hregular, hregulars⟩, fun m hm => ?_⟩
    rw [Fields.encode] at hm
    split at hm
    · exact Nat.le_trans (hdepths m hm) (Nat.le_max_right k k')
    · rcases List.mem_cons.mp hm with rfl | hm
      · exact Nat.le_trans hdepth (Nat.le_max_left k k')
      · exact Nat.le_trans (hdepths m hm) (Nat.le_max_right k k')

end

/-! ## Encoding -/

mutual

theorem Shape.encode_floatFree : (s : Shape) → (v : s.Value) → s.Regular v →
    (s.encode v).FloatFree
  | .text, v, _ => .text v
  | .flag, v, _ => .bool v
  | .integer64, _, _ => .integer _
  | .integer32, _, _ => .integer _
  | .optional _, none, _ => .null
  | .optional s, some v, h => s.encode_floatFree v (h v rfl)
  | .list s, items, h => by
    refine .array fun j hj => ?_
    obtain ⟨item, hitem, rfl⟩ := List.mem_map.mp hj
    exact s.encode_floatFree item (h item hitem)
  | .dictionary, _, h => Json.Regular.floatFree h
  | .record fs, vs, h => .object (fs.encode_floatFree vs h)

theorem Fields.encode_floatFree : (fs : Fields) → (vs : fs.Values) → fs.Regular vs →
    ∀ m ∈ fs.encode vs, m.2.FloatFree
  | .nil, _, _ => by intro m hm; cases hm
  | .cons name omitEmpty s rest, (v, vs), ⟨hv, hvs⟩ => by
    intro m hm
    rw [Fields.encode] at hm
    split at hm
    · exact rest.encode_floatFree vs hvs m hm
    · rcases List.mem_cons.mp hm with rfl | hm
      · exact s.encode_floatFree v hv
      · exact rest.encode_floatFree vs hvs m hm

end

/-- What is left out is the default. -/
theorem Shape.eq_default_of_isEmpty : (s : Shape) → {v : s.Value} → s.isEmpty v = true →
    v = s.default
  | .optional _, _, h => Option.isNone_iff_eq_none.mp h
  | .list _, _, h => List.isEmpty_iff.mp h
  | .dictionary, _, h => List.isEmpty_iff.mp h

theorem Fields.name_mem_of_encode : (fs : Fields) → (vs : fs.Values) →
    ∀ m ∈ fs.encode vs, m.1 ∈ fs.names
  | .nil, _ => by intro m hm; cases hm
  | .cons name omitEmpty s rest, (v, vs) => by
    intro m hm
    rw [Fields.encode] at hm
    split at hm
    · exact List.mem_cons_of_mem _ (rest.name_mem_of_encode vs m hm)
    · rcases List.mem_cons.mp hm with rfl | hm
      · exact List.mem_cons_self
      · exact List.mem_cons_of_mem _ (rest.name_mem_of_encode vs m hm)

/-- Only the absent value is encoded as `null`. -/
theorem Shape.written_ne_null {s : Shape} (h : s.admitsNull = false) (v : s.Value) :
    (s.encode v).written ≠ .null := by
  cases s with
  | optional => cases h
  | _ => intro hnull; cases hnull

/-! ## Decoding -/

theorem mapM_map {α β : Type} {f : α → β} {g : β → Option α} {as : List α}
    (h : ∀ a ∈ as, g (f a) = some a) : (as.map f).mapM g = some as := by
  induction as with
  | nil => rfl
  | cons a as ih =>
    rw [List.map_cons, List.mapM_cons, h a List.mem_cons_self,
      ih fun a' ha' => h a' (List.mem_cons_of_mem _ ha')]
    rfl

theorem readInteger?_literal {low high n : Int} (hl : low ≤ n) (hh : n ≤ high)
    (hmin : minInteger ≤ low) (hmax : high ≤ maxInteger) :
    readInteger? low high (integerLiteral n) = some n := by
  have hvalue := integerLiteral_value (n := n) (by omega) (by omega)
  simp only [readInteger?, hvalue, hl, hh, and_self, if_true]

/-- The trees of the members of an object, with their names. -/
def writtenNamed (members : List (String × Json)) : List (String × Raw) :=
  members.map fun m => (m.1, m.2.written)

/-- The names of the members are decoded, whatever the members are. -/
theorem decodeNames?_written (members : List (String × Json)) :
    decodeNames? (writtenMembers members) = some (writtenNamed members) := by
  induction members with
  | nil => rfl
  | cons m members ih =>
    obtain ⟨name, value⟩ := m
    rw [writtenMembers, decodeNames?, decodeText?_spelling, ih]
    rfl

theorem membersNamed_append (name : String) (members members' : List (String × Raw)) :
    membersNamed name (members ++ members') =
      membersNamed name members ++ membersNamed name members' := by
  rw [membersNamed, List.filter_append, List.map_append]
  rfl

theorem membersNamed_of_not_mem {name : String} {members : List (String × Raw)}
    (h : ∀ m ∈ members, m.1 ≠ name) : membersNamed name members = [] := by
  rw [membersNamed, List.map_eq_nil_iff, List.filter_eq_nil_iff]
  intro m hm
  simpa using h m hm

theorem Fields.name_mem_of_written {fs : Fields} {vs : fs.Values} :
    ∀ m ∈ writtenNamed (fs.encode vs), m.1 ∈ fs.names := by
  intro m hm
  obtain ⟨m', hm', rfl⟩ := List.mem_map.mp hm
  exact fs.name_mem_of_encode vs m' hm'

/-- What a value is encoded as, is decoded to the value, unless the document is too deep. -/
def Shape.ReadsBack (s : Shape) (v : s.Value) : Prop :=
  ∀ n, (s.encode v).depth ≤ n → s.decode? n (s.encode v).written = some v

theorem Shape.text_readsBack (v : String) : Shape.text.ReadsBack v := by
  intro n _
  show decodeText? (spelling v) = some v
  exact decodeText?_spelling v

theorem Shape.integer64_readsBack (v : Int64) : Shape.integer64.ReadsBack v := by
  intro n _
  have hread := readInteger?_literal (Int64.minValue_le_toInt v) (Int64.toInt_le v)
    (by decide) (by decide)
  show (readInteger? _ _ (integerLiteral v.toInt)).map Int64.ofInt = some v
  rw [hread, Option.map_some, Int64.ofInt_toInt]

theorem Shape.integer32_readsBack (v : Int32) : Shape.integer32.ReadsBack v := by
  intro n _
  have hread := readInteger?_literal (Int32.minValue_le_toInt v) (Int32.toInt_le v)
    (by decide) (by decide)
  show (readInteger? _ _ (integerLiteral v.toInt)).map Int32.ofInt = some v
  rw [hread, Option.map_some, Int32.ofInt_toInt]

theorem Shape.some_readsBack {s : Shape} (hs : s.admitsNull = false) {v : s.Value}
    (h : s.ReadsBack v) : (Shape.optional s).ReadsBack (some v) := by
  intro n hd
  have hne : (s.encode v).written ≠ .null := Shape.written_ne_null hs v
  have hread := h n hd
  show (Shape.optional s).decode? n (s.encode v).written = some (some v)
  generalize (s.encode v).written = r at hne hread
  cases r with
  | null => exact absurd rfl hne
  | _ => exact congrArg (Option.map some) hread

theorem Shape.list_readsBack {s : Shape} {items : List s.Value}
    (h : ∀ item ∈ items, s.ReadsBack item) : (Shape.list s).ReadsBack items := by
  intro n hd
  have hencode : (Shape.list s).encode items = .array (items.map s.encode) := rfl
  rw [hencode] at hd ⊢
  rw [Json.depth] at hd
  obtain ⟨n, rfl⟩ : ∃ k, n = k + 1 := ⟨n - 1, by omega⟩
  have hdepth := depthOfItems_le.mp (Nat.le_of_succ_le_succ hd)
  have hread := mapM_map (f := fun item => (s.encode item).written) (g := s.decode? n)
    fun item hitem => h item hitem n (hdepth _ (List.mem_map_of_mem hitem))
  rw [Json.written, writtenItems_eq, List.map_map]
  exact hread

theorem Shape.dictionary_readsBack {members : List (String × Json)}
    (h : (Json.object members).Regular) : Shape.dictionary.ReadsBack members := by
  intro n hd
  have hencode : Shape.dictionary.encode members = .object members := rfl
  rw [hencode] at hd ⊢
  have hread := h.ofRaw?_written hd
  rw [Json.depth] at hd
  obtain ⟨n, rfl⟩ : ∃ k, n = k + 1 := ⟨n - 1, by omega⟩
  rw [Json.written] at hread ⊢
  -- a dictionary is read as any other object is
  obtain ⟨ms, hms, hobject⟩ := Option.map_eq_some_iff.mp (show
    (ofMembers? n (writtenMembers members)).map (fun ms => Json.object (sortMembers ms)) =
      some (.object members) from hread)
  show (ofMembers? n (writtenMembers members)).map sortMembers = some members
  rw [hms, Option.map_some, Json.object.inj hobject]

theorem Shape.record_readsBack {fs : Fields} {vs : fs.Values}
    (h : ∀ n, (∀ m ∈ fs.encode vs, m.2.depth ≤ n) →
      fs.decodeMembers? n (writtenNamed (fs.encode vs)) = some vs) :
    (Shape.record fs).ReadsBack vs := by
  intro n hd
  have hencode : (Shape.record fs).encode vs = .object (fs.encode vs) := rfl
  rw [hencode] at hd ⊢
  rw [Json.depth] at hd
  obtain ⟨n, rfl⟩ : ∃ k, n = k + 1 := ⟨n - 1, by omega⟩
  have hread := h n (depthOfMembers_le.mp (Nat.le_of_succ_le_succ hd))
  rw [Json.written]
  show (decodeNames? (writtenMembers (fs.encode vs))).bind (fs.decodeMembers? n) = some vs
  rw [decodeNames?_written, Option.bind_some, hread]

mutual

/-- Every regular value of a sound shape is read back. -/
theorem Shape.readsBack : (s : Shape) → s.isSound = true → (v : s.Value) → s.Regular v →
    s.ReadsBack v
  | .text, _, v, _ => Shape.text_readsBack v
  | .flag, _, _, _ => fun _ _ => rfl
  | .integer64, _, v, _ => Shape.integer64_readsBack v
  | .integer32, _, v, _ => Shape.integer32_readsBack v
  | .optional _, _, none, _ => fun _ _ => rfl
  | .optional s, hs, some v, hv => by
    rw [Shape.isSound, Bool.and_eq_true] at hs
    exact Shape.some_readsBack (by simpa using hs.1) (s.readsBack hs.2 v (hv v rfl))
  | .list s, hs, items, hv =>
    Shape.list_readsBack fun item hitem => s.readsBack hs item (hv item hitem)
  | .dictionary, _, _, hv => Shape.dictionary_readsBack hv
  | .record fs, hs, vs, hv => Shape.record_readsBack fun _ hd => by
    have hread := fs.decodeMembers?_written hs vs hv hd [] (by simp)
    rwa [List.nil_append] at hread

/-- The members of a record are found among members with other names. -/
theorem Fields.decodeMembers?_written : (fs : Fields) → fs.isSound = true → (vs : fs.Values) →
    fs.Regular vs → {n : Nat} → (∀ m ∈ fs.encode vs, m.2.depth ≤ n) →
    (others : List (String × Raw)) → (∀ m ∈ others, m.1 ∉ fs.names) →
    fs.decodeMembers? n (others ++ writtenNamed (fs.encode vs)) = some vs
  | .nil, _, (), _, n, _, others, _ => by rw [Fields.decodeMembers?]
  | .cons name omitEmpty s rest, hs, (v, vs), ⟨hv, hvs⟩, n, hd, others, hothers => by
    rw [Fields.isSound, Bool.and_eq_true, Bool.and_eq_true] at hs
    obtain ⟨⟨hname, hshape⟩, hrest⟩ := hs
    have hfresh : name ∉ rest.names := by simpa using hname
    have hothers' : ∀ m ∈ others, m.1 ∉ rest.names :=
      fun m hm hn => hothers m hm (List.mem_cons_of_mem _ hn)
    have hnone : membersNamed name others = [] :=
      membersNamed_of_not_mem fun m hm he => hothers m hm (he ▸ List.mem_cons_self)
    have hlater : membersNamed name (writtenNamed (rest.encode vs)) = [] :=
      membersNamed_of_not_mem fun m hm he => hfresh (he ▸ Fields.name_mem_of_written m hm)
    rw [Fields.decodeMembers?]
    cases hout : omitEmpty && s.isEmpty v with
    | true =>
      have hencode : (Fields.cons name omitEmpty s rest).encode (v, vs) = rest.encode vs := by
        rw [Fields.encode, hout, if_pos rfl]
      rw [hencode] at hd ⊢
      have hdefault : v = s.default :=
        s.eq_default_of_isEmpty (Bool.and_eq_true _ _ ▸ hout).2
      rw [membersNamed_append, hnone, hlater,
        rest.decodeMembers?_written hrest vs hvs hd others hothers', hdefault]
      rfl
    | false =>
      have hencode : (Fields.cons name omitEmpty s rest).encode (v, vs) =
          (name, s.encode v) :: rest.encode vs := by
        rw [Fields.encode, hout, if_neg Bool.false_ne_true]
      rw [hencode] at hd ⊢
      have hwritten : writtenNamed ((name, s.encode v) :: rest.encode vs) =
          [(name, (s.encode v).written)] ++ writtenNamed (rest.encode vs) := rfl
      have hown : membersNamed name [(name, (s.encode v).written)] = [(s.encode v).written] := by
        simp [membersNamed]
      have hmember := s.readsBack hshape v hv n (hd _ List.mem_cons_self)
      have hbefore : ∀ m ∈ others ++ [(name, (s.encode v).written)], m.1 ∉ rest.names := by
        intro m hm
        rcases List.mem_append.mp hm with hm | hm
        · exact hothers' m hm
        · rw [List.mem_singleton.mp hm]
          exact hfresh
      have hmembers := rest.decodeMembers?_written hrest vs hvs
        (fun m hm => hd m (List.mem_cons_of_mem _ hm)) _ hbefore
      rw [List.append_assoc] at hmembers
      rw [hwritten, membersNamed_append, membersNamed_append, hnone, hown, hlater, hmembers]
      simp only [List.nil_append, List.append_nil, hmember]
      rfl

end

end DeployService.Payload
