import DeployService.Proofs.JsonGrammar

/-!
# JSON values read back

A value is printed as a document of which the reader makes the tree `Json.written`, and the tree
denotes the value again. The first part holds for every value without floating-point numbers. For
the second part the value must be one that a reader can come up with (`Json.Regular`): its integers
have at most 64 bits, and the members of its objects are sorted by name.

What a value is printed as is a form of its tree (`Json.FloatFree.isForm`), and every form is read.
-/

namespace DeployService.Json

open DeployService.Text Raw Text.Utf8

/-! ## Values -/

/-- A value without floating-point numbers. -/
inductive FloatFree : Json → Prop where
  | null : FloatFree .null
  | bool (b : Bool) : FloatFree (.bool b)
  | integer (n : Int) : FloatFree (.integer n)
  | text (s : String) : FloatFree (.text s)
  | array {items : List Json} (h : ∀ item ∈ items, FloatFree item) : FloatFree (.array items)
  | object {members : List (String × Json)} (h : ∀ m ∈ members, FloatFree m.2) :
    FloatFree (.object members)

/-- The members are sorted by name, and each name occurs once. -/
def Sorted {α : Type} (members : List (String × α)) : Prop :=
  (members.map (·.1)).Pairwise (· < ·)

instance {α : Type} (members : List (String × α)) : Decidable (Sorted members) :=
  inferInstanceAs (Decidable ((members.map (·.1)).Pairwise (· < ·)))

/-- A value without floating-point numbers as a reader makes it. -/
inductive Regular : Json → Prop where
  | null : Regular .null
  | bool (b : Bool) : Regular (.bool b)
  | integer {n : Int} (hl : minInteger ≤ n) (hh : n ≤ maxInteger) : Regular (.integer n)
  | text (s : String) : Regular (.text s)
  | array {items : List Json} (h : ∀ item ∈ items, Regular item) : Regular (.array items)
  | object {members : List (String × Json)} (hs : Sorted members)
    (h : ∀ m ∈ members, Regular m.2) : Regular (.object members)

theorem Regular.floatFree {j : Json} (h : j.Regular) : j.FloatFree := by
  induction h with
  | null => exact .null
  | bool b => exact .bool b
  | integer => exact .integer _
  | text s => exact .text s
  | array _ ih => exact .array ih
  | object _ _ ih => exact .object ih

mutual

/-- How many arrays and objects are open at once in a value. -/
def depth : Json → Nat
  | .array items => depthOfItems items + 1
  | .object members => depthOfMembers members + 1
  | _ => 0

/-- The greatest depth of the elements of an array. -/
def depthOfItems : List Json → Nat
  | [] => 0
  | item :: rest => max item.depth (depthOfItems rest)

/-- The greatest depth of the members of an object. -/
def depthOfMembers : List (String × Json) → Nat
  | [] => 0
  | (_, value) :: rest => max value.depth (depthOfMembers rest)

end

theorem depthOfItems_le {items : List Json} {n : Nat} :
    depthOfItems items ≤ n ↔ ∀ item ∈ items, item.depth ≤ n := by
  induction items with
  | nil => simp [depthOfItems]
  | cons item items ih => rw [depthOfItems, Nat.max_le, ih, List.forall_mem_cons]

theorem depthOfMembers_le {members : List (String × Json)} {n : Nat} :
    depthOfMembers members ≤ n ↔ ∀ m ∈ members, m.2.depth ≤ n := by
  induction members with
  | nil => simp [depthOfMembers]
  | cons m members ih => rw [depthOfMembers, Nat.max_le, ih, List.forall_mem_cons]

/-! ## The tree of a value -/

mutual

/-- The tree that is read from what a value is printed as. -/
def written : Json → Raw
  | .null => .null
  | .bool b => .bool b
  | .integer n => .number (integerLiteral n)
  | .float x => (read? (encodeChars (printFloat x))).getD .null
  | .text s => .text (spelling s)
  | .array items => .array (writtenItems items)
  | .object members => .object (writtenMembers members)

/-- The trees of the elements of an array. -/
def writtenItems : List Json → List Raw
  | [] => []
  | item :: rest => item.written :: writtenItems rest

/-- The members of an object, with their names as they are printed. -/
def writtenMembers : List (String × Json) → List (List UInt8 × Raw)
  | [] => []
  | (name, value) :: rest => (spelling name, value.written) :: writtenMembers rest

end

theorem writtenItems_eq (items : List Json) : writtenItems items = items.map written := by
  induction items with
  | nil => rfl
  | cons item items ih => rw [writtenItems, ih, List.map_cons]

/-- The bytes that a value is printed as. -/
def bytes (j : Json) : List UInt8 := encodeChars j.print

theorem bytes_text (s : String) : bytes (.text s) = 0x22 :: (spelling s ++ [0x22]) := by
  rw [bytes, print, encodeChars_printText]

theorem bytes_array (item : Json) (items : List Json) :
    bytes (.array (item :: items)) = 0x5B :: (bytes item ++ encodeChars (printItems items)) := by
  rw [bytes, print, List.cons_append, encodeChars_cons, encodeChars_append]
  rfl

theorem bytes_object (name : String) (value : Json) (members : List (String × Json)) :
    bytes (.object ((name, value) :: members)) =
      0x7B :: 0x22 :: (spelling name ++
        0x22 :: 0x3A :: (bytes value ++ encodeChars (printMembers members))) := by
  rw [bytes, print]
  simp only [List.cons_append, encodeChars_cons, encodeChars_append, encodeChars_printText,
    List.append_assoc]
  rfl

theorem encodeChars_printItems (item : Json) (items : List Json) :
    encodeChars (printItems (item :: items)) =
      0x2C :: (bytes item ++ encodeChars (printItems items)) := by
  rw [printItems, List.cons_append, encodeChars_cons, encodeChars_append]
  rfl

theorem encodeChars_printMembers (name : String) (value : Json) (members : List (String × Json)) :
    encodeChars (printMembers ((name, value) :: members)) =
      0x2C :: 0x22 :: (spelling name ++
        0x22 :: 0x3A :: (bytes value ++ encodeChars (printMembers members))) := by
  rw [printMembers]
  simp only [List.cons_append, encodeChars_cons, encodeChars_append, encodeChars_printText,
    List.append_assoc]
  rfl

/-! ## Printed values are forms -/

theorem isNumber_showInt (n : Int) :
    IsNumber (integerLiteral n) (encodeChars (showInt n).toList) := by
  obtain ⟨d, ds, hdigits, hne, hzero⟩ := decimalDigits_head n.natAbs
  have hdigit : AreDigits (decimalDigits n.natAbs) :=
    ⟨by rw [hdigits]; exact List.cons_ne_nil d ds, decimalDigits_lt n.natAbs⟩
  have hhead : (decimalDigits n.natAbs).head? = some 0 → decimalDigits n.natAbs = [0] := by
    intro hd
    rw [hdigits] at hd
    cases hd
    by_cases hn : n.natAbs = 0
    · rw [hdigits, hzero hn]
    · exact absurd rfl (hne (by omega))
  have hform := IsNumber.mk (decide (n < 0)) hdigit hhead .none .none
  rw [encodeChars_showInt, integerLiteral]
  simpa only [List.append_nil, decide_eq_true_eq] using hform

theorem quotable_spelling (s : String) : Quotable (spelling s) :=
  (quotable_of_readText? (readText?_spelling s [])).1

theorem areElements_printItems {items : List Json} {item : Json}
    (h : ∀ i ∈ item :: items, IsForm i.written (bytes i)) :
    ∃ t, bytes item ++ encodeChars (printItems items) = t ++ [0x5D] ∧
      AreElements (writtenItems (item :: items)) t := by
  have hitem : IsElement item.written (bytes item) := .bare (h item List.mem_cons_self)
  induction items generalizing item with
  | nil => exact ⟨bytes item, rfl, .last hitem⟩
  | cons next items ih =>
    have hnext := h next (by simp)
    obtain ⟨t, ht, hmore⟩ := ih (fun i hi => h i (List.mem_cons_of_mem _ hi)) (.bare hnext)
    refine ⟨bytes item ++ 0x2C :: t, ?_, .more hitem hmore⟩
    rw [encodeChars_printItems, ht, List.append_assoc]
    rfl

/-- A member as it is printed. -/
def printedMember (name : String) (value : Json) : List UInt8 :=
  0x22 :: (spelling name ++ 0x22 :: 0x3A :: bytes value)

theorem isMember_printedMember (name : String) {value : Json}
    (h : IsForm value.written (bytes value)) :
    IsMember (spelling name, value.written) (printedMember name value) :=
  .mk .nil (quotable_spelling name) .nil (.bare h)

theorem areMembers_printMembers {members : List (String × Json)} {name : String} {value : Json}
    (h : ∀ m ∈ (name, value) :: members, IsForm m.2.written (bytes m.2)) :
    ∃ t, printedMember name value ++ encodeChars (printMembers members) = t ++ [0x7D] ∧
      AreMembers (writtenMembers ((name, value) :: members)) t := by
  have hmember := isMember_printedMember name (h _ List.mem_cons_self)
  induction members generalizing name value with
  | nil => exact ⟨printedMember name value, rfl, .last hmember⟩
  | cons next members ih =>
    obtain ⟨nextName, nextValue⟩ := next
    have hnext := isMember_printedMember nextName (h (nextName, nextValue) (by simp))
    obtain ⟨t, ht, hmore⟩ := ih (fun m hm => h m (List.mem_cons_of_mem _ hm)) hnext
    refine ⟨printedMember name value ++ 0x2C :: t, ?_, .more hmember hmore⟩
    rw [List.append_assoc, List.cons_append, ← ht, encodeChars_printMembers, printedMember,
      printedMember]
    simp only [List.cons_append, List.append_assoc]

/-- A value without floating-point numbers is printed as a form of its tree. -/
theorem FloatFree.isForm {j : Json} (h : j.FloatFree) : IsForm j.written (bytes j) := by
  induction h with
  | null => exact .null
  | bool b =>
    cases b with
    | true => exact .yes
    | false => exact .no
  | integer n => exact .number (isNumber_showInt n)
  | text s =>
    rw [bytes_text]
    exact .text (quotable_spelling s)
  | @array items _ ih =>
    cases items with
    | nil => exact .noElements .nil
    | cons item items =>
      obtain ⟨t, ht, helements⟩ := areElements_printItems ih
      rw [bytes_array, ht]
      exact .array helements
  | @object members _ ih =>
    cases members with
    | nil => exact .noMembers .nil
    | cons m members =>
      obtain ⟨name, value⟩ := m
      obtain ⟨t, ht, hmembers⟩ := areMembers_printMembers ih
      have hbytes : bytes (.object ((name, value) :: members)) =
          0x7B :: (printedMember name value ++ encodeChars (printMembers members)) := by
        rw [bytes_object, printedMember]
        simp only [List.cons_append, List.append_assoc]
      rw [hbytes, ht]
      exact .object hmembers

/-- The document that a value is printed as, is well-formed. -/
theorem read?_bytes {j : Json} (h : j.FloatFree) : read? (bytes j) = some j.written :=
  read?_eq_some_iff.mpr (.bare h.isForm)

/-! ## The value of a tree -/

theorem insertMember_last {α : Type} {name : String} {value : α} {members : List (String × α)}
    (h : ∀ m ∈ members, m.1 < name) :
    insertMember name value members = members ++ [(name, value)] := by
  induction members with
  | nil => rfl
  | cons m members ih =>
    obtain ⟨n, v⟩ := m
    have hless : n < name := h (n, v) List.mem_cons_self
    have hne : ¬name = n := by
      rintro rfl
      exact String.lt_irrefl _ hless
    rw [insertMember, if_neg (String.lt_asymm hless), if_neg hne,
      ih fun m hm => h m (List.mem_cons_of_mem _ hm)]
    rfl

/-- What is sorted already stays as it is, one member after the other. -/
theorem foldl_insertMember {α : Type} (after before : List (String × α))
    (h : Sorted (before ++ after)) :
    after.foldl (fun sorted m => insertMember m.1 m.2 sorted) before = before ++ after := by
  induction after generalizing before with
  | nil => simp
  | cons m after ih =>
    have hlast : ∀ m' ∈ before, m'.1 < m.1 := by
      intro m' hm
      rw [Sorted, List.map_append, List.pairwise_append] at h
      exact h.2.2 _ (List.mem_map_of_mem hm) _ (List.mem_map_of_mem List.mem_cons_self)
    rw [List.foldl_cons, insertMember_last hlast, ih _ (by simpa using h), List.append_assoc]
    rfl

theorem sortMembers_eq {α : Type} {members : List (String × α)} (h : Sorted members) :
    sortMembers members = members :=
  foldl_insertMember members [] h

theorem ofItems?_written {items : List Json} {n : Nat}
    (h : ∀ item ∈ items, ofRaw? n item.written = some item) :
    ofItems? n (writtenItems items) = some items := by
  induction items with
  | nil => rfl
  | cons item items ih =>
    rw [writtenItems, ofItems?, h item List.mem_cons_self,
      ih fun i hi => h i (List.mem_cons_of_mem _ hi)]
    rfl

theorem ofMembers?_written {members : List (String × Json)} {n : Nat}
    (h : ∀ m ∈ members, ofRaw? n m.2.written = some m.2) :
    ofMembers? n (writtenMembers members) = some members := by
  induction members with
  | nil => rfl
  | cons m members ih =>
    obtain ⟨name, value⟩ := m
    have hvalue : ofRaw? n value.written = some value := h _ List.mem_cons_self
    rw [writtenMembers, ofMembers?, decodeText?_spelling, hvalue,
      ih fun m hm => h m (List.mem_cons_of_mem _ hm)]
    rfl

/-- The tree of a value denotes the value, unless it is too deep. -/
theorem Regular.ofRaw?_written {j : Json} (h : j.Regular) {n : Nat} (hd : j.depth ≤ n) :
    ofRaw? n j.written = some j := by
  induction h generalizing n with
  | null => rw [written, ofRaw?]
  | bool b => rw [written, ofRaw?]
  | integer hl hh =>
    rw [written, ofRaw?, integerLiteral_value hl hh]
    rfl
  | text s =>
    rw [written, ofRaw?, decodeText?_spelling]
    rfl
  | array h ih =>
    rw [depth] at hd
    obtain ⟨n, rfl⟩ : ∃ k, n = k + 1 := ⟨n - 1, by omega⟩
    have hdepth := depthOfItems_le.mp (Nat.le_of_succ_le_succ hd)
    rw [written, ofRaw?, ofItems?_written fun item hi => ih item hi (hdepth item hi)]
    rfl
  | object hs h ih =>
    rw [depth] at hd
    obtain ⟨n, rfl⟩ : ∃ k, n = k + 1 := ⟨n - 1, by omega⟩
    have hdepth := depthOfMembers_le.mp (Nat.le_of_succ_le_succ hd)
    rw [written, ofRaw?, ofMembers?_written fun m hm => ih m hm (hdepth m hm), Option.map_some,
      sortMembers_eq hs]

end DeployService.Json
