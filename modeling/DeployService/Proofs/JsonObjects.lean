import DeployService.Proofs.JsonStrings
import Mathlib

/-!
# The members of a JSON object

The members of an object that is read are sorted, and of several with one name only the last one is
left. So a member is looked up as if one looked through the members as they are written, from the
last one to the first (`Json.lookup?_sortMembers`), and a document has a member exactly if it is an
object in which that is the last one of its name (`Json.member?_ofBytes?`).
-/

namespace DeployService.Json

/-! ## Sorting -/

theorem lookup?_insertMember {α : Type} (key name : String) (value : α)
    (members : List (String × α)) :
    lookup? key (insertMember name value members) =
      if name = key then some value else lookup? key members := by
  induction members with
  | nil => rfl
  | cons m members ih =>
    obtain ⟨n, v⟩ := m
    rw [insertMember]
    by_cases hless : name < n
    · rw [if_pos hless, lookup?]
    · rw [if_neg hless]
      by_cases hsame : name = n
      · subst hsame
        rw [if_pos rfl, lookup?, lookup?]
        by_cases hkey : name = key
        · rw [if_pos hkey, if_pos hkey]
        · rw [if_neg hkey, if_neg hkey, if_neg hkey]
      · rw [if_neg hsame, lookup?, ih, lookup?]
        by_cases hkey : n = key
        · have hother : ¬name = key := fun h => hsame (h.trans hkey.symm)
          rw [if_pos hkey, if_neg hother, if_pos hkey]
        · rw [if_neg hkey, if_neg hkey]

/-- Of several members with one name the last one counts. -/
theorem lookup?_sortMembers {α : Type} (key : String) (members : List (String × α)) :
    lookup? key (sortMembers members) = lookup? key members.reverse := by
  induction members using List.reverseRecOn with
  | nil => rfl
  | append_singleton members m ih =>
    obtain ⟨n, v⟩ := m
    have hlast : sortMembers (members ++ [(n, v)]) = insertMember n v (sortMembers members) := by
      rw [sortMembers, List.foldl_append]
      rfl
    rw [hlast, lookup?_insertMember, ih, List.reverse_append]
    rfl

theorem lookup?_append_of_ne {α : Type} {key : String} {before : List (String × α)}
    (h : ∀ m ∈ before, m.1 ≠ key) (after : List (String × α)) :
    lookup? key (before ++ after) = lookup? key after := by
  induction before with
  | nil => rfl
  | cons m before ih =>
    have hm : m.1 ≠ key := h m List.mem_cons_self
    rw [List.cons_append, lookup?, if_neg hm]
    exact ih fun m' hm' => h m' (List.mem_cons_of_mem m hm')

/-! ## Reading -/

/-- The member, as it is written inside of an object, has this name and this value. -/
def ReadsAs (written : List UInt8 × Raw) (m : String × Json) : Prop :=
  decodeText? written.1 = some m.1 ∧ ofRaw? (maxDepth - 1) written.2 = some m.2

/-- The bytes are a JSON object with these members, in the order in which they are written. -/
def IsObject (bytes : List UInt8) (members : List (String × Json)) : Prop :=
  ∃ written, Raw.IsElement (.object written) bytes ∧ List.Forall₂ ReadsAs written members

theorem exists_members {ws : List (List UInt8 × Raw)} {P : String × Json → Prop}
    (h : ∀ w ∈ ws, ∃ m, ReadsAs w m ∧ P m) :
    ∃ members, List.Forall₂ ReadsAs ws members ∧ ∀ m ∈ members, P m := by
  induction ws with
  | nil => exact ⟨[], .nil, by simp⟩
  | cons w ws ih =>
    obtain ⟨m, hm, hP⟩ := h w List.mem_cons_self
    obtain ⟨members, hmembers, hall⟩ := ih fun w' hw' => h w' (List.mem_cons_of_mem w hw')
    exact ⟨m :: members, .cons hm hmembers, List.forall_mem_cons.mpr ⟨hP, hall⟩⟩

theorem ofMembers?_eq_some_iff {written : List (List UInt8 × Raw)}
    {members : List (String × Json)} :
    ofMembers? (maxDepth - 1) written = some members ↔ List.Forall₂ ReadsAs written members := by
  induction written generalizing members with
  | nil =>
    rw [ofMembers?, Option.some.injEq, List.forall₂_nil_left_iff, eq_comm]
  | cons w written ih =>
    obtain ⟨n, r⟩ := w
    rw [ofMembers?, List.forall₂_cons_left_iff]
    simp only [bind, Option.bind_eq_some_iff, pure, Option.some.injEq, ih]
    constructor
    · rintro ⟨name, hname, value, hvalue, rest, hrest, rfl⟩
      exact ⟨(name, value), rest, ⟨hname, hvalue⟩, hrest, rfl⟩
    · rintro ⟨m, rest, ⟨hname, hvalue⟩, hrest, rfl⟩
      exact ⟨m.1, hname, m.2, hvalue, rest, hrest, rfl⟩

theorem ofRaw?_object {raw : Raw} {sorted : List (String × Json)}
    (h : ofRaw? maxDepth raw = some (.object sorted)) :
    ∃ written members, raw = .object written ∧ List.Forall₂ ReadsAs written members ∧
      sorted = sortMembers members := by
  cases raw with
  | null => cases h
  | bool b => cases h
  | number l =>
    obtain ⟨number, -, hnumber⟩ := Option.map_eq_some_iff.mp h
    cases number <;> cases hnumber
  | text t =>
    obtain ⟨s, -, hs⟩ := Option.map_eq_some_iff.mp h
    cases hs
  | array items =>
    obtain ⟨values, -, hvalues⟩ := Option.map_eq_some_iff.mp h
    cases hvalues
  | object written =>
    obtain ⟨members, hmembers, hsorted⟩ := Option.map_eq_some_iff.mp h
    cases hsorted
    exact ⟨written, members, rfl, ofMembers?_eq_some_iff.mp hmembers, rfl⟩

/-- What a document is read as, if it is an object. -/
theorem ofBytes?_object_iff {bytes : List UInt8} {sorted : List (String × Json)} :
    ofBytes? bytes = some (.object sorted) ↔
      ∃ members, IsObject bytes members ∧ sorted = sortMembers members := by
  rw [ofBytes?, Option.bind_eq_some_iff]
  constructor
  · rintro ⟨raw, hread, hvalue⟩
    obtain ⟨written, members, rfl, hmembers, hsorted⟩ := ofRaw?_object hvalue
    exact ⟨members, ⟨written, Raw.read?_eq_some_iff.mp hread, hmembers⟩, hsorted⟩
  · rintro ⟨members, ⟨written, hform, hmembers⟩, rfl⟩
    refine ⟨.object written, Raw.read?_eq_some_iff.mpr hform, ?_⟩
    have hread := ofMembers?_eq_some_iff.mpr hmembers
    show (ofMembers? (maxDepth - 1) written).map (fun ms => Json.object (sortMembers ms)) = _
    rw [hread]
    rfl

/-- A document has a member if it is an object, and the last member of that name is this one. -/
theorem member?_ofBytes? {bytes : List UInt8} {key : String} {value : Json} :
    (ofBytes? bytes).bind (·.member? key) = some value ↔
      ∃ members, IsObject bytes members ∧ lookup? key members.reverse = some value := by
  rw [Option.bind_eq_some_iff]
  constructor
  · rintro ⟨json, hjson, hvalue⟩
    cases json with
    | object sorted =>
      obtain ⟨members, hobject, rfl⟩ := ofBytes?_object_iff.mp hjson
      rw [member?, lookup?_sortMembers] at hvalue
      exact ⟨members, hobject, hvalue⟩
    | _ => cases hvalue
  · rintro ⟨members, hobject, hvalue⟩
    refine ⟨.object (sortMembers members), ofBytes?_object_iff.mpr ⟨members, hobject, rfl⟩, ?_⟩
    rw [member?, lookup?_sortMembers, hvalue]

/-- An object has its members in one way. -/
theorem IsObject.unique {bytes : List UInt8} {members members' : List (String × Json)}
    (h : IsObject bytes members) (h' : IsObject bytes members') : members = members' := by
  obtain ⟨written, hform, hmembers⟩ := h
  obtain ⟨written', hform', hmembers'⟩ := h'
  have hread := Raw.read?_eq_some_iff.mpr hform
  rw [Raw.read?_eq_some_iff.mpr hform'] at hread
  cases hread
  have hvalues := ofMembers?_eq_some_iff.mpr hmembers
  rw [ofMembers?_eq_some_iff.mpr hmembers'] at hvalues
  exact (Option.some.inj hvalues).symm

theorem IsObject.ne_nil {bytes : List UInt8} {members : List (String × Json)}
    (h : IsObject bytes members) : bytes ≠ [] := by
  rintro rfl
  have hread := ofBytes?_object_iff.mpr ⟨members, h, rfl⟩
  cases hread

end DeployService.Json
