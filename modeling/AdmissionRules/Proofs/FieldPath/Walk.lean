import AdmissionRules.Proofs.Json.Members

set_option autoImplicit false

/-! # Walks along paths

The keys of a dotted path are the parts of its text that hold no dot and make the text again when
dots are put between them. Walking along keys from an object leads to a value (`Json.Leads`) or
breaks off at a key that is missing or at a value that has none (`Json.BreaksOff`); there is no
third way, and `Json.at?` finds out which it is. -/

namespace AdmissionRules

/-! ## Keys of paths -/

theorem splitChars_eq_splitOn (separator : Char) (cs : List Char) :
    splitChars separator cs = cs.splitOn separator := by
  induction cs with
  | nil => rfl
  | cons c rest ih =>
      rw [splitChars, ih, List.splitOn_cons_eq_if_modifyHead]
      by_cases h : c = separator
      · simp [h]
      · obtain ⟨part, parts, hparts⟩ :=
          List.exists_cons_of_ne_nil (List.splitOn_ne_nil separator rest)
        simp [h, hparts]

theorem not_mem_of_mem_splitChars {separator : Char} {cs part : List Char}
    (h : part ∈ splitChars separator cs) : separator ∉ part := by
  induction cs generalizing part with
  | nil =>
      obtain rfl := List.mem_singleton.1 h
      exact List.not_mem_nil
  | cons c rest ih =>
      rw [splitChars] at h
      split at h
      · rcases List.mem_cons.1 h with rfl | h
        · exact List.not_mem_nil
        · exact ih h
      · rename_i hc
        split at h
        · rename_i first parts hrest
          rcases List.mem_cons.1 h with rfl | h
          · have hfirst := ih (hrest ▸ List.mem_cons_self)
            exact List.not_mem_cons_of_ne_of_not_mem (Ne.symm hc) hfirst
          · exact ih (hrest ▸ List.mem_cons_of_mem _ h)
        · obtain rfl := List.mem_singleton.1 h
          simpa using Ne.symm hc

namespace FieldPath

theorem not_mem_of_mem_ofText {field key : String} (h : key ∈ ofText field) :
    '.' ∉ key.toList := by
  obtain ⟨part, hpart, rfl⟩ := List.mem_map.1 h
  rw [String.toList_ofList]
  exact not_mem_of_mem_splitChars hpart

/-- Dots between the keys make the text of the path. -/
theorem intercalate_ofText (field : String) : ".".intercalate (ofText field) = field := by
  have hkeys : (ofText field).map String.toList = field.toList.splitOn '.' := by
    rw [ofText, List.map_map, splitChars_eq_splitOn]
    simp
  have hdot : ".".toList = ['.'] := rfl
  rw [← String.toList_inj, String.toList_intercalate, hkeys, hdot, List.intercalate_splitOn]

end FieldPath

namespace Json

/-! ## Walking -/

/-- Walking along the keys leads to the value. -/
inductive Leads : Json → List String → Json → Prop where
  | here (value : Json) : Leads value [] value
  | member {members : List (String × Json)} {key : String} {path : List String}
      {next value : Json} (h : Ascending.get? key members = some next)
      (hrest : Leads next path value) : Leads (.object members) (key :: path) value

/-- Walking along the keys comes to a value that is no object, or to an object without the key. -/
inductive BreaksOff : Json → List String → Prop where
  | noObject {value : Json} (h : ∀ members, value ≠ .object members) (key : String)
      (path : List String) : BreaksOff value (key :: path)
  | noMember {members : List (String × Json)} {key : String}
      (h : Ascending.get? key members = none) (path : List String) :
      BreaksOff (.object members) (key :: path)
  | member {members : List (String × Json)} {key : String} {path : List String} {next : Json}
      (h : Ascending.get? key members = some next) (hrest : BreaksOff next path) :
      BreaksOff (.object members) (key :: path)

theorem Leads.at? {object value : Json} {path : List String} (h : Leads object path value) :
    object.at? path = some value := by
  induction h with
  | here value => rfl
  | member h _ ih =>
      rw [at?_cons, get?, h]
      exact ih

theorem BreaksOff.at? {object : Json} {path : List String} (h : BreaksOff object path) :
    object.at? path = none := by
  induction h with
  | @noObject value h key path =>
      rw [at?_cons]
      cases value with
      | object members => exact absurd rfl (h members)
      | _ => rfl
  | noMember h path =>
      rw [at?_cons, get?, h]
      rfl
  | member h _ ih =>
      rw [at?_cons, get?, h]
      exact ih

theorem leads_or_breaksOff (object : Json) (path : List String) :
    (∃ value, Leads object path value) ∨ BreaksOff object path := by
  induction path generalizing object with
  | nil => exact .inl ⟨object, .here object⟩
  | cons key path ih =>
      by_cases hobject : ∃ members, object = .object members
      · obtain ⟨members, rfl⟩ := hobject
        cases hget : Ascending.get? key members with
        | none => exact .inr (.noMember hget path)
        | some next =>
            rcases ih next with ⟨value, hvalue⟩ | hbreaks
            · exact .inl ⟨value, .member hget hvalue⟩
            · exact .inr (.member hget hbreaks)
      · exact .inr (.noObject (fun members h => hobject ⟨members, h⟩) key path)

theorem at?_eq_some_iff (object value : Json) (path : List String) :
    object.at? path = some value ↔ Leads object path value := by
  refine ⟨fun h => ?_, Leads.at?⟩
  rcases leads_or_breaksOff object path with ⟨value', hvalue⟩ | hbreaks
  · rw [hvalue.at?] at h
    cases h
    exact hvalue
  · rw [hbreaks.at?] at h
    cases h

theorem at?_eq_none_iff (object : Json) (path : List String) :
    object.at? path = none ↔ BreaksOff object path := by
  refine ⟨fun h => ?_, BreaksOff.at?⟩
  rcases leads_or_breaksOff object path with ⟨value, hvalue⟩ | hbreaks
  · rw [hvalue.at?] at h
    cases h
  · exact hbreaks

end Json

end AdmissionRules
