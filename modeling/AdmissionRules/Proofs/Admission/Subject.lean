import AdmissionRules.Proofs.Admission.Transparency

set_option autoImplicit false

/-! # What requests are about

A request is about the object that it carries, under a kind and an API version that have one source:
the object, if it gives both as texts and the kind is not empty, or else the request
(`AdmissionRequest.TypedBy`). The main statement (`AdmissionRequest.decode_oneSource`) says what
comes of every request, and for one that was read how the parts that decide are written: API version
and kind of the object, its absence, and the groups of the user. -/

namespace AdmissionRules

open Json (Reader Fault Source RecordField)

/-! ## The types that an object gives -/

namespace SubmittedObject

/-- The values under a key, in the order written. -/
def valuesUnder (key : String) (ms : List (String × Json)) : List Json :=
  (ms.filter (·.1 = key)).map (·.2)

theorem valuesUnder_cons (key k : String) (value : Json) (rest : List (String × Json)) :
    valuesUnder key ((k, value) :: rest) =
      (if k = key then [value] else []) ++ valuesUnder key rest := by
  unfold valuesUnder
  by_cases hk : k = key <;> simp [hk]

theorem valuesUnder_append (key : String) (ms ms' : List (String × Json)) :
    valuesUnder key (ms ++ ms') = valuesUnder key ms ++ valuesUnder key ms' := by
  rw [valuesUnder, List.filter_append, List.map_append]
  rfl

/-- The values seen for a key: the one taken before, if there is one, and those still to come. -/
def seen (taken : Option String) (key : String) (ms : List (String × Json)) : List Json :=
  taken.toList.map .string ++ valuesUnder key ms

theorem seen_nil (taken : Option String) (key : String) :
    seen taken key [] = taken.toList.map .string :=
  List.append_nil _

theorem seen_other (taken : Option String) {key k : String} (value : Json)
    (rest : List (String × Json)) (hk : k ≠ key) :
    seen taken key ((k, value) :: rest) = seen taken key rest := by
  rw [seen, valuesUnder_cons, if_neg hk, List.nil_append, seen]

theorem seen_take (key text : String) (rest : List (String × Json)) :
    seen none key ((key, .string text) :: rest) = seen (some text) key rest := by
  rw [seen, valuesUnder_cons, if_pos rfl]
  rfl

/-- A value that cannot be taken, as it is no text or comes second, keeps what is seen from being
    one text. -/
theorem seen_ne_singleton {taken : Option String} {value : Json} (key : String)
    (rest : List (String × Json)) (h : ∀ text, taken = none → value ≠ .string text)
    (text : String) :
    seen taken key ((key, value) :: rest) ≠ [.string text] := by
  rw [seen, valuesUnder_cons, if_pos rfl]
  cases taken with
  | none => simpa using fun heq : value = .string text => absurd heq (h text rfl)
  | some _ => simp

/-- Types are taken if of each of the two one value is seen, and it is a text. -/
theorem takeTypes_eq_some_iff (apiVersion kind : Option String) (ms : List (String × Json))
    (types : ObjectTypes) :
    (takeTypes apiVersion kind ms).1 = some types ↔
      seen apiVersion "apiVersion" ms = [.string types.apiVersion] ∧
        seen kind "kind" ms = [.string types.kind] := by
  have hkeys : "apiVersion" ≠ "kind" := by decide
  -- a text that is taken moves from the members still to come to those taken before
  induction ms generalizing apiVersion kind with
  | nil =>
      rw [seen_nil, seen_nil]
      unfold takeTypes
      obtain ⟨version, name⟩ := types
      cases apiVersion <;> cases kind <;> simp
  | cons m rest ih =>
      obtain ⟨key, value⟩ := m
      unfold takeTypes
      split
      · rename_i hkey
        subst hkey
        rw [seen_other kind value rest hkeys]
        split
        · rw [seen_take]
          exact ih _ kind
        · rename_i hbad
          have hne := seen_ne_singleton "apiVersion" rest hbad types.apiVersion
          simp [hne]
      · rename_i hversion
        rw [seen_other apiVersion value rest hversion]
        split
        · rename_i hkey
          subst hkey
          split
          · rw [seen_take]
            exact ih apiVersion _
          · rename_i hbad
            have hne := seen_ne_singleton "kind" rest hbad types.kind
            simp [hne]
        · rename_i hkind
          rw [seen_other kind value rest hkind]
          exact ih apiVersion kind

/-- The members of an object under a key that is read in full are the sources under it. -/
theorem valuesUnder_others {depth : Nat} {s : Source} {members : Members} (key : String)
    (hkey : key ≠ "metadata")
    (h : Reader.object { metadata := none, others := [] } readMember depth s = .ok members) :
    List.Forall₂ (fun s j => Reader.any (depth + 1) s = .ok j) (s.under key)
      (valuesUnder key members.others.reverse) := by
  have hgathers := Json.object_gathers
    (fun members => valuesUnder key members.others.reverse) key
    (fun s j => Reader.any (depth + 1) s = .ok j) ?_ ?_ h
  · obtain ⟨js, hjs, hmembers⟩ := hgathers
    rw [hmembers]
    exact hjs
  · intro members k s members' hk hstep
    -- members are kept in reverse, so each one read is added behind
    rcases others_of_readMember hstep with ⟨-, hothers⟩ | ⟨j, -, hothers⟩
    · rw [hothers]
    · rw [hothers, List.reverse_cons, valuesUnder_append, valuesUnder_cons, if_neg hk]
      exact List.append_nil _
  · intro members s members' hstep
    rcases others_of_readMember hstep with ⟨hmetadata, -⟩ | ⟨j, hj, hothers⟩
    · exact absurd hmetadata hkey
    · refine ⟨j, hj, ?_⟩
      rw [hothers, List.reverse_cons, valuesUnder_append, valuesUnder_cons, if_pos rfl]
      rfl

/-- One value is a text just if its source is a string. -/
theorem eq_string_iff {depth : Nat} {ss : List Source} {js : List Json}
    (h : List.Forall₂ (fun s j => Reader.any depth s = .ok j) ss js) (text : String) :
    js = [.string text] ↔ ss = [.string (some text)] := by
  constructor
  · rintro rfl
    obtain ⟨s, rest, hs, hrest, rfl⟩ := List.forall₂_cons_right_iff.1 h
    rw [List.forall₂_nil_right_iff.1 hrest, (Json.any_eq_string_iff depth s text).1 hs]
  · rintro rfl
    obtain ⟨j, rest, hj, hrest, rfl⟩ := List.forall₂_cons_left_iff.1 h
    rw [List.forall₂_nil_left_iff.1 hrest]
    cases hj
    rfl

/-- The source of an object carries types if it has an API version and a kind, each of them once
    and as a string. -/
structure Carries (s : Source) (types : ObjectTypes) : Prop where
  apiVersion : s.under "apiVersion" = [.string (some types.apiVersion)]
  kind : s.under "kind" = [.string (some types.kind)]

/-- The types of an object are those that its source carries. -/
theorem types_eq_some_iff {depth : Nat} {s : Source} {o : SubmittedObject}
    (h : reader depth s = .ok o) (types : ObjectTypes) :
    o.types = some types ↔ Carries s types := by
  obtain ⟨members, hmembers, rfl⟩ := (map_eq_ok_iff _ _ _).1 h
  have hversion := valuesUnder_others "apiVersion" (by decide) hmembers
  have hkind := valuesUnder_others "kind" (by decide) hmembers
  show (takeTypes none none members.others.reverse).1 = some types ↔ Carries s types
  rw [takeTypes_eq_some_iff]
  constructor
  · rintro ⟨hseenVersion, hseenKind⟩
    exact ⟨(eq_string_iff hversion _).1 hseenVersion, (eq_string_iff hkind _).1 hseenKind⟩
  · rintro ⟨hcarriedVersion, hcarriedKind⟩
    exact ⟨(eq_string_iff hversion _).2 hcarriedVersion, (eq_string_iff hkind _).2 hcarriedKind⟩

/-- An object names its kind if it has types, of which the kind is not empty. -/
def Names (o : SubmittedObject) (types : ObjectTypes) : Prop :=
  o.types = some types ∧ types.kind ≠ ""

end SubmittedObject

/-! ## The groups of the user -/

/-- How the groups of a user are written: as an array of strings, in their order. Groups that are
    null are as good as none. -/
inductive GroupsFrom : Option Source → Option (List String) → Prop where
  | absent : GroupsFrom none none
  | null : GroupsFrom (some .null) none
  | list (groups : List String) :
      GroupsFrom (some (.array (groups.map fun group => .string (some group)) true)) (some groups)

theorem groupsFrom_of_nullable {depth : Nat} {s : Source} {groups : Option (List String)}
    (h : Reader.nullable (.list .string) depth s = .ok groups) : GroupsFrom (some s) groups := by
  cases groups with
  | none =>
      rw [Json.nullable_eq_ok_none_iff.1 h]
      exact .null
  | some groups =>
      rw [Json.list_string_eq_ok (Json.nullable_eq_ok_some h)]
      exact .list groups

theorem userGroups_groupsFrom {depth : Nat} {s : Source} {groups : Option (List String)}
    (h : userGroups depth s = .ok groups) : GroupsFrom (s.member? "groups") groups := by
  have hothers : ∀ f ∈ ([.checked .optional "extra" (.nullable (.map (.list .string)))] ++
      [.checked .optional "uid" (.nullable .string),
        .checked .optional "username" (.nullable .string)] :
        List (RecordField (Option (List String)))),
      f.key ≠ "groups" ∧ f.Keeps id := by
    simp only [List.cons_append, List.nil_append, List.forall_mem_cons]
    refine ⟨⟨by decide, ?_⟩, ⟨by decide, ?_⟩, ⟨by decide, ?_⟩, List.forall_mem_nil _⟩
    all_goals exact Json.RecordField.of_keeps fun _ _ => rfl
  rcases Json.looseRecord_reads (f := .loose "groups" (.list .string) fun x _ => x) hothers h with
    ⟨hnone, hgroups⟩ | ⟨s', hs', hgives⟩
  · have hmember : s.member? "groups" = none := hnone
    rw [hmember, show groups = none from hgroups]
    exact .absent
  · have hmember : s.member? "groups" = some s' := hs'
    rw [hmember]
    exact groupsFrom_of_nullable (Json.RecordField.read_of_gives (fun _ _ => rfl) hgives)

/-! ## What a request is about -/

namespace AdmissionRequest

/-- Where the kind and the API version of a request come from: both from the object if it names
    its kind, or else both from the kind that the request reports. -/
inductive TypedBy (r : AdmissionRequest) (object : SubmittedObject) : ObjectTypes → Prop where
  | object {types : ObjectTypes} (h : object.Names types) : TypedBy r object types
  /-- The core group has no name. -/
  | core (h : ∀ types, ¬ object.Names types) (hgroup : r.kind.group = "") :
      TypedBy r object { apiVersion := r.kind.version, kind := r.kind.kind }
  | group (h : ∀ types, ¬ object.Names types) (hgroup : r.kind.group ≠ "") :
      TypedBy r object
        { apiVersion := r.kind.group ++ "/" ++ r.kind.version, kind := r.kind.kind }

theorem typesOf_of_names {r : AdmissionRequest} {object : SubmittedObject} {types : ObjectTypes}
    (h : object.Names types) : r.typesOf object = types := by
  obtain ⟨htypes, hkind⟩ := h
  unfold typesOf
  rw [htypes]
  exact if_neg fun hempty => hkind (String.isEmpty_iff.1 hempty)

theorem typesOf_of_not_names {r : AdmissionRequest} {object : SubmittedObject}
    (h : ∀ types, ¬ object.Names types) :
    r.typesOf object = { apiVersion := r.kind.apiVersion, kind := r.kind.kind } := by
  unfold typesOf
  cases htypes : object.types with
  | none => rfl
  | some types =>
      by_cases hkind : types.kind = ""
      · exact if_pos (String.isEmpty_iff.2 hkind)
      · exact absurd ⟨htypes, hkind⟩ (h types)

/-- The types by which rules are found have one source. -/
theorem typedBy_iff {r : AdmissionRequest} {object : SubmittedObject} {types : ObjectTypes} :
    r.TypedBy object types ↔ r.typesOf object = types := by
  constructor
  · intro h
    cases h with
    | object h => exact typesOf_of_names h
    | core h hgroup =>
        rw [typesOf_of_not_names h, GroupVersionKind.apiVersion, apiVersionText, if_pos]
        exact String.isEmpty_iff.2 hgroup
    | group h hgroup =>
        rw [typesOf_of_not_names h, GroupVersionKind.apiVersion, apiVersionText, if_neg]
        exact fun hempty => hgroup (String.isEmpty_iff.1 hempty)
  · rintro rfl
    by_cases h : ∃ types, object.Names types
    · obtain ⟨types, htypes⟩ := h
      rw [typesOf_of_names htypes]
      exact .object htypes
    · rw [not_exists] at h
      rw [typesOf_of_not_names h, GroupVersionKind.apiVersion, apiVersionText]
      split
      · rename_i hgroup
        exact .core h (String.isEmpty_iff.1 hgroup)
      · rename_i hgroup
        exact .group h fun hempty => hgroup (String.isEmpty_iff.2 hempty)

/-! ## How a request is written -/

/-- The field of the user who asks for admission. -/
def userField : RecordField AdmissionRequest :=
  .required "userInfo" userGroups fun x r => { r with groups := x }

/-- The place of the user in a request that is written as an array. -/
def userPlace : Nat := 10

theorem others_keep_groups : ∀ f ∈ fieldsBefore.take userPlace ++ objectField :: fieldsBehind,
    f.key ≠ userField.key ∧ f.Keeps (·.groups) := by
  have hkeys : ∀ f ∈ fieldsBefore.take userPlace ++ objectField :: fieldsBehind,
      f.key ≠ userField.key := by decide
  have hkeep : ∀ f ∈ fieldsBefore.take userPlace ++ objectField :: fieldsBehind,
      f.Keeps (·.groups) := by
    simp only [fieldsBefore, fieldsBehind, userPlace, List.take_succ_cons, List.take_zero,
      List.cons_append, List.nil_append, List.forall_mem_cons]
    refine ⟨?_, ?_, ?_, ?_, ?_, ?_, ?_, ?_, ?_, ?_, ?_, ?_, ?_, ?_, List.forall_mem_nil _⟩
    all_goals exact Json.RecordField.of_keeps fun _ _ => rfl
  exact fun f hf => ⟨hkeys f hf, hkeep f hf⟩

theorem reader_groups {depth : Nat} {s : Source} {r : AdmissionRequest}
    (h : reader depth s = .ok r) :
    GroupsFrom ((s.field? "userInfo" userPlace).bind (·.member? "groups")) r.groups := by
  have hread : Reader.record empty
      (fieldsBefore.take userPlace ++ userField :: objectField :: fieldsBehind) depth s = .ok r := h
  rcases Json.record_reads others_keep_groups (by decide) hread with
    ⟨hnone, hgroups⟩ | ⟨s', hs', hgives⟩
  · have huser : s.field? "userInfo" userPlace = none := hnone
    rw [huser, show r.groups = none from hgroups]
    exact .absent
  · have huser : s.field? "userInfo" userPlace = some s' := hs'
    rw [huser]
    exact userGroups_groupsFrom (Json.RecordField.read_of_gives (fun _ _ => rfl) hgives)

/-- How the parts of a request that decide what it is about are written. -/
structure Written (r : AdmissionRequest) (s : Source) : Prop where
  /-- An object that is null is as good as none. -/
  object_none : r.object = none ↔
    s.field? "object" objectPlace = none ∨ s.field? "object" objectPlace = some .null
  object_some : ∀ object, r.object = some object →
    ∃ s', s.field? "object" objectPlace = some s' ∧
      ∀ types, object.types = some types ↔ SubmittedObject.Carries s' types
  groups : GroupsFrom ((s.field? "userInfo" userPlace).bind (·.member? "groups")) r.groups

theorem reader_written {depth : Nat} {s : Source} {r : AdmissionRequest}
    (h : reader depth s = .ok r) : r.Written s := by
  have hgroups := reader_groups h
  rcases reader_object h with ⟨hnone, hobject⟩ | ⟨s', hs', hread⟩
  · refine ⟨⟨fun _ => .inl hnone, fun _ => hobject⟩, fun object hsome => ?_, hgroups⟩
    rw [hobject] at hsome
    cases hsome
  · refine ⟨⟨fun hobject => ?_, ?_⟩, fun object hsome => ?_, hgroups⟩
    · rw [hobject] at hread
      exact .inr (by rw [hs', Json.nullable_eq_ok_none_iff.1 hread])
    · rintro (hfield | hfield)
      · rw [hs'] at hfield
        cases hfield
      · rw [hs'] at hfield
        cases hfield
        exact (Except.ok.inj hread).symm
    · rw [hsome] at hread
      exact ⟨s', hs', SubmittedObject.types_eq_some_iff (Json.nullable_eq_ok_some hread)⟩

/-! ## Decoding -/

theorem decode_of_none {r : AdmissionRequest} (h : r.object = none) :
    r.decode = .error (.missingObject r.uid) := by
  rw [decode, h]

/-- A request with an object is decided about unless the kind that applies is empty. -/
theorem decode_of_typedBy {r : AdmissionRequest} {object : SubmittedObject} {types : ObjectTypes}
    (hobject : r.object = some object) (htypes : r.TypedBy object types) :
    r.decode =
      if types.kind = "" then .error (.missingKind r.uid)
      else
        .ok { kind := types.kind, apiVersion := types.apiVersion, groups := r.groups.getD [],
              object := object.tree } := by
  rw [decode, hobject]
  simp only [typedBy_iff.1 htypes, String.isEmpty_iff]

theorem decode_eq_missingObject_iff {r : AdmissionRequest} {uid : String} :
    r.decode = .error (.missingObject uid) ↔ uid = r.uid ∧ r.object = none := by
  constructor
  · intro h
    cases hobject : r.object with
    | none =>
        rw [decode_of_none hobject] at h
        cases h
        exact ⟨rfl, rfl⟩
    | some object =>
        rw [decode_of_typedBy hobject (typedBy_iff.2 rfl)] at h
        split at h <;> cases h
  · rintro ⟨rfl, hobject⟩
    exact decode_of_none hobject

theorem decode_eq_missingKind_iff {r : AdmissionRequest} {uid : String} :
    r.decode = .error (.missingKind uid) ↔
      uid = r.uid ∧ ∃ object types, r.object = some object ∧ r.TypedBy object types ∧
        types.kind = "" := by
  constructor
  · intro h
    cases hobject : r.object with
    | none =>
        rw [decode_of_none hobject] at h
        cases h
    | some object =>
        have htypes : r.TypedBy object (r.typesOf object) := typedBy_iff.2 rfl
        rw [decode_of_typedBy hobject htypes] at h
        split at h
        · rename_i hkind
          cases h
          exact ⟨rfl, object, _, rfl, htypes, hkind⟩
        · cases h
  · rintro ⟨rfl, object, types, hobject, htypes, hkind⟩
    rw [decode_of_typedBy hobject htypes, if_pos hkind]

theorem decode_eq_ok_iff {r : AdmissionRequest} {subject : Subject} :
    r.decode = .ok subject ↔
      ∃ object types, r.object = some object ∧ r.TypedBy object types ∧ types.kind ≠ "" ∧
        subject = { kind := types.kind, apiVersion := types.apiVersion, groups := r.groups.getD [],
                    object := object.tree } := by
  constructor
  · intro h
    cases hobject : r.object with
    | none =>
        rw [decode_of_none hobject] at h
        cases h
    | some object =>
        have htypes : r.TypedBy object (r.typesOf object) := typedBy_iff.2 rfl
        rw [decode_of_typedBy hobject htypes] at h
        split at h
        · cases h
        · rename_i hkind
          exact ⟨object, _, rfl, htypes, hkind, (Except.ok.inj h).symm⟩
  · rintro ⟨object, types, hobject, htypes, hkind, rfl⟩
    rw [decode_of_typedBy hobject htypes, if_neg hkind]

/-- **What comes of a request.** It is refused if it has no object, and if it has one under an
    empty kind; else it is decided about under a kind that is not empty, with the groups of the
    user in their order. Kind and API version have one source, and what has been read of a
    request is what was written. -/
theorem decode_oneSource (r : AdmissionRequest) :
    (∀ uid, r.decode = .error (.missingObject uid) ↔ uid = r.uid ∧ r.object = none) ∧
      (∀ uid, r.decode = .error (.missingKind uid) ↔
        uid = r.uid ∧ ∃ object types, r.object = some object ∧ r.TypedBy object types ∧
          types.kind = "") ∧
      (∀ subject, r.decode = .ok subject ↔
        ∃ object types, r.object = some object ∧ r.TypedBy object types ∧ types.kind ≠ "" ∧
          subject = { kind := types.kind, apiVersion := types.apiVersion,
                      groups := r.groups.getD [], object := object.tree }) ∧
      (∀ object, ∃! types, r.TypedBy object types) ∧
      ∀ depth s, reader depth s = .ok r → r.Written s := by
  refine ⟨fun uid => decode_eq_missingObject_iff, fun uid => decode_eq_missingKind_iff,
    fun subject => decode_eq_ok_iff, fun object => ?_, fun depth s => reader_written⟩
  refine ⟨r.typesOf object, typedBy_iff.2 rfl, fun types htypes => ?_⟩
  exact (typedBy_iff.1 htypes).symm

/-- An object that has a kind but no API version is decided about under the types that the request
    reports. -/
example (metadata : Option ObjectMeta) (uid : String) (groups : Option (List String)) :
    let object := SubmittedObject.ofMembers { metadata, others := [("kind", .string "Pod")] }
    decode
        { uid, kind := { group := "apps", version := "v1", kind := "Deployment" }, groups,
          object := some object } =
      .ok
        { kind := "Deployment", apiVersion := "apps/v1", groups := groups.getD [],
          object := object.tree } :=
  rfl

end AdmissionRequest

end AdmissionRules
