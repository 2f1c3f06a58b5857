import AdmissionRules.Admission.Subject
import AdmissionRules.Proofs.Json.Reading
import AdmissionRules.Proofs.Rule.Dependence

set_option autoImplicit false

/-! # Rules see the object that was submitted

The object of a request is read in parts: its metadata is typed, and its API version and kind are
taken apart from the rest. What rules are evaluated on is put together again from these parts. All
that is not metadata, API version or kind comes through as it was written
(`SubmittedObject.shows_tree`), so a rule whose path begins with another key comes to the same
result on it as on the submitted object itself (`AdmissionReview.decode_transparent`). -/

namespace AdmissionRules

open Json (Reader Fault Source)

namespace SubmittedObject

open Ascending (lookup_reverse_cons lookup_reverse_ofList)

/-- The keys of the members that are read apart. -/
def typedKeys : List String := ["metadata", "apiVersion", "kind"]

theorem not_mem_typedKeys_iff {key : String} :
    key ∉ typedKeys ↔ key ≠ "metadata" ∧ key ≠ "apiVersion" ∧ key ≠ "kind" := by
  simp [typedKeys]

/-! ## API version and kind -/

/-- Taking API version and kind leaves the members under other keys. -/
theorem lookup_takeTypes (apiVersion kind : Option String) (ms : List (String × Json))
    {key : String} (hversion : key ≠ "apiVersion") (hkind : key ≠ "kind") :
    (takeTypes apiVersion kind ms).2.reverse.lookup key = ms.reverse.lookup key := by
  induction ms generalizing apiVersion kind with
  | nil =>
      unfold takeTypes
      split <;> rfl
  | cons m rest ih =>
      obtain ⟨k, value⟩ := m
      rw [lookup_reverse_cons]
      unfold takeTypes
      split
      · rename_i hk
        rw [hk, if_neg hversion, Option.or_none]
        split
        · exact ih _ _
        · rfl
      · split
        · rename_i hk
          rw [hk, if_neg hkind, Option.or_none]
          split
          · exact ih _ _
          · rfl
        -- only a member under some other key is passed on
        · show ((k, value) :: (takeTypes apiVersion kind rest).2).reverse.lookup key = _
          rw [lookup_reverse_cons, ih]

/-! ## The tree -/

/-- The rest of an object is found in its tree. -/
theorem get?_tree (o : SubmittedObject) {key : String} (hkey : key ∉ typedKeys) :
    o.tree.get? key = o.rest.reverse.lookup key := by
  obtain ⟨hmetadata, hversion, hkind⟩ := not_mem_typedKeys_iff.1 hkey
  unfold tree
  rw [Json.get?_ofMembers]
  cases o.types with
  | none => rw [List.nil_append, lookup_reverse_cons, if_neg hmetadata, Option.or_none]
  | some t =>
      simp only [List.cons_append, List.nil_append]
      rw [lookup_reverse_cons, if_neg hversion, Option.or_none, lookup_reverse_cons, if_neg hkind,
        Option.or_none, lookup_reverse_cons, if_neg hmetadata, Option.or_none]

/-- The last member under a key that is not read apart comes into the tree. -/
theorem get?_tree_ofMembers (members : Members) {key : String} (hkey : key ∉ typedKeys) :
    (ofMembers members).tree.get? key = members.others.lookup key := by
  obtain ⟨-, hversion, hkind⟩ := not_mem_typedKeys_iff.1 hkey
  rw [get?_tree _ hkey]
  show (Ascending.ofList (takeTypes none none members.others.reverse).2).reverse.lookup key = _
  rw [lookup_reverse_ofList, lookup_takeTypes none none _ hversion hkind,
    List.reverse_reverse]

/-- Under every key that is not read apart a value has what the source has there, which lies at a
    depth. -/
def Shows (depth : Nat) (s : Source) (j : Json) : Prop :=
  ∀ key, key ∉ typedKeys →
    Option.Rel (fun s j => Reader.any (depth + 1) s = .ok j) (s.member? key) (j.get? key)

theorem others_of_readMember {depth : Nat} {members members' : Members} {key : String} {s : Source}
    (h : readMember depth members key s = .ok members') :
    (key = "metadata" ∧ members'.others = members.others) ∨
      ∃ j, Reader.any depth s = .ok j ∧ members'.others = (key, j) :: members.others := by
  unfold readMember at h
  split at h
  · rename_i hkey
    split at h
    · cases h
    · obtain ⟨metadata, -, h⟩ := (bind_eq_ok_iff _ _ _).1 h
      cases h
      exact .inl ⟨hkey, rfl⟩
  · obtain ⟨j, hj, h⟩ := (bind_eq_ok_iff _ _ _).1 h
    cases h
    exact .inr ⟨j, hj, rfl⟩

/-- **An object comes through as it was written**, but for what is read apart. -/
theorem shows_tree {depth : Nat} {s : Source} {o : SubmittedObject} (h : reader depth s = .ok o) :
    Shows depth s o.tree := by
  intro key hkey
  obtain ⟨members, hmembers, rfl⟩ := (map_eq_ok_iff _ _ _).1 h
  rw [get?_tree_ofMembers members hkey]
  have hread := Json.object_reads (fun members => members.others.lookup key) key
    (fun s x => ∃ j, Reader.any (depth + 1) s = .ok j ∧ x = some j) ?_ ?_ hmembers
  · rcases hread with ⟨hnone, hothers⟩ | ⟨s', hs', j, hj, hothers⟩
    · rw [hnone, hothers]
      exact .none
    · rw [hs', hothers]
      exact .some hj
  · intro members k s members' hk hstep
    rcases others_of_readMember hstep with ⟨-, hothers⟩ | ⟨j, -, hothers⟩
    · rw [hothers]
    · rw [hothers, List.lookup_cons, beq_false_of_ne hk.symm]
  · intro members s members' hstep
    rcases others_of_readMember hstep with ⟨hmetadata, -⟩ | ⟨j, hj, hothers⟩
    · exact absurd hmetadata (not_mem_typedKeys_iff.1 hkey).1
    · exact ⟨j, hj, by rw [hothers, List.lookup_cons_self]⟩

theorem shows_of_any {depth : Nat} {s : Source} {j : Json} (h : Reader.any depth s = .ok j) :
    Shows depth s j :=
  fun key _ => Json.any_get? h key

/-- Two values that show the same source are the same but for what is read apart. -/
theorem Shows.at?_eq {depth : Nat} {s : Source} {a b : Json} (ha : Shows depth s a)
    (hb : Shows depth s b) {key : String} (hkey : key ∉ typedKeys) (path : List String) :
    a.at? (key :: path) = b.at? (key :: path) := by
  rw [Json.at?_cons, Json.at?_cons]
  congr 1
  have hra := ha key hkey
  have hrb := hb key hkey
  generalize s.member? key = m at hra hrb
  generalize a.get? key = x at hra
  generalize b.get? key = y at hrb
  cases hra with
  | none =>
      cases hrb
      rfl
  | some hx =>
      cases hrb with
      | some hy => rw [Except.ok.inj (hx.symm.trans hy)]

end SubmittedObject

/-! ## Reviews -/

namespace AdmissionRequest

/-- The place of the object in a request that is written as an array. -/
def objectPlace : Nat := fieldsBefore.length

theorem others_keep : ∀ f ∈ fieldsBefore ++ fieldsBehind,
    f.key ≠ objectField.key ∧ f.Keeps (·.object) := by
  have hkeys : ∀ f ∈ fieldsBefore ++ fieldsBehind, f.key ≠ objectField.key := by decide
  have hkeep : ∀ f ∈ fieldsBefore ++ fieldsBehind, f.Keeps (·.object) := by
    simp only [fieldsBefore, fieldsBehind, List.cons_append, List.nil_append, List.forall_mem_cons]
    refine ⟨?_, ?_, ?_, ?_, ?_, ?_, ?_, ?_, ?_, ?_, ?_, ?_, ?_, ?_, List.forall_mem_nil _⟩
    all_goals exact Json.RecordField.of_keeps fun _ _ => rfl
  exact fun f hf => ⟨hkeys f hf, hkeep f hf⟩

theorem reader_object {depth : Nat} {s : Source} {r : AdmissionRequest}
    (h : reader depth s = .ok r) :
    (s.field? "object" objectPlace = none ∧ r.object = none) ∨
      ∃ s', s.field? "object" objectPlace = some s' ∧
        Reader.nullable SubmittedObject.reader (depth + 1) s' = .ok r.object := by
  rcases Json.record_reads others_keep (by decide) h with ⟨hnone, hobject⟩ | ⟨s', hs', hgives⟩
  · exact .inl ⟨hnone, hobject⟩
  · exact .inr ⟨s', hs', Json.RecordField.read_of_gives (fun _ _ => rfl) hgives⟩

theorem decode_eq_ok {r : AdmissionRequest} {subject : Subject} (h : r.decode = .ok subject) :
    ∃ object, r.object = some object ∧ subject.object = object.tree := by
  unfold decode at h
  split at h
  · cases h
  · rename_i object hobject
    dsimp only at h
    split at h
    · cases h
    · cases h
      exact ⟨object, hobject, rfl⟩

end AdmissionRequest

namespace AdmissionReview

theorem request_of_readMember {depth : Nat} {members members' : Members} {key : String}
    {s : Source} (h : readMember depth members key s = .ok members') :
    (key ≠ "request" ∧ members'.request = members.request) ∨
      (key = "request" ∧ ∃ request,
        Reader.nullable AdmissionRequest.reader depth s = .ok request ∧
          members'.request = some request) := by
  unfold readMember at h
  split at h
  · rename_i hkey
    split at h
    · cases h
    · obtain ⟨request, hrequest, h⟩ := (bind_eq_ok_iff _ _ _).1 h
      cases h
      exact .inr ⟨hkey, request, hrequest, rfl⟩
  · rename_i hkey
    refine .inl ⟨hkey, ?_⟩
    split at h
    · split at h
      · cases h
      · obtain ⟨-, -, h⟩ := (bind_eq_ok_iff _ _ _).1 h
        cases h
        rfl
    · obtain ⟨value, -, h⟩ := (bind_eq_ok_iff _ _ _).1 h
      cases h
      rfl

theorem reader_request {depth : Nat} {s : Source} {v : AdmissionReview}
    (h : reader depth s = .ok v) :
    (s.member? "request" = none ∧ v.request = none) ∨
      ∃ s', s.member? "request" = some s' ∧
        Reader.nullable AdmissionRequest.reader (depth + 1) s' = .ok v.request := by
  obtain ⟨members, hmembers, hv⟩ := (bind_eq_ok_iff _ _ _).1 h
  have hrequest : v.request = members.request.join := by
    unfold ofMembers at hv
    split at hv
    · cases hv
      rfl
    · cases hv
  -- only the member under `request` sets it, and the last one counts
  have hread := Json.object_reads (fun members => members.request) "request"
    (fun s x => ∃ request,
      Reader.nullable AdmissionRequest.reader (depth + 1) s = .ok request ∧ x = some request)
    ?_ ?_ hmembers
  · rcases hread with ⟨hnone, hsame⟩ | ⟨s', hs', request, hread, hsome⟩
    · exact .inl ⟨hnone, by rw [hrequest, hsame]; rfl⟩
    · exact .inr ⟨s', hs', by rw [hread, hrequest, hsome]; rfl⟩
  · intro members key s members' hkey hstep
    rcases request_of_readMember hstep with ⟨-, hsame⟩ | ⟨hrequest, -⟩
    · exact hsame
    · exact absurd hrequest hkey
  · intro members s members' hstep
    rcases request_of_readMember hstep with ⟨hkey, -⟩ | ⟨-, hread⟩
    · exact absurd rfl hkey
    · exact hread

/-- The source of the object that a review submits. -/
def objectSource? (s : Source) : Option Source :=
  (s.member? "request").bind (·.field? "object" AdmissionRequest.objectPlace)

/-- The object that a review submits, if the review is taken as a value. -/
def submitted? (j : Json) : Option Json :=
  (j.get? "request").bind (·.field? "object" AdmissionRequest.objectPlace)

/-- The object lies in the request, and the request in the review. -/
def objectDepth : Nat := 2

/-- The object of a request that is decided about has a source. -/
theorem exists_objectSource {s : Source} {review : AdmissionReview} {request : AdmissionRequest}
    {object : SubmittedObject} (hreview : reader 0 s = .ok review)
    (hrequest : review.request = some request) (hobject : request.object = some object) :
    ∃ s', objectSource? s = some s' ∧ SubmittedObject.reader objectDepth s' = .ok object := by
  rcases reader_request hreview with ⟨-, hnone⟩ | ⟨requestSource, hrequestSource, hread⟩
  · rw [hrequest] at hnone
    cases hnone
  · rw [hrequest] at hread
    rcases AdmissionRequest.reader_object (Json.nullable_eq_ok_some hread) with
      ⟨-, hnone⟩ | ⟨s', hs', hread⟩
    · rw [hobject] at hnone
      cases hnone
    · rw [hobject] at hread
      refine ⟨s', ?_, Json.nullable_eq_ok_some hread⟩
      rw [objectSource?, hrequestSource, Option.bind_some, hs']

/-- If the whole review can be read as a value, the object can, and it is a part of that value. -/
theorem exists_submitted {s s' : Source} {v : Json} (hv : Reader.any 0 s = .ok v)
    (hs' : objectSource? s = some s') :
    ∃ submitted, submitted? v = some submitted ∧ Reader.any objectDepth s' = .ok submitted := by
  obtain ⟨requestSource, hrequestSource, hs'⟩ := Option.bind_eq_some_iff.1 hs'
  have hrequest := Json.any_get? hv "request"
  rw [hrequestSource] at hrequest
  generalize hget : v.get? "request" = request? at hrequest
  cases hrequest with
  | @some _ request hread =>
      have hobject := Json.any_field? hread "object" AdmissionRequest.objectPlace
      rw [hs'] at hobject
      generalize hfield : request.field? "object" AdmissionRequest.objectPlace = object? at hobject
      cases hobject with
      | @some _ submitted hread =>
          refine ⟨submitted, ?_, hread⟩
          rw [submitted?, hget, Option.bind_some, hfield]

/-- **Rules see the object that was submitted.** What is decided about is made from the object that
    stands in the review: under every key but those of the metadata, the API version and the kind
    it has what is written there. So wherever a value shows the same source, as the submitted
    object does if it is read as a whole, each path that begins with another key leads to the same
    in both, and a rule about such a path comes to the same result, but that a missing field is
    told of the object at hand. -/
theorem decode_transparent {text : String} {review : AdmissionReview} {request : AdmissionRequest}
    {subject : Subject} (hreview : parse text = .ok review)
    (hrequest : review.request = some request) (hdecode : request.decode = .ok subject) :
    ∃ object, objectSource? (Source.ofText text).1 = some object ∧
      SubmittedObject.Shows objectDepth object subject.object ∧
      (∀ submitted, SubmittedObject.Shows objectDepth object submitted →
        (∀ key path, key ∉ SubmittedObject.typedKeys →
          subject.object.at? (key :: path) = submitted.at? (key :: path)) ∧
        ∀ (r : Rule) key path, r.path = key :: path → key ∉ SubmittedObject.typedKeys →
          r.evaluate subject.object =
            (r.evaluate submitted).mapError (·.quoting subject.object)) ∧
      (∀ submitted, Reader.any objectDepth object = .ok submitted →
        SubmittedObject.Shows objectDepth object submitted) ∧
      ∀ v, Json.parse text = .ok v → ∃ submitted, submitted? v = some submitted ∧
        Reader.any objectDepth object = .ok submitted := by
  obtain ⟨o, ho, htree⟩ := AdmissionRequest.decode_eq_ok hdecode
  obtain ⟨object, hobject, hread⟩ := exists_objectSource (Json.run_eq_ok hreview) hrequest ho
  have hshows : SubmittedObject.Shows objectDepth object subject.object := by
    rw [htree]
    exact SubmittedObject.shows_tree hread
  refine ⟨object, hobject, hshows, ?_, fun submitted => SubmittedObject.shows_of_any, ?_⟩
  · intro submitted hsubmitted
    refine ⟨fun key path hkey => hshows.at?_eq hsubmitted hkey path, ?_⟩
    intro r key path hpath hkey
    refine Rule.evaluate_of_at?_eq ?_
    rw [hpath]
    exact hshows.at?_eq hsubmitted hkey path
  · intro v hv
    exact exists_submitted (Json.run_eq_ok hv) hobject

/-- A review that submits a pod, line by line. -/
def podLines : List String := [
  "\x7b\"apiVersion\":\"admission.k8s.io/v1\",\"kind\":\"AdmissionReview\",\"request\":\x7b",
  "\"uid\":\"1\",\"operation\":\"CREATE\",\"userInfo\":\x7b\x7d,",
  "\"kind\":\x7b\"group\":\"\",\"version\":\"v1\",\"kind\":\"Pod\"\x7d,",
  "\"resource\":\x7b\"group\":\"\",\"version\":\"v1\",\"resource\":\"pods\"\x7d,",
  "\"object\":\x7b\"kind\":\"Pod\",\"spec\":\x7b\"hostNetwork\":true\x7d\x7d\x7d\x7d"]

def podReview : String := String.ofList (podLines.flatMap String.toList)

theorem podReview_decodes :
    ∃ review request subject, parse podReview = .ok review ∧ review.request = some request ∧
      request.decode = .ok subject := by
  have hsome : ((parse podReview).toOption.bind fun review => review.request.bind
      fun request => request.decode.toOption).isSome = true := by
    -- to take apart a short line is quick, but not to take apart the whole text
    have hchars : podReview.toList = podLines.flatMap String.toList := String.toList_ofList
    rw [parse, Reader.run, Source.ofText, hchars]
    decide +kernel
  obtain ⟨subject, h⟩ := Option.isSome_iff_exists.1 hsome
  obtain ⟨review, hreview, h⟩ := Option.bind_eq_some_iff.1 h
  obtain ⟨request, hrequest, hdecode⟩ := Option.bind_eq_some_iff.1 h
  exact ⟨review, request, subject, eq_ok_of_toOption hreview, hrequest,
    eq_ok_of_toOption hdecode⟩

theorem decode_transparent_pod :
    ∃ review request subject, parse podReview = .ok review ∧ review.request = some request ∧
      request.decode = .ok subject ∧
      ∃ object, objectSource? (Source.ofText podReview).1 = some object ∧
        SubmittedObject.Shows objectDepth object subject.object := by
  obtain ⟨review, request, subject, hreview, hrequest, hdecode⟩ := podReview_decodes
  obtain ⟨object, hobject, hshows, -⟩ := decode_transparent hreview hrequest hdecode
  exact ⟨review, request, subject, hreview, hrequest, hdecode, object, hobject, hshows⟩

end AdmissionReview

end AdmissionRules
