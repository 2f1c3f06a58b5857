import AdmissionRules.Proofs.Json.Members
import AdmissionRules.Proofs.Text.Separated
import AdmissionRules.Reload.Reconcile

set_option autoImplicit false

/-! # Events reach the API server

An event is told by one request, which posts it to the events of the namespace of its config map
(`ApiRequest.Tells`). The name of the namespace stands in the path of the request as it is, so the
request can be made if the name can stand there (`EventText.call_tells`), as the name of every
namespace of a cluster can (`standsInPath_of_label`). -/

namespace AdmissionRules

/-! ## Texts -/

namespace Text

theorem toList_between (before name behind : String) :
    (before ++ name ++ behind).toList = before.toList ++ (name.toList ++ behind.toList) := by
  rw [String.toList_append, String.toList_append, List.append_assoc]

theorem utf8ByteSize_between (before name behind : String) :
    (before ++ name ++ behind).utf8ByteSize =
      before.utf8ByteSize + (name.utf8ByteSize + behind.utf8ByteSize) := by
  rw [String.utf8ByteSize_append, String.utf8ByteSize_append, Nat.add_assoc]

theorem utf8ByteSize_ofList_le (cs : List Char) :
    (String.ofList cs).utf8ByteSize ≤ 4 * cs.length := by
  induction cs with
  | nil => simp
  | cons c cs ih =>
      have hchar := c.utf8Size_le_four
      rw [String.ofList_cons, String.utf8ByteSize_append, String.utf8ByteSize_singleton,
        List.length_cons]
      omega

end Text

/-! ## Paths with an empty query -/

namespace Http.Target

theorem ofPath?_query {path : List Char} (hne : path ≠ [])
    (h : ∀ c ∈ path, isPathChar c = true) :
    ofPath? (path ++ ['?']) = some { path := String.ofList path, query := some "" } := by
  -- no character of a path ends it
  have hmark : '?' ∉ path := fun hmem => absurd (h _ hmem) (by decide)
  have hhash : '#' ∉ path ++ ['?'] := by
    rw [List.mem_append]
    rintro (hmem | hmem)
    · exact absurd (h _ hmem) (by decide)
    · exact absurd (List.mem_singleton.1 hmem) (by decide)
  simp only [ofPath?, Text.takeWhile_of_not_mem hhash, Text.takeWhile_append_cons hmark,
    Text.dropWhile_append_cons hmark]
  simp [List.all_eq_true.2 h, hne]

/-- A path from the root makes a target if it is not too long. -/
theorem ofText?_query {path : String} {rest : List Char} (hroot : path.toList = '/' :: rest)
    (h : ∀ c ∈ path.toList, isPathChar c = true) (hsize : path.utf8ByteSize < maxBytes) :
    ofText? (withParameters path []) = some { path, query := some "" } := by
  have htext : withParameters path [] = path ++ "?" := by simp [withParameters]
  have hbytes : ¬ maxBytes < (path ++ "?").utf8ByteSize := by
    rw [String.utf8ByteSize_append]
    exact Nat.not_lt.2 hsize
  have hpath : ofPath? ('/' :: (rest ++ ['?'])) = some { path, query := some "" } := by
    rw [hroot] at h
    rw [← List.cons_append, ofPath?_query (List.cons_ne_nil _ _) h, ← hroot, String.ofList_toList]
  have hchars : (path ++ "?").toList = '/' :: (rest ++ ['?']) := by
    rw [String.toList_append, hroot]
    rfl
  rw [htext, ofText?, if_neg hbytes, hchars]
  exact hpath

end Http.Target

/-! ## Namespaces -/

/-- A name that can stand in the path of events as that of their namespace: by its characters, and
    by the room that there is for them. -/
structure StandsInPath (name : String) : Prop where
  chars : ∀ c ∈ name.toList, Http.Target.isPathChar c = true
  size : (eventsPath name).utf8ByteSize < Http.Target.maxBytes

/-- The target of the events of a namespace. -/
theorem StandsInPath.target {name : String} (h : StandsInPath name) :
    Http.Target.ofText? (withParameters (eventsPath name) []) =
      some { path := eventsPath name, query := some "" } := by
  have hpath : (eventsPath name).toList =
      "/apis/events.k8s.io/v1/namespaces/".toList ++ (name.toList ++ "/events".toList) :=
    Text.toList_between _ _ _
  have hroot : (eventsPath name).toList.head? = some '/' := by
    rw [hpath, List.head?_append]
    rfl
  obtain ⟨rest, hrest⟩ := List.head?_eq_some_iff.1 hroot
  refine Http.Target.ofText?_query hrest ?_ h.size
  -- what stands around the name is a path by itself
  have hbefore : "/apis/events.k8s.io/v1/namespaces/".toList.all Http.Target.isPathChar = true := by
    decide
  have hbehind : "/events".toList.all Http.Target.isPathChar = true := by decide
  rw [hpath]
  exact List.forall_mem_append.2
    ⟨List.all_eq_true.1 hbefore, List.forall_mem_append.2 ⟨h.chars, List.all_eq_true.1 hbehind⟩⟩

/-- The name of a namespace of a cluster is short, and has only small letters, digits and
    hyphens. -/
theorem standsInPath_of_label {name : String}
    (hchars : ∀ c ∈ name.toList, ('a' ≤ c ∧ c ≤ 'z') ∨ ('0' ≤ c ∧ c ≤ '9') ∨ c = '-')
    (hlength : name.length ≤ 63) : StandsInPath name where
  chars c hc := by
    simp only [Http.Target.isPathChar, Bool.or_eq_true, Bool.and_eq_true, decide_eq_true_eq]
    rcases hchars c hc with ⟨hfirst, -⟩ | ⟨hfirst, hlast⟩ | rfl
    · have hcode : 97 ≤ c.toNat := hfirst
      omega
    · have hcodes : 48 ≤ c.toNat ∧ c.toNat ≤ 57 := ⟨hfirst, hlast⟩
      omega
    · decide
  size := by
    have hname := Text.utf8ByteSize_ofList_le name.toList
    rw [String.ofList_toList, String.length_toList] at hname
    have hbefore : "/apis/events.k8s.io/v1/namespaces/".utf8ByteSize = 34 := by decide +kernel
    have hbehind : "/events".utf8ByteSize = 7 := by decide +kernel
    have hpath : (eventsPath name).utf8ByteSize =
        "/apis/events.k8s.io/v1/namespaces/".utf8ByteSize
          + (name.utf8ByteSize + "/events".utf8ByteSize) := Text.utf8ByteSize_between _ _ _
    rw [hpath, hbefore, hbehind, Http.Target.maxBytes]
    omega

/-! ## Requests -/

/-- Publishing an event sends the request that its call makes, if it makes one. -/
theorem publishEvent_eq (server : ApiServer) (c : ApiCall) :
    publishEvent server c = c.request?.toList := by
  unfold publishEvent ApiServer.call
  cases c.request? <;> rfl

/-- A request that tells of a config map: it posts an event of a type, with a note, to the events of
    the namespace. -/
structure ApiRequest.Tells (r : ApiRequest) (type note : String) (m : ConfigMap) : Prop where
  method : r.method = "POST"
  path : r.target.path =
    "/apis/events.k8s.io/v1/namespaces/" ++ m.metadata.namespace.getD "default" ++ "/events"
  type : r.body.bind (·.at? ["type"]) = some (.string type)
  note : r.body.bind (·.at? ["note"]) = some (.string note)
  regarding : r.body.bind (·.at? ["regarding"]) = some m.regarding

/-- An event can be told in every namespace whose name can stand in a path. -/
theorem EventText.call_tells (e : EventText) (reporter : Reporter) (m : ConfigMap) (time : Nat)
    (h : StandsInPath (m.metadata.namespace.getD "default")) :
    ∃ request, (e.call reporter m time).request? = some request ∧
      request.Tells e.type.name e.note m := by
  have hrequest : (e.call reporter m time).request? = some
      { method := "POST"
        target := { path := eventsPath (m.metadata.namespace.getD "default"), query := some "" }
        contentType := some "application/json"
        body := some (e.toJson reporter m time) } := by
    rw [ApiCall.request?, EventText.call, h.target, Option.map_some]
  refine ⟨_, hrequest, rfl, rfl, ?_, ?_, ?_⟩
  all_goals
    rw [Option.bind_some, EventText.toJson, Json.at?_ofMembers]
    rfl

end AdmissionRules
