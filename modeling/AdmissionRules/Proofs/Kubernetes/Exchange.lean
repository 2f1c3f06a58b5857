import AdmissionRules.Kubernetes.Discovery

set_option autoImplicit false

/-! # Requests of a conversation

What all requests of a conversation have in common is told from its parts: `Exchange.Sends` holds
of a sequence when it holds of every step. Discovery only reads (`discover_sends_get`). -/

namespace AdmissionRules

namespace Exchange

variable {α β : Type}

/-! ## Sequences -/

theorem bind_of_error {e : Exchange α} {problem : ApiError} (h : e.result = .error problem)
    (next : α → Exchange β) :
    e >>= next = { result := .error problem, requests := e.requests } := by
  show e.andThen next = _
  simp only [andThen, h]

theorem bind_of_ok {e : Exchange α} {x : α} (h : e.result = .ok x) (next : α → Exchange β) :
    e >>= next =
      { result := (next x).result, requests := e.requests ++ (next x).requests } := by
  show e.andThen next = _
  simp only [andThen, h]

/-- What follows without asking anything more does not fail. -/
theorem bind_pure_eq_error_iff (e : Exchange α) (f : α → β) (problem : ApiError) :
    (e >>= fun x => pure (f x)).result = .error problem ↔ e.result = .error problem := by
  cases hresult : e.result with
  | error problem' =>
      rw [bind_of_error hresult, Except.error.injEq, Except.error.injEq]
  | ok x =>
      rw [bind_of_ok hresult]
      constructor
      · intro h
        cases h
      · intro h
        cases h

/-! ## What is sent -/

/-- Every request that is sent has a property. -/
def Sends (p : ApiRequest → Prop) (e : Exchange α) : Prop := ∀ r ∈ e.requests, p r

variable {p : ApiRequest → Prop}

theorem Sends.done (result : Except ApiError α) : (Exchange.done result).Sends p :=
  fun _ h => absurd h List.not_mem_nil

theorem Sends.pure (x : α) : (Pure.pure x : Exchange α).Sends p := .done (.ok x)

theorem Sends.bind {e : Exchange α} (he : e.Sends p) {next : α → Exchange β}
    (hnext : ∀ x, (next x).Sends p) : (e >>= next).Sends p := by
  cases hresult : e.result with
  | error problem =>
      rw [bind_of_error hresult]
      exact he
  | ok x =>
      rw [bind_of_ok hresult]
      intro r hr
      rcases List.mem_append.1 hr with hr | hr
      · exact he r hr
      · exact hnext x r hr

theorem Sends.forEach {ask : α → Exchange β} (hask : ∀ x, (ask x).Sends p) (items : List α) :
    (Exchange.forEach ask items).Sends p := by
  induction items with
  | nil => exact .done _
  | cons x rest ih => exact (hask x).bind fun y => ih.bind fun ys => .pure _

end Exchange

open Exchange (Sends)

/-! ## Calls -/

/-- A call sends at most the request that it makes. -/
theorem ApiServer.call_sends {α : Type} (server : ApiServer) (c : ApiCall)
    (reader : Json.Reader α) : (server.call c reader).Sends (·.method = c.method) := by
  unfold ApiServer.call
  split
  · rename_i request hrequest
    obtain ⟨target, -, rfl⟩ := Option.map_eq_some_iff.1 hrequest
    intro r hr
    rw [List.mem_singleton.1 hr]
  · exact .done _

/-! ## Discovery -/

/-- Reads only. -/
def IsGet (r : ApiRequest) : Prop := r.method = "GET"

theorem ApiServer.get_sends {α : Type} (server : ApiServer) (target : String)
    (reader : Json.Reader α) : (server.get target reader).Sends IsGet :=
  server.call_sends (.get target) reader

theorem askVersions_sends (server : ApiServer) (versions : List (String × String)) :
    (askVersions server versions).Sends IsGet := by
  unfold askVersions
  split
  · exact .done _
  · refine .forEach (fun asked => ?_) versions
    obtain ⟨version, path⟩ := asked
    exact (server.get_sends path ResourceList.reader).bind fun _ => .pure _

theorem askGroup_sends (server : ApiServer) (g : ApiGroup) : (askGroup server g).Sends IsGet :=
  (askVersions_sends server _).bind fun _ => .pure _

theorem askCore_sends (server : ApiServer) : (askCore server).Sends IsGet :=
  (server.get_sends "/api" coreVersions).bind fun _ =>
    (askVersions_sends server _).bind fun _ => .pure _

theorem discover_sends_get (server : ApiServer) : (discover server).Sends IsGet :=
  (server.get_sends "/apis" ApiGroup.listReader).bind fun groups =>
    (Sends.forEach (askGroup_sends server) groups).bind fun _ =>
      (askCore_sends server).bind fun _ => .pure _

end AdmissionRules
