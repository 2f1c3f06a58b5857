import AdmissionRules.Proofs.Reload.Retry

set_option autoImplicit false

/-! # A failed reconciliation is tried again exactly when that can help

A reconciliation fails because the config map gives no policy, or because the webhook cannot be
registered for a policy that was put in force (`ControllerState.Failure`). Only the latter is a
failure of the API server. It is tried again, and the former waits for a change of the config map
(`ControllerState.requeue_iff`). -/

namespace AdmissionRules

/-! ## What is done about an error -/

/-- A failure of the API server that may pass by itself: it is not reached, it has too much to do,
    or it is at fault. -/
inductive ApiError.Transient : ApiError → Prop where
  | unreachable : Transient .unreachable
  | overloaded : Transient (.refused 429)
  | faulty (code : Nat) (h : 500 ≤ code) : Transient (.refused code)

theorem ApiError.isRetryable_iff (e : ApiError) : e.isRetryable = true ↔ e.Transient := by
  constructor
  · intro h
    cases e with
    | unreachable => exact .unreachable
    | refused code =>
        rcases Bool.or_eq_true_iff.1 h with h | h
        · exact .faulty code (of_decide_eq_true h)
        · rw [of_decide_eq_true h]
          exact .overloaded
    | _ => cases h
  · rintro (_ | _ | ⟨code, h⟩)
    · rfl
    · rfl
    · exact Bool.or_eq_true_iff.2 (.inl (decide_eq_true h))

namespace ReloadError

/-- A failure of the API server is tried again: soon if it may pass by itself, and else later. -/
theorem nextStep_api_iff (e : ApiError) (seconds : Nat) :
    (api e).nextStep = .requeue seconds ↔
      (e.Transient ∧ seconds = 30) ∨ (¬e.Transient ∧ seconds = 300) := by
  have hstep : (api e).nextStep = .requeue (if e.isRetryable then 30 else 300) := rfl
  rw [hstep, ← e.isRetryable_iff, NextStep.requeue.injEq]
  cases e.isRetryable <;> simp [eq_comm]

theorem nextStep_api_ne (e : ApiError) : (api e).nextStep ≠ .awaitChange := NextStep.noConfusion

end ReloadError

theorem Reconciliation.nextStep_of_error {r : Reconciliation} {e : ReloadError}
    (h : r.result = .error e) : r.nextStep = e.nextStep := by
  simp only [nextStep, h]

/-! ## How a reconciliation fails -/

namespace ControllerState

/-- The webhook is to be registered for a document, and this fails. -/
structure RegistrationFails (settings : ControllerSettings) (server : ApiServer)
    (registeredKinds : Option (List String)) (d : PolicyDocument) (problem : ApiError) : Prop where
  outdated : registeredKinds ≠ some d.kinds
  failed : ∃ registration : WebhookRegistration, settings.registration = some registration ∧
    (registration.ensure server d.entries).result = .error problem

/-- How a reconciliation that found a controller in some state comes to an error. -/
inductive Failure (settings : ControllerSettings) (server : ApiServer) (m : ConfigMap)
    (before : ControllerState) (r : Reconciliation) : ReloadError → Prop where
  | refused (problem : ConfigMapError) (h : m.policy settings.key = .error problem)
      (kept : r.state.store = before.store) :
      Failure settings server m before r (.configMap problem)
  | unregistered (d : PolicyDocument) (h : m.policy settings.key = .ok d)
      (loaded : r.state.store = before.store.accept d) (problem : ApiError)
      (hfails : RegistrationFails settings server before.registeredKinds d problem) :
      Failure settings server m before r (.api problem)

variable (settings : ControllerSettings) (server : ApiServer) (time : Nat) {m : ConfigMap}

theorem registrationFails_iff {settings : ControllerSettings} {registration : WebhookRegistration}
    (hreg : settings.registration = some registration) (server : ApiServer)
    (registeredKinds : Option (List String)) (d : PolicyDocument) (problem : ApiError) :
    RegistrationFails settings server registeredKinds d problem ↔
      registeredKinds ≠ some d.kinds ∧
        (registration.ensure server d.entries).result = .error problem := by
  constructor
  · rintro ⟨houtdated, registration', hsome, hfailed⟩
    rw [hreg, Option.some.injEq] at hsome
    exact ⟨houtdated, hsome ▸ hfailed⟩
  · rintro ⟨houtdated, hfailed⟩
    exact ⟨houtdated, registration, hreg, hfailed⟩

theorem register_eq_error_iff (s : ControllerState) {d : PolicyDocument} {generation : Nat}
    (hd : s.store.current = .build d generation) (problem : ApiError) :
    (s.register settings server).result = .error problem ↔
      RegistrationFails settings server s.registeredKinds d problem := by
  have hkinds : s.store.current.kinds = d.kinds := by rw [hd, Snapshot.kinds_build]
  have hdocument : s.store.current.document = d := by rw [hd, Snapshot.build]
  cases hreg : settings.registration with
  | none =>
      have hnone : s.register settings server = pure s := by simp only [register, hreg]
      rw [hnone]
      constructor
      · intro h
        cases h
      · rintro ⟨-, registration, hsome, -⟩
        rw [hreg] at hsome
        cases hsome
  | some registration =>
      rw [registrationFails_iff hreg]
      by_cases huptodate : s.registeredKinds = some d.kinds
      · rw [register_of_registered hreg server s (hkinds ▸ huptodate)]
        constructor
        · intro h
          cases h
        · rintro ⟨houtdated, -⟩
          exact absurd huptodate houtdated
      · rw [register_of_outdated hreg server s (hkinds ▸ huptodate), hdocument,
          Exchange.bind_pure_eq_error_iff]
        exact (and_iff_right huptodate).symm

/-- An accepted policy leads to an error exactly if the webhook cannot be registered for it. -/
theorem accept_eq_error_iff (s : ControllerState) {d : PolicyDocument} {generation : Nat}
    (hd : s.store.current = .build d generation) (answered : Nat) (e : ReloadError) :
    (s.accept settings server time m answered).result = .error e ↔
      ∃ problem, RegistrationFails settings server s.registeredKinds d problem ∧
        e = .api problem := by
  have hresult := (accept_of_register settings server time m (s := s) answered rfl).2.1
  have hcounted : (s.counted time).store.current = .build d generation := hd
  rw [hresult, mapError_eq_error_iff]
  refine exists_congr fun problem => and_congr ?_ eq_comm
  rw [map_eq_error_iff]
  exact register_eq_error_iff settings server _ hcounted problem

/-- **One reconciliation** that comes to an error was refused the policy, or could not register
    the webhook for it. -/
theorem reconcile_failure {before : ControllerState}
    (hahead : before.store.generation < before.store.nextGeneration) {e : ReloadError}
    (h : (before.reconcile settings server time m).result = .error e) :
    Failure settings server m before (before.reconcile settings server time m) e := by
  cases hm : m.isBeingDeleted with
  | true =>
      rw [before.reconcile_of_deleted settings server time hm] at h
      cases h
  | false =>
      cases hpolicy : m.policy settings.key with
      | error problem =>
          rw [before.reconcile_of_refused settings server time hm hpolicy] at h ⊢
          cases h
          exact .refused problem hpolicy rfl
      | ok d =>
          rw [before.reconcile_of_policy settings server time hm hpolicy] at h ⊢
          have hcurrent := congrArg Store.current (Store.accept_of_ahead hahead d)
          obtain ⟨problem, hfails, rfl⟩ :=
            (accept_eq_error_iff settings server time _ hcurrent _ e).1 h
          exact .unregistered d hpolicy (accept_spec settings server time m _ _).1 problem hfails

/-- **A failed reconciliation is tried again exactly when that can help.** Loads that overlap in
    any way have led to a store, and a reconciliation that finds it fails. It is tried again
    exactly if the store has put the document of the config map in force, so that the generation
    has advanced, and only the webhook could not be registered: after 30 seconds if that failure may
    pass by itself, and after 300 if not. It waits for the next change exactly if the store is left
    as it was, and then the key is missing or the document was rejected. -/
theorem requeue_iff {before : ControllerState} {loads : List LoadStep}
    (hstore : before.store = ((Loading.start .new).run loads).store) {r : Reconciliation}
    (hr : before.reconcile settings server time m = r) {e : ReloadError}
    (h : r.result = .error e) :
    ((∃ seconds, r.nextStep = .requeue seconds) ↔
      before.store.generation < r.state.store.generation) ∧
    ((∃ seconds, r.nextStep = .requeue seconds) ↔
      ∃ text d problem, m.get? settings.key = some text ∧ PolicyDocument.parse text = .ok d ∧
        r.state.store.current = .build d before.store.nextGeneration ∧
        RegistrationFails settings server before.registeredKinds d problem ∧ e = .api problem) ∧
    (∀ seconds, r.nextStep = .requeue seconds ↔
      ∃ problem, e = .api problem ∧
        ((problem.Transient ∧ seconds = 30) ∨ (¬problem.Transient ∧ seconds = 300))) ∧
    (r.nextStep = .awaitChange ↔ r.state.store = before.store) ∧
    (r.nextStep = .awaitChange ↔ r.state.store = before.store ∧
      (m.get? settings.key = none ∨ ∃ text problem, m.get? settings.key = some text ∧
        PolicyDocument.parse text = .error problem)) := by
  have hahead : before.store.generation < before.store.nextGeneration := by
    rw [hstore]
    exact (Loading.apart_new.run loads).generation_lt
  -- only two failures are possible behind a store that loads have led to
  have hfailure : Failure settings server m before r e := by
    subst hr
    exact reconcile_failure settings server time hahead h
  rw [r.nextStep_of_error h]
  cases hfailure with
  | refused problem hpolicy kept =>
      have hwaits : ∀ seconds, (ReloadError.configMap problem).nextStep ≠ .requeue seconds :=
        fun _ => NextStep.noConfusion
      rw [kept]
      refine ⟨?_, ?_, fun seconds => ?_, iff_of_true rfl rfl, iff_of_true rfl ⟨rfl, ?_⟩⟩
      · exact iff_of_false (fun ⟨_, h⟩ => hwaits _ h) (Nat.lt_irrefl _)
      · refine iff_of_false (fun ⟨_, h⟩ => hwaits _ h) ?_
        rintro ⟨-, -, -, -, -, -, -, ⟨⟩⟩
      · refine iff_of_false (hwaits seconds) ?_
        rintro ⟨-, ⟨⟩, -⟩
      · rcases ConfigMap.policy_eq_error_iff.1 hpolicy with ⟨hkey, -⟩ | ⟨text, e, hkey, hparse, -⟩
        · exact .inl hkey
        · exact .inr ⟨text, e, hkey, hparse⟩
  | unregistered d hpolicy loaded problem hfails =>
      have hrequeued : ∃ seconds, (ReloadError.api problem).nextStep = .requeue seconds := ⟨_, rfl⟩
      have hnot := ReloadError.nextStep_api_ne problem
      rw [Store.accept_of_ahead hahead d] at loaded
      -- the store has gone on although the reconciliation failed, so it differs
      have hchanged : r.state.store ≠ before.store := by
        intro hsame
        have hnext := congrArg Store.nextGeneration (loaded.symm.trans hsame)
        exact Nat.succ_ne_self _ hnext
      obtain ⟨text, hkey, hparse⟩ := ConfigMap.policy_eq_ok_iff.1 hpolicy
      refine ⟨iff_of_true hrequeued ?_, iff_of_true hrequeued ?_, fun seconds => ?_,
        iff_of_false hnot hchanged, iff_of_false hnot fun h => hchanged h.1⟩
      · rw [loaded]
        exact hahead
      · exact ⟨text, d, problem, hkey, hparse, congrArg Store.current loaded, hfails, rfl⟩
      · rw [ReloadError.nextStep_api_iff]
        constructor
        · intro h
          exact ⟨problem, rfl, h⟩
        · rintro ⟨_, ⟨⟩, h⟩
          exact h

/-- What a new controller comes to with a server that has too much to do. -/
def overloaded : Reconciliation :=
  new.reconcile Course.podSettings Course.overloadedServer 0
    (Course.kindOccasion Course.overloadedServer "Pod").configMap

/-- The policy is put in force, and as the server takes no configuration for it, it is asked again
    soon. -/
theorem requeue_iff_overloaded :
    overloaded.result = .error (.api (.refused 503)) ∧ overloaded.nextStep = .requeue 30 ∧
      new.store.generation < overloaded.state.store.generation := by
  have hresult : overloaded.result = .error (.api (.refused 503)) := by decide +kernel
  have hstore : new.store = ((Loading.start .new).run []).store := rfl
  have hr : _ = overloaded := rfl
  obtain ⟨hgeneration, -, hseconds, -⟩ := requeue_iff _ _ _ hstore hr hresult
  have hstep : overloaded.nextStep = .requeue 30 :=
    (hseconds 30).2 ⟨.refused 503, rfl, .inl ⟨.faulty 503 (by decide), rfl⟩⟩
  exact ⟨hresult, hstep, hgeneration.1 ⟨30, hstep⟩⟩

end ControllerState

end AdmissionRules
