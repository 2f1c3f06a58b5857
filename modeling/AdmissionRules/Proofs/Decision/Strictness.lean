import AdmissionRules.Proofs.Decision.Verdict
import AdmissionRules.Proofs.Policy.Index
import Mathlib.Data.List.Forall2

set_option autoImplicit false

/-! # More rules allow no more

A document that entries and rules are put into demands all that it did before, whatever else it
demands now (`Snapshot.rulesOf_sublist`). If no other groups are exempt under it, then what it allows
was allowed before (`Snapshot.allowed_of_insertions`): every ground to allow under the new document
is one under the old, though not always the same, since a kind may have had no rules, and one who
is exempt no longer has to pass them. -/

namespace AdmissionRules

/-! ## Insertions -/

/-- An entry for the same kind in which further rules may stand anywhere. -/
def KindRules.Grows (entry entry' : KindRules) : Prop :=
  entry'.kind = entry.kind ∧ entry.rules.Sublist entry'.rules

/-- Entries among which further entries, and in which further rules, may stand anywhere. -/
def Insertions (entries entries' : List KindRules) : Prop :=
  List.SublistForall₂ KindRules.Grows entries entries'

/-- What is put into a document leaves the rules of every kind in their order. -/
theorem Snapshot.rulesOf_sublist {entries entries' : List KindRules}
    (h : Insertions entries entries') (kind : String) :
    (rulesOf entries kind).Sublist (rulesOf entries' kind) := by
  induction h with
  | nil => exact List.nil_sublist _
  | @cons entry entry' rest rest' hgrows _ ih =>
      obtain ⟨hkind, hrules⟩ := hgrows
      rw [rulesOf_cons, rulesOf_cons, hkind]
      split
      · exact hrules.append ih
      · exact ih
  | @cons_right entry rest rest' _ ih =>
      rw [rulesOf_cons]
      exact ih.trans (List.sublist_append_right _ _)

/-! ## Rules -/

/-- While the budget says the same before every rule, it does not matter where a rule stands. -/
theorem allPass_iff_of_steady {object : Json} {checks : Nat → Option Exhaustion}
    (hsteady : ∀ i j, checks i = checks j) (rules : List Rule) :
    AllPass object checks rules ↔ ∀ r ∈ rules, r.Passes object (checks 0) := by
  constructor
  · intro h r hr
    obtain ⟨i, hi⟩ := List.mem_iff_getElem?.1 hr
    rw [hsteady 0 i]
    exact h i r hi
  · intro h i r hr
    rw [hsteady i 0]
    exact h r (List.mem_of_getElem? hr)

/-! ## Decisions -/

namespace Snapshot

variable {s s' : Snapshot} {subject : Subject} {checks : Nat → Option Exhaustion}

theorem isAllowed_iff (s : Snapshot) (subject : Subject) (checks : Nat → Option Exhaustion) :
    (s.decide subject checks).isAllowed = true ↔
      s.Exempts subject.groups ∨ s.rulesFor subject.kind = [] ∨
        AllPass subject.object checks (s.rulesFor subject.kind) :=
  ((s.verdict_eq_iff_callsFor subject checks _).1 rfl).allowed_iff

/-- What is allowed under more rules and fewer exemptions is allowed under less. -/
theorem isAllowed_of_sublist (hsteady : ∀ i j, checks i = checks j)
    (hrules : (s.rulesFor subject.kind).Sublist (s'.rulesFor subject.kind))
    (hadmin : ∀ g ∈ s'.adminGroups, g ∈ s.adminGroups)
    (h : (s'.decide subject checks).isAllowed = true) :
    (s.decide subject checks).isAllowed = true := by
  rw [isAllowed_iff] at h ⊢
  rcases h with ⟨g, hg, hexempt⟩ | hnil | hpass
  · exact .inl ⟨g, hg, hadmin g hexempt⟩
  · rw [hnil] at hrules
    exact .inr (.inl (List.sublist_nil.1 hrules))
  · rw [allPass_iff_of_steady hsteady] at hpass
    refine .inr (.inr ((allPass_iff_of_steady hsteady _).2 ?_))
    intro r hr
    exact hpass r (hrules.subset hr)

/-- **More rules open no hole.** Of two documents let the second come from the first by insertions,
    or let it at least have the rules of the first for every kind, in their order, among its own;
    and let all groups that are exempt under it be exempt under the first. Then all that it allows,
    the budget being the same before every rule, the first allows too. -/
theorem allowed_of_insertions (d d' : PolicyDocument) (generation generation' : Nat)
    (hadmin : ∀ g ∈ d'.adminGroups, g ∈ d.adminGroups) :
    (Insertions d.entries d'.entries →
      ∀ kind, (rulesOf d.entries kind).Sublist (rulesOf d'.entries kind)) ∧
    ((∀ kind, (rulesOf d.entries kind).Sublist (rulesOf d'.entries kind)) →
      ∀ (subject : Subject) (checks : Nat → Option Exhaustion), (∀ i j, checks i = checks j) →
        ((build d' generation').decide subject checks).isAllowed = true →
        ((build d generation).decide subject checks).isAllowed = true) := by
  refine ⟨fun h => rulesOf_sublist h, ?_⟩
  intro hrules subject checks hsteady hallowed
  refine isAllowed_of_sublist hsteady ?_ ?_ hallowed
  · rw [rulesFor_build, rulesFor_build]
    exact hrules subject.kind
  · exact hadmin

/-- Pods must not use the network of their host. -/
def noHostNetwork : Rule :=
  { field := "spec.hostNetwork", type := .bool, op := .is, value := .bool false }

/-- Pods must name a service account. -/
def serviceAccount : Rule :=
  { field := "spec.serviceAccountName", type := .string, op := .isNot, value := .string "" }

/-- A document for pods, under which a group of operators is exempt. -/
def podDocument : PolicyDocument :=
  { entries := [⟨none, "Pod", [noHostNetwork]⟩], adminGroups := ["ops", defaultAdminGroup] }

/-- The same with one more rule for pods and an entry for services, and without the exemption. -/
def stricterDocument : PolicyDocument :=
  { entries := [⟨none, "Service", []⟩, ⟨some "v1", "Pod", [serviceAccount, noHostNetwork]⟩],
    adminGroups := [defaultAdminGroup] }

/-- A pod that satisfies both rules. -/
def webPod : Subject :=
  { kind := "Pod", apiVersion := "v1", groups := ["dev"],
    object := .ofMembers [("spec", .ofMembers [
      ("hostNetwork", .bool false), ("serviceAccountName", .string "web")])] }

theorem allowed_of_insertions_webPod :
    Insertions podDocument.entries stricterDocument.entries ∧
    (∀ g ∈ stricterDocument.adminGroups, g ∈ podDocument.adminGroups) ∧
    ((build stricterDocument 2).decide webPod fun _ => none).reason = "AllRulesSatisfied" ∧
    ((build podDocument 1).decide webPod fun _ => none).isAllowed = true := by
  have hinsertions : Insertions podDocument.entries stricterDocument.entries :=
    .cons_right (.cons ⟨rfl, by decide⟩ .nil)
  have hadmin : ∀ g ∈ stricterDocument.adminGroups, g ∈ podDocument.adminGroups := by decide
  obtain ⟨hreason, hallowed⟩ :
      ((build stricterDocument 2).decide webPod fun _ => none).reason = "AllRulesSatisfied" ∧
        ((build stricterDocument 2).decide webPod fun _ => none).isAllowed = true := by
    decide +kernel
  obtain ⟨hsublist, hdecide⟩ := allowed_of_insertions podDocument stricterDocument 1 2 hadmin
  exact ⟨hinsertions, hadmin, hreason,
    hdecide (hsublist hinsertions) webPod _ (fun _ _ => rfl) hallowed⟩

end Snapshot

end AdmissionRules
