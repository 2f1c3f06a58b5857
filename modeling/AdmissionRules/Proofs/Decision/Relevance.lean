import AdmissionRules.Proofs.Decision.Verdict
import AdmissionRules.Proofs.Policy.Index
import AdmissionRules.Proofs.Rule.Dependence

set_option autoImplicit false

/-! # What a decision depends on

A decision looks at no more than the policy names: whether the subject is exempt, the rules of its
kind, and the fields at the paths of these rules. Of two subjects, each under a policy of its own,
for which these are the same (`Snapshot.Alike`), the same is decided
(`Snapshot.decide_of_alike`), but that the failure to find a field quotes the object. How the rules
of a kind come to stand in a document plays no part (`Snapshot.rulesOf_of_rearranged`). -/

namespace AdmissionRules

/-! ## Decisions told of another object -/

def Obstacle.quoting (object : Json) : Obstacle → Obstacle
  | .failed e => .failed (e.quoting object)
  | o => o

/-- A decision as it is told of another object. -/
def Decision.quoting (object : Json) : Decision → Decision
  | .denied r o => .denied r (o.quoting object)
  | d => d

theorem Obstacle.reason_quoting (object : Json) (o : Obstacle) :
    (o.quoting object).reason = o.reason := by
  cases o <;> rfl

theorem Decision.isAllowed_quoting (object : Json) (d : Decision) :
    (d.quoting object).isAllowed = d.isAllowed := by
  cases d <;> rfl

theorem Decision.reason_quoting (object : Json) (d : Decision) :
    (d.quoting object).reason = d.reason := by
  cases d with
  | allowed a => rfl
  | denied r o => exact o.reason_quoting object

/-- Only a field that is not found is told of the object. -/
theorem Decision.quoting_cases (object : Json) (d : Decision) :
    d.quoting object = d ∨
      ∃ r field quoted, d = .denied r (.failed (.fieldNotFound field quoted)) := by
  cases d with
  | allowed a => exact .inl rfl
  | denied r o =>
      cases o with
      | exhausted e => exact .inl rfl
      | violated => exact .inl rfl
      | failed e =>
          cases e with
          | fieldNotFound field quoted => exact .inr ⟨r, field, quoted, rfl⟩
          | fieldMismatch m => exact .inl rfl
          | valueMismatch type op found => exact .inl rfl
          | unsupportedOperator type op => exact .inl rfl

/-! ## Rules -/

section Rules

variable {a b : Json}

theorem Rule.obstacle?_of_at?_eq {r : Rule} (h : a.at? r.path = b.at? r.path)
    (check : Option Exhaustion) :
    r.obstacle? a check = (r.obstacle? b check).map (·.quoting a) := by
  unfold obstacle?
  cases check with
  | some e => rfl
  | none =>
      rw [evaluate_of_at?_eq h]
      cases r.evaluate b with
      | error e => rfl
      | ok passed => cases passed <;> rfl

/-- On two objects with the same at every rule's path, rules stop at the same place for the same
    reason. -/
theorem decideRules_of_at?_eq {rules : List Rule}
    (h : ∀ r ∈ rules, a.at? r.path = b.at? r.path) (checks : Nat → Option Exhaustion) (i : Nat) :
    decideRules a checks i rules = (decideRules b checks i rules).quoting a := by
  induction rules generalizing i with
  | nil => rfl
  | cons r rest ih =>
      obtain ⟨hr, hrest⟩ := List.forall_mem_cons.1 h
      rw [decideRules, decideRules, Rule.obstacle?_of_at?_eq hr]
      cases r.obstacle? b (checks i) with
      | some o => rfl
      | none => exact ih hrest (i + 1)

/-- What denies is one of the rules, and stops the decision. -/
theorem obstacle?_of_decideRules {checks : Nat → Option Exhaustion} {i : Nat} {rules : List Rule}
    {r : Rule} {o : Obstacle} (h : decideRules a checks i rules = .denied r o) :
    r ∈ rules ∧ ∃ check, r.obstacle? a check = some o := by
  induction rules generalizing i with
  | nil => cases h
  | cons first rest ih =>
      rw [decideRules] at h
      split at h
      · rename_i o' ho'
        cases h
        exact ⟨List.mem_cons_self, checks i, ho'⟩
      · obtain ⟨hmem, hstop⟩ := ih h
        exact ⟨List.mem_cons_of_mem _ hmem, hstop⟩

/-- If the field of the rule that denies is not found, it is not there, and the denial quotes the
    object. -/
theorem fieldNotFound_of_decideRules {checks : Nat → Option Exhaustion} {i : Nat}
    {rules : List Rule} {r : Rule} {field : String} {object : Json}
    (h : decideRules a checks i rules = .denied r (.failed (.fieldNotFound field object))) :
    r ∈ rules ∧ a.at? r.path = none ∧ field = r.field ∧ object = a := by
  obtain ⟨hmem, check, hstop⟩ := obstacle?_of_decideRules h
  refine ⟨hmem, ?_⟩
  unfold Rule.obstacle? at hstop
  split at hstop
  · cases hstop
  · split at hstop
    · cases hstop
    · cases hstop
    · rename_i e heval
      cases hstop
      exact Rule.at?_of_fieldNotFound heval

end Rules

/-! ## Decisions -/

namespace Snapshot

variable {s s' : Snapshot} {a b : Subject}

/-- All that decisions about two subjects, each under its own policy, depend on is the same. -/
structure Alike (s s' : Snapshot) (a b : Subject) : Prop where
  exempts : s.Exempts a.groups ↔ s'.Exempts b.groups
  rules : s.rulesFor a.kind = s'.rulesFor b.kind
  fields : ∀ r ∈ s.rulesFor a.kind, a.object.at? r.path = b.object.at? r.path

/-- About subjects that are alike the same is decided, told of the object at hand. -/
theorem decide_of_alike (h : Alike s s' a b) (checks : Nat → Option Exhaustion) :
    s.decide a checks = (s'.decide b checks).quoting a.object := by
  by_cases hexempt : s.Exempts a.groups
  · rw [decide_of_exempts hexempt, decide_of_exempts (h.exempts.1 hexempt)]
    rfl
  · rw [decide_of_not_exempts hexempt, decide_of_not_exempts (mt h.exempts.2 hexempt), ← h.rules]
    split
    · rfl
    · exact decideRules_of_at?_eq h.fields checks 0

/-- A denial because a field is not found comes from a rule of the kind whose field is not there. -/
theorem fieldNotFound_of_decide {checks : Nat → Option Exhaustion} {r : Rule} {field : String}
    {object : Json} (h : s.decide a checks = .denied r (.failed (.fieldNotFound field object))) :
    r ∈ s.rulesFor a.kind ∧ a.object.at? r.path = none ∧ field = r.field ∧ object = a.object := by
  by_cases hexempt : s.Exempts a.groups
  · rw [decide_of_exempts hexempt] at h
    cases h
  · rw [decide_of_not_exempts hexempt] at h
    split at h
    · cases h
    · exact fieldNotFound_of_decideRules h

/-! ## Documents -/

/-- Rearrangements of entries that leave the rules of a kind as they are. To move an entry of
    another kind is to take it out and to put it in elsewhere. -/
inductive Rearranged (kind : String) : List KindRules → List KindRules → Prop where
  /-- An entry of another kind is taken out. -/
  | other (before after : List KindRules) {entry : KindRules} (h : entry.kind ≠ kind) :
      Rearranged kind (before ++ entry :: after) (before ++ after)
  /-- The rules of an entry are split over two. -/
  | split (before after : List KindRules) (v v₁ v₂ : Option String) (rules₁ rules₂ : List Rule) :
      Rearranged kind (before ++ ⟨v, kind, rules₁ ++ rules₂⟩ :: after)
        (before ++ ⟨v₁, kind, rules₁⟩ :: ⟨v₂, kind, rules₂⟩ :: after)
  /-- An entry names another API version, or none. -/
  | apiVersion (before after : List KindRules) (v v' : Option String) (rules : List Rule) :
      Rearranged kind (before ++ ⟨v, kind, rules⟩ :: after) (before ++ ⟨v', kind, rules⟩ :: after)
  | refl (entries : List KindRules) : Rearranged kind entries entries
  | symm {entries entries' : List KindRules} (h : Rearranged kind entries entries') :
      Rearranged kind entries' entries
  | trans {entries entries' entries'' : List KindRules} (h : Rearranged kind entries entries')
      (h' : Rearranged kind entries' entries'') : Rearranged kind entries entries''

theorem rulesOf_of_rearranged {kind : String} {entries entries' : List KindRules}
    (h : Rearranged kind entries entries') : rulesOf entries kind = rulesOf entries' kind := by
  induction h with
  | other before after hother =>
      rw [rulesOf_append, rulesOf_append, rulesOf_cons, if_neg hother, List.nil_append]
  | split before after v v₁ v₂ rules₁ rules₂ =>
      simp only [rulesOf_append, rulesOf_cons, if_true, List.append_assoc]
  | apiVersion before after v v' rules =>
      simp only [rulesOf_append, rulesOf_cons]
  | refl entries => rfl
  | symm _ ih => exact ih.symm
  | trans _ _ ih ih' => exact ih.trans ih'

/-- **A decision depends on what the policy names, and on nothing else.** Under two documents, with
    budgets that have no bound: if both subjects are exempt or neither is, the rules for their
    kinds are the same, and so is the field of each of these rules, then the same is allowed for the
    same reason. The message is the same too, unless the field of the rule that denies is absent
    from both objects, which are then quoted. In particular it does not matter how the rules of a
    kind are spread over a document, which other kinds and which API versions it names, in which
    order and how often groups are given, and what else the objects hold. -/
theorem decide_relevant (d d' : PolicyDocument) (generation generation' : Nat) (a b : Subject)
    (times times' : Nat → Nat) :
    let s := build d generation
    let s' := build d' generation'
    let x := s.decide a fun i => Budget.unbounded.check (times i)
    let y := s'.decide b fun i => Budget.unbounded.check (times' i)
    (Alike s s' a b →
      x.isAllowed = y.isAllowed ∧ x.reason = y.reason ∧
      (x.message? = y.message? ∨
        ∃ r ∈ s.rulesFor a.kind, a.object.at? r.path = none ∧ b.object.at? r.path = none ∧
          x = .denied r (.failed (.fieldNotFound r.field a.object)) ∧
          y = .denied r (.failed (.fieldNotFound r.field b.object)))) ∧
    ((∀ g, g ∈ d.adminGroups ↔ g ∈ d'.adminGroups) → (∀ g, g ∈ a.groups ↔ g ∈ b.groups) →
      a.kind = b.kind → Rearranged a.kind d.entries d'.entries →
      (∀ r ∈ rulesOf d.entries a.kind, a.object.at? r.path = b.object.at? r.path) →
      x.isAllowed = y.isAllowed ∧ x.reason = y.reason) := by
  intro s s' x y
  -- what may differ is the object quoted when a field is missing, and nothing else
  have hquoting : Alike s s' a b → x = y.quoting a.object := fun h => decide_of_alike h _
  have hsame : Alike s s' a b → x.isAllowed = y.isAllowed ∧ x.reason = y.reason := by
    intro h
    rw [hquoting h, Decision.isAllowed_quoting, Decision.reason_quoting]
    exact ⟨rfl, rfl⟩
  refine ⟨?_, ?_⟩
  · intro h
    obtain ⟨hallowed, hreason⟩ := hsame h
    refine ⟨hallowed, hreason, ?_⟩
    rcases y.quoting_cases a.object with hy | ⟨r, field, quoted, hy⟩
    · left
      rw [hquoting h, hy]
    · right
      obtain ⟨hmem, habsent, rfl, rfl⟩ := fieldNotFound_of_decide hy
      rw [← h.rules] at hmem
      refine ⟨r, hmem, (h.fields r hmem).trans habsent, habsent, ?_, hy⟩
      rw [hquoting h, hy]
      rfl
  · intro hadmin hgroups hkind hentries hfields
    refine hsame ⟨?_, ?_, ?_⟩
    · constructor
      · rintro ⟨g, hg, hexempt⟩
        exact ⟨g, (hgroups g).1 hg, (hadmin g).1 hexempt⟩
      · rintro ⟨g, hg, hexempt⟩
        exact ⟨g, (hgroups g).2 hg, (hadmin g).2 hexempt⟩
    · rw [rulesFor_build, rulesFor_build, ← hkind]
      exact rulesOf_of_rearranged hentries
    · rw [rulesFor_build]
      exact hfields

end Snapshot

end AdmissionRules
