import AdmissionRules.Decision.Basic
import Mathlib.Data.Nat.Find

set_option autoImplicit false

/-! # Verdicts of decisions

A policy calls for one verdict about a subject (`Snapshot.CallsFor`): members of an exempt group
are allowed whatever else holds, then objects of kinds without rules, then objects that pass every
rule of their kind; all others are denied at the first rule that does not let them pass. The main
statement says that a decision is the verdict called for, for every outcome of the checks of the
budget. So nothing is allowed but for one of the three grounds, and a denial names its rule. -/

namespace AdmissionRules

/-! ## Verdicts -/

/-- What a decision tells: whether it allows, its reason, and the text of a denial. -/
structure Verdict where
  allowed : Bool
  reason : String
  message? : Option String
deriving DecidableEq

def Decision.verdict (d : Decision) : Verdict :=
  { allowed := d.isAllowed, reason := d.reason, message? := d.message? }

namespace Rule

/-- A rule lets an object pass: the budget is not exhausted before it, and it is satisfied. -/
def Passes (r : Rule) (object : Json) (check : Option Exhaustion) : Prop :=
  check = none ∧ r.evaluate object = .ok true

/-- The reason and the message with which a rule stops a decision. An exhausted budget counts
    before anything that evaluating the rule would show. -/
inductive Stops (r : Rule) (object : Json) : Option Exhaustion → String → String → Prop where
  | cancelled :
      r.Stops object (some .cancelled) "DecisionCancelled"
        ("Decision cancelled before verifying the rule: " ++ r.text)
  | deadlineExceeded :
      r.Stops object (some .deadlineExceeded) "DeadlineExceeded"
        ("Deadline exceeded before verifying the rule: " ++ r.text)
  | violated (h : r.evaluate object = .ok false) :
      r.Stops object none "RuleViolated" ("Rule: " ++ r.text ++ " violated")
  | failed (e : EvaluationError) (h : r.evaluate object = .error e) :
      r.Stops object none "RuleEvaluationFailed"
        ("The error " ++ e.message ++ " (" ++ e.kind ++ ") occurred verifying the rule: " ++ r.text)

end Rule

/-- Every rule of a list lets an object pass; `checks i` is what the check of the budget before
    the `i`th rule says. -/
def AllPass (object : Json) (checks : Nat → Option Exhaustion) (rules : List Rule) : Prop :=
  ∀ (i : Nat) (r : Rule), rules[i]? = some r → r.Passes object (checks i)

/-- The first rule of a list that does not let an object pass, and its position. -/
def FirstStop (object : Json) (checks : Nat → Option Exhaustion) (rules : List Rule) (i : Nat)
    (r : Rule) : Prop :=
  rules[i]? = some r ∧ ¬ r.Passes object (checks i) ∧
    ∀ (j : Nat) (q : Rule), j < i → rules[j]? = some q → q.Passes object (checks j)

theorem FirstStop.ne_nil {object : Json} {checks : Nat → Option Exhaustion} {rules : List Rule}
    {i : Nat} {r : Rule} (h : FirstStop object checks rules i r) : rules ≠ [] := by
  rintro rfl
  have hr := h.1
  simp at hr

namespace Snapshot

/-- Whether one of the groups is exempt under the policy. -/
def Exempts (s : Snapshot) (groups : List String) : Prop := ∃ g ∈ groups, g ∈ s.adminGroups

/-- The verdicts that a policy calls for about a subject. -/
inductive CallsFor (s : Snapshot) (subject : Subject) (checks : Nat → Option Exhaustion) :
    Verdict → Prop where
  | adminBypass (hadmin : s.Exempts subject.groups) :
      s.CallsFor subject checks ⟨true, "AdminBypass", none⟩
  | noRulesForKind (hadmin : ¬ s.Exempts subject.groups) (hnil : s.rulesFor subject.kind = []) :
      s.CallsFor subject checks ⟨true, "NoRulesForKind", none⟩
  | allRulesSatisfied (hadmin : ¬ s.Exempts subject.groups)
      (hne : s.rulesFor subject.kind ≠ [])
      (hpass : AllPass subject.object checks (s.rulesFor subject.kind)) :
      s.CallsFor subject checks ⟨true, "AllRulesSatisfied", none⟩
  | stopped (hadmin : ¬ s.Exempts subject.groups) (i : Nat) (r : Rule)
      (hfirst : FirstStop subject.object checks (s.rulesFor subject.kind) i r)
      (reason message : String) (hstop : r.Stops subject.object (checks i) reason message) :
      s.CallsFor subject checks ⟨false, reason, some message⟩

theorem isAdmin_iff (s : Snapshot) (groups : List String) :
    s.isAdmin groups = true ↔ s.Exempts groups := by
  simp [isAdmin, Exempts]

end Snapshot

/-! ## One rule -/

namespace Rule

theorem obstacle?_eq_none_iff (r : Rule) (object : Json) (check : Option Exhaustion) :
    r.obstacle? object check = none ↔ r.Passes object check := by
  unfold obstacle? Passes
  split
  · simp
  · split <;> rename_i heval <;> simp [heval]

/-- What stops a decision is the obstacle found, with its reason and its message. -/
theorem obstacle?_of_stops {r : Rule} {object : Json} {check : Option Exhaustion}
    {reason message : String} (h : r.Stops object check reason message) :
    ∃ o, r.obstacle? object check = some o ∧ o.reason = reason ∧ o.message r = message := by
  cases h with
  | cancelled => exact ⟨.exhausted .cancelled, rfl, rfl, rfl⟩
  | deadlineExceeded => exact ⟨.exhausted .deadlineExceeded, rfl, rfl, rfl⟩
  | violated heval => exact ⟨.violated, by simp only [obstacle?, heval], rfl, rfl⟩
  | failed e heval => exact ⟨.failed e, by simp only [obstacle?, heval], rfl, rfl⟩

/-- A rule that does not let an object pass stops the decision. -/
theorem exists_stops_of_not_passes {r : Rule} {object : Json} {check : Option Exhaustion}
    (h : ¬ r.Passes object check) : ∃ reason message, r.Stops object check reason message := by
  cases check with
  | some e =>
      cases e with
      | cancelled => exact ⟨_, _, .cancelled⟩
      | deadlineExceeded => exact ⟨_, _, .deadlineExceeded⟩
  | none =>
      cases heval : r.evaluate object with
      | ok b =>
          cases b with
          | false => exact ⟨_, _, .violated heval⟩
          | true => exact absurd ⟨rfl, heval⟩ h
      | error e => exact ⟨_, _, .failed e heval⟩

/-- The message of a denial shows the rule. -/
theorem Stops.exists_text {r : Rule} {object : Json} {check : Option Exhaustion}
    {reason message : String} (h : r.Stops object check reason message) :
    ∃ before after, message = before ++ r.text ++ after := by
  cases h with
  | cancelled => exact ⟨_, "", String.append_empty.symm⟩
  | deadlineExceeded => exact ⟨_, "", String.append_empty.symm⟩
  | violated _ => exact ⟨"Rule: ", " violated", rfl⟩
  | failed e _ => exact ⟨_, "", String.append_empty.symm⟩

end Rule

/-! ## A list of rules -/

/-- Starting one check later is starting with the checks that are left. -/
theorem decideRules_succ (object : Json) (checks : Nat → Option Exhaustion) (rules : List Rule)
    (n : Nat) :
    decideRules object checks (n + 1) rules
      = decideRules object (fun i => checks (i + 1)) n rules := by
  induction rules generalizing n with
  | nil => rfl
  | cons r rest ih => simp only [decideRules, ih]

theorem decideRules_eq_allowed (object : Json) (checks : Nat → Option Exhaustion)
    (rules : List Rule) (h : AllPass object checks rules) :
    decideRules object checks 0 rules = .allowed .allRulesSatisfied := by
  induction rules generalizing checks with
  | nil => rfl
  | cons first rest ih =>
      have hfirst : first.obstacle? object (checks 0) = none :=
        (first.obstacle?_eq_none_iff object (checks 0)).2 (h 0 first rfl)
      simp only [decideRules, hfirst, decideRules_succ]
      exact ih (fun i => checks (i + 1)) fun i r hr => h (i + 1) r hr

theorem decideRules_eq_denied (object : Json) (checks : Nat → Option Exhaustion)
    (rules : List Rule) (i : Nat) (r : Rule) (o : Obstacle)
    (hfirst : FirstStop object checks rules i r) (ho : r.obstacle? object (checks i) = some o) :
    decideRules object checks 0 rules = .denied r o := by
  induction rules generalizing checks i with
  | nil => exact absurd rfl hfirst.ne_nil
  | cons first rest ih =>
      obtain ⟨hr, hstop, hbefore⟩ := hfirst
      cases i with
      | zero =>
          simp only [List.getElem?_cons_zero, Option.some.injEq] at hr
          subst hr
          simp only [decideRules, ho]
      | succ i =>
          have hpass : first.obstacle? object (checks 0) = none :=
            (first.obstacle?_eq_none_iff object (checks 0)).2 (hbefore 0 first i.succ_pos rfl)
          simp only [decideRules, hpass, decideRules_succ]
          -- the rest is decided with the checks after the first, so its stop is one place earlier
          exact ih (fun i => checks (i + 1)) i
            ⟨hr, hstop, fun j q hj hq => hbefore (j + 1) q (Nat.succ_lt_succ hj) hq⟩ ho

/-- Either every rule lets the object pass, or there is a first one that does not. -/
theorem allPass_or_firstStop (object : Json) (checks : Nat → Option Exhaustion)
    (rules : List Rule) :
    AllPass object checks rules ∨ ∃ i r, FirstStop object checks rules i r := by
  by_cases hex : ∃ (i : Nat) (r : Rule), rules[i]? = some r ∧ ¬ r.Passes object (checks i)
  · right
    classical
    obtain ⟨r, hr, hstop⟩ := Nat.find_spec hex
    refine ⟨Nat.find hex, r, hr, hstop, fun j q hj hq => ?_⟩
    by_contra hpass
    exact Nat.find_min hex hj ⟨q, hq, hpass⟩
  · left
    intro i r hr
    by_contra hpass
    exact hex ⟨i, r, hr, hpass⟩

/-! ## Decisions -/

namespace Snapshot

theorem decide_of_exempts {s : Snapshot} {subject : Subject} (h : s.Exempts subject.groups)
    (checks : Nat → Option Exhaustion) : s.decide subject checks = .allowed .adminBypass := by
  unfold decide
  rw [if_pos ((s.isAdmin_iff _).2 h)]

/-- Without an exempt group the rules of the kind decide, if there are any. -/
theorem decide_of_not_exempts {s : Snapshot} {subject : Subject}
    (h : ¬ s.Exempts subject.groups) (checks : Nat → Option Exhaustion) :
    s.decide subject checks =
      if s.rulesFor subject.kind = [] then .allowed .noRulesForKind
      else decideRules subject.object checks 0 (s.rulesFor subject.kind) := by
  unfold decide
  rw [if_neg (fun hadmin => h ((s.isAdmin_iff _).1 hadmin))]
  split <;> simp_all

/-- A decision is the verdict that the policy calls for. -/
theorem verdict_of_callsFor {s : Snapshot} {subject : Subject}
    {checks : Nat → Option Exhaustion} {v : Verdict} (h : s.CallsFor subject checks v) :
    (s.decide subject checks).verdict = v := by
  cases h with
  | adminBypass hadmin =>
      rw [decide_of_exempts hadmin]
      rfl
  | noRulesForKind hadmin hnil =>
      rw [decide_of_not_exempts hadmin, if_pos hnil]
      rfl
  | allRulesSatisfied hadmin hne hpass =>
      rw [decide_of_not_exempts hadmin, if_neg hne,
        decideRules_eq_allowed subject.object checks _ hpass]
      rfl
  | stopped hadmin i r hfirst reason message hstop =>
      obtain ⟨o, ho, hreason, hmessage⟩ := Rule.obstacle?_of_stops hstop
      rw [decide_of_not_exempts hadmin, if_neg hfirst.ne_nil,
        decideRules_eq_denied subject.object checks _ i r o hfirst ho]
      simp only [Decision.verdict, Decision.isAllowed, Decision.reason, Decision.message?,
        hreason, hmessage]

/-- Every subject has a verdict. -/
theorem exists_callsFor (s : Snapshot) (subject : Subject) (checks : Nat → Option Exhaustion) :
    ∃ v, s.CallsFor subject checks v := by
  by_cases hadmin : s.Exempts subject.groups
  · exact ⟨_, .adminBypass hadmin⟩
  · by_cases hnil : s.rulesFor subject.kind = []
    · exact ⟨_, .noRulesForKind hadmin hnil⟩
    · rcases allPass_or_firstStop subject.object checks (s.rulesFor subject.kind) with
        hpass | ⟨i, r, hfirst⟩
      · exact ⟨_, .allRulesSatisfied hadmin hnil hpass⟩
      · obtain ⟨reason, message, hstop⟩ := Rule.exists_stops_of_not_passes hfirst.2.1
        exact ⟨_, .stopped hadmin i r hfirst reason message hstop⟩

theorem verdict_eq_iff_callsFor (s : Snapshot) (subject : Subject)
    (checks : Nat → Option Exhaustion) (v : Verdict) :
    (s.decide subject checks).verdict = v ↔ s.CallsFor subject checks v := by
  constructor
  · rintro rfl
    obtain ⟨w, hw⟩ := s.exists_callsFor subject checks
    rw [verdict_of_callsFor hw]
    exact hw
  · exact verdict_of_callsFor

/-- The grounds on which a policy calls for allowing. -/
theorem CallsFor.allowed_iff {s : Snapshot} {subject : Subject}
    {checks : Nat → Option Exhaustion} {v : Verdict} (h : s.CallsFor subject checks v) :
    v.allowed = true ↔
      s.Exempts subject.groups ∨ s.rulesFor subject.kind = [] ∨
        AllPass subject.object checks (s.rulesFor subject.kind) := by
  cases h with
  | adminBypass hadmin => simp [hadmin]
  | noRulesForKind _ hnil => simp [hnil]
  | allRulesSatisfied _ _ hpass =>
      simp only [true_iff]
      exact Or.inr (Or.inr hpass)
  | stopped hadmin i r hfirst _ _ _ =>
      simp only [Bool.false_eq_true, false_iff, not_or]
      exact ⟨hadmin, hfirst.ne_nil, fun hpass => hfirst.2.1 (hpass i r hfirst.1)⟩

/-- **Decisions are fail-closed and stop at the first rule that does not let pass.** For every
    policy, subject and outcome of the checks, the decision is the one verdict called for; it
    allows on no other than the three grounds; and a denial shows the text of the first rule that
    stops it. -/
theorem decide_failsClosed (s : Snapshot) (subject : Subject)
    (checks : Nat → Option Exhaustion) :
    (∀ v, (s.decide subject checks).verdict = v ↔ s.CallsFor subject checks v) ∧
    ((s.decide subject checks).isAllowed = true ↔
      s.Exempts subject.groups ∨ s.rulesFor subject.kind = [] ∨
        AllPass subject.object checks (s.rulesFor subject.kind)) ∧
    (∀ message, (s.decide subject checks).message? = some message →
      ∃ i r, FirstStop subject.object checks (s.rulesFor subject.kind) i r ∧
        ∃ before after, message = before ++ r.text ++ after) := by
  have hverdict := s.verdict_eq_iff_callsFor subject checks
  have hcalls := (hverdict _).1 rfl
  refine ⟨hverdict, hcalls.allowed_iff, fun message hmessage => ?_⟩
  generalize hv : (s.decide subject checks).verdict = v at hcalls
  have hm : v.message? = some message := by
    rw [← hv]
    exact hmessage
  cases hcalls with
  | adminBypass _ => simp at hm
  | noRulesForKind _ _ => simp at hm
  | allRulesSatisfied _ _ _ => simp at hm
  | stopped _ i r hfirst reason text hstop =>
      simp only [Option.some.injEq] at hm
      subst hm
      exact ⟨i, r, hfirst, hstop.exists_text⟩

end Snapshot

end AdmissionRules
