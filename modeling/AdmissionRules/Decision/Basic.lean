import AdmissionRules.Decision.Budget
import AdmissionRules.Evaluation
import AdmissionRules.Policy.Snapshot

set_option autoImplicit false

/-! # Decisions

Members of an exempt group are allowed, and so are objects of kinds without rules. Otherwise the
rules of the kind are taken in order: before each the budget is checked, and the first rule that
is not reached in time, cannot be evaluated or is violated denies. -/

namespace AdmissionRules

/-! ## What is decided -/

/-- What is known of an object that asks for admission. -/
structure Subject where
  kind : String
  apiVersion : String
  groups : List String
  object : Json

/-! ## Decisions -/

inductive Approval where
  | adminBypass
  | noRulesForKind
  | allRulesSatisfied
deriving DecidableEq, Repr

/-- Why a rule stops a decision. -/
inductive Obstacle where
  | exhausted (e : Exhaustion)
  | violated
  | failed (e : EvaluationError)

inductive Decision where
  | allowed (a : Approval)
  | denied (r : Rule) (o : Obstacle)

namespace Approval

def reason : Approval → String
  | .adminBypass => "AdminBypass"
  | .noRulesForKind => "NoRulesForKind"
  | .allRulesSatisfied => "AllRulesSatisfied"

end Approval

namespace Obstacle

def reason : Obstacle → String
  | .exhausted .cancelled => "DecisionCancelled"
  | .exhausted .deadlineExceeded => "DeadlineExceeded"
  | .violated => "RuleViolated"
  | .failed _ => "RuleEvaluationFailed"

/-- The text of an obstacle at a rule. -/
def message (r : Rule) : Obstacle → String
  | .exhausted .cancelled => "Decision cancelled before verifying the rule: " ++ r.text
  | .exhausted .deadlineExceeded => "Deadline exceeded before verifying the rule: " ++ r.text
  | .violated => "Rule: " ++ r.text ++ " violated"
  | .failed e =>
    "The error " ++ e.message ++ " (" ++ e.kind ++ ") occurred verifying the rule: " ++ r.text

end Obstacle

namespace Decision

def isAllowed : Decision → Bool
  | .allowed _ => true
  | .denied _ _ => false

def reason : Decision → String
  | .allowed a => a.reason
  | .denied _ o => o.reason

/-- The text of a denial. -/
def message? : Decision → Option String
  | .allowed _ => none
  | .denied r o => some (o.message r)

end Decision

/-! ## Results -/

/-- A decision as it is handed on, in texts that need not be there. -/
structure DecisionResult where
  allowed : Bool
  reason : Option String
  message : Option String
deriving DecidableEq

namespace DecisionResult

def allow (reason : String) : DecisionResult :=
  { allowed := true, reason := some reason, message := none }

def deny (reason message : String) : DecisionResult :=
  { allowed := false, reason := some reason, message := some message }

/-- The reason under which a result is counted. -/
def reasonText (r : DecisionResult) : String := r.reason.getD "Unknown"

end DecisionResult

def Decision.result : Decision → DecisionResult
  | .allowed a => .allow a.reason
  | .denied r o => .deny o.reason (o.message r)

/-! ## Deciding -/

/-- What stops a decision at a rule, given what the check of the budget before it says. -/
def Rule.obstacle? (r : Rule) (object : Json) (exhaustion : Option Exhaustion) :
    Option Obstacle :=
  match exhaustion with
  | some e => some (.exhausted e)
  | none =>
    match r.evaluate object with
    | .ok true => none
    | .ok false => some .violated
    | .error e => some (.failed e)

/-- Takes rules in order; `checks i` is what the check of the budget before the `i`th one says. -/
def decideRules (object : Json) (checks : Nat → Option Exhaustion) : Nat → List Rule → Decision
  | _, [] => .allowed .allRulesSatisfied
  | i, r :: rest =>
    match r.obstacle? object (checks i) with
    | some o => .denied r o
    | none => decideRules object checks (i + 1) rest

/-- Decides about a subject under the policy of a snapshot. -/
def Snapshot.decide (s : Snapshot) (subject : Subject) (checks : Nat → Option Exhaustion) :
    Decision :=
  if s.isAdmin subject.groups then .allowed .adminBypass
  else
    match s.rulesFor subject.kind with
    | [] => .allowed .noRulesForKind
    | rules => decideRules subject.object checks 0 rules

end AdmissionRules
