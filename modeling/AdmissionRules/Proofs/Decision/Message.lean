import AdmissionRules.Decision.Basic
import AdmissionRules.Proofs.Policy.Publication
import AdmissionRules.Proofs.Rule.Text

set_option autoImplicit false

/-! # What the message of a denial tells of its rule

The message of a denial has the text of the rule in it, behind an opening that says what happened.
As the text of a rule is told from its end, the message tells why it was denied and the type, the
operator and the value of the rule. It tells the field too, unless the rule could not be evaluated:
then the opening quotes the object, and it cannot be seen where it ends and the text of the rule
begins (`Rule.text_identifies`, `Snapshot.decide_sameMessage`). -/

namespace AdmissionRules

theorem EvaluationError.bracket_not_mem_kind (e : EvaluationError) : ')' ∉ e.kind.toList := by
  cases e <;> simp only [kind] <;> decide

/-! ## Parts of a message -/

namespace Obstacle

/-- What stands before the text of the rule. -/
def opening : Obstacle → String
  | .exhausted .cancelled => "Decision cancelled before verifying the rule: "
  | .exhausted .deadlineExceeded => "Deadline exceeded before verifying the rule: "
  | .violated => "Rule: "
  | .failed e => "The error " ++ e.message ++ " (" ++ e.kind ++ ") occurred verifying the rule: "

/-- What stands behind the text of the rule. -/
def closing : Obstacle → String
  | .violated => " violated"
  | _ => ""

/-- The first letters of the opening. -/
def initials : Obstacle → List Char
  | .exhausted .cancelled => ['D', 'e', 'c']
  | .exhausted .deadlineExceeded => ['D', 'e', 'a']
  | .violated => ['R', 'u', 'l']
  | .failed _ => ['T', 'h', 'e']

variable {o o' : Obstacle} {r r' : Rule}

theorem message_eq (o : Obstacle) (r : Rule) : o.message r = o.opening ++ r.text ++ o.closing := by
  rcases o with (_ | _) | _ | e
  · exact String.append_empty.symm
  · exact String.append_empty.symm
  · rfl
  · exact String.append_empty.symm

theorem message_toList (o : Obstacle) (r : Rule) :
    (o.message r).toList =
      (o.opening.toList ++ ("\x7bfield: ".toList ++ r.field.toList)) ++ r.ending
        ++ o.closing.toList := by
  simp only [message_eq, String.toList_append, Rule.text_toList, List.append_assoc]

theorem take_message (o : Obstacle) (r : Rule) : (o.message r).toList.take 3 = o.initials := by
  rw [message_eq, String.toList_append, String.toList_append, List.append_assoc]
  rcases o with (_ | _) | _ | e
  · rfl
  · rfl
  · rfl
  · simp only [opening, String.toList_append, List.append_assoc]
    rfl

/-- The message tells what happened. -/
theorem reason_eq_of_message (h : o.message r = o'.message r') : o.reason = o'.reason := by
  have hinitials : o.initials = o'.initials := by
    rw [← o.take_message r, ← o'.take_message r', h]
  rcases o with (_ | _) | _ | _ <;> rcases o' with (_ | _) | _ | _ <;>
    first | rfl | exact absurd hinitials (by simp [initials])

theorem closing_eq_of_reason (h : o.reason = o'.reason) : o.closing = o'.closing := by
  rcases o with (_ | _) | _ | _ <;> rcases o' with (_ | _) | _ | _ <;>
    first | rfl | exact absurd h (by simp [reason])

/-- Without an evaluation that failed, the reason tells the opening. -/
theorem opening_eq_of_reason (hnot : ∀ e, o ≠ .failed e) (h : o.reason = o'.reason) :
    o.opening = o'.opening := by
  rcases o with (_ | _) | _ | e
  case failed => exact absurd rfl (hnot e)
  all_goals
    rcases o' with (_ | _) | _ | _ <;> first | rfl | exact absurd h (by simp [reason])

/-- The same error opens a message in the same way, if the rest is the same. -/
theorem opening_eq_of_failed {e e' : EvaluationError} {cs cs' : List Char}
    (hmessage : e.message = e'.message)
    (h : (opening (.failed e)).toList ++ cs = (opening (.failed e')).toList ++ cs') :
    opening (.failed e) = opening (.failed e') := by
  have hbracket : ") occurred verifying the rule: ".toList =
      ')' :: " occurred verifying the rule: ".toList := rfl
  simp only [opening, hmessage, String.toList_append, List.append_assoc, hbracket,
    List.cons_append] at h
  have hrest := List.append_cancel_left (List.append_cancel_left (List.append_cancel_left h))
  obtain ⟨hkind, -⟩ :=
    Text.append_cons_inj e.bracket_not_mem_kind e'.bracket_not_mem_kind hrest
  rw [opening, opening, hmessage, String.toList_inj.1 hkind]

/-- **The message of a denial** tells what happened, and of the rule all but the field; and the
    field too, if the opening is known. -/
theorem message_inj (h : o.message r = o'.message r') :
    o.reason = o'.reason ∧ r.type = r'.type ∧ r.op = r'.op ∧ r.value.text = r'.value.text ∧
      o.opening.toList ++ ("\x7bfield: ".toList ++ r.field.toList) =
        o'.opening.toList ++ ("\x7bfield: ".toList ++ r'.field.toList) := by
  have hreason := reason_eq_of_message h
  have hchars := congrArg String.toList h
  rw [message_toList, message_toList, closing_eq_of_reason hreason] at hchars
  obtain ⟨hbefore, htype, hop, hvalue⟩ :=
    Rule.append_ending_inj (List.append_cancel_right hchars)
  exact ⟨hreason, htype, hop, hvalue, hbefore⟩

theorem field_eq_of_opening (hopening : o.opening = o'.opening)
    (h : o.opening.toList ++ ("\x7bfield: ".toList ++ r.field.toList) =
      o'.opening.toList ++ ("\x7bfield: ".toList ++ r'.field.toList)) :
    r.field = r'.field := by
  rw [hopening] at h
  exact String.toList_inj.1 (List.append_cancel_left (List.append_cancel_left h))

end Obstacle

/-! ## Rules and denials -/

/-- **The text of a rule identifies the rule.** Rules that pass their check, whatever their fields
    and values hold, show the same text only if they have the same field, type and operator and
    values that are written alike, and so the same value, unless it is a number. The message of a
    denial tells the reason and the type, the operator and the value of the rule. It tells the
    rule, unless the rule could not be evaluated, and then it does for the same error. -/
theorem Rule.text_identifies {r r' : Rule} (hr : r.defect? = none) (hr' : r'.defect? = none) :
    (r.text = r'.text ↔
      r.field = r'.field ∧ r.type = r'.type ∧ r.op = r'.op ∧ r.value.text = r'.value.text) ∧
    (r.text = r'.text → (∀ x, r.value ≠ .float x) → r.value = r'.value) ∧
    ∀ o o', (Decision.denied r o).message? = (Decision.denied r' o').message? →
      (Decision.denied r o).reason = (Decision.denied r' o').reason ∧
      r.type = r'.type ∧ r.op = r'.op ∧ r.value.text = r'.value.text ∧
      ((∀ x, r.value ≠ .float x) → r.value = r'.value) ∧
      ((∀ e, o ≠ .failed e) → r.text = r'.text) ∧
      ∀ e e', o = .failed e → o' = .failed e' → e.message = e'.message → r.text = r'.text := by
  have hvalues : r.type = r'.type → r.op = r'.op → r.value.text = r'.value.text →
      (∀ x, r.value ≠ .float x) → r.value = r'.value :=
    (r.defect?_eq_none_iff.1 hr).value_eq (r'.defect?_eq_none_iff.1 hr')
  refine ⟨text_eq_iff, ?_, ?_⟩
  · intro htext
    obtain ⟨-, htype, hop, hvalue⟩ := text_eq_iff.1 htext
    exact hvalues htype hop hvalue
  · intro o o' hmessage
    obtain ⟨hreason, htype, hop, hvalue, hbefore⟩ := Obstacle.message_inj (Option.some.inj hmessage)
    have htext : o.opening = o'.opening → r.text = r'.text := fun hopening =>
      text_eq_iff.2 ⟨Obstacle.field_eq_of_opening hopening hbefore, htype, hop, hvalue⟩
    refine ⟨hreason, htype, hop, hvalue, hvalues htype hop hvalue, ?_, ?_⟩
    · intro hnot
      exact htext (Obstacle.opening_eq_of_reason hnot hreason)
    · rintro e e' rfl rfl herror
      exact htext (Obstacle.opening_eq_of_failed herror hbefore)

/-- A rule whose value looks like the rest of another rule. -/
def longValue : Rule :=
  { field := "a", type := .string, op := .is
    value := .string "x\", type: string, op: Is, value: \"y" }

/-- A rule whose field holds what stands before the end of that value. -/
def longField : Rule :=
  { field := "a, type: string, op: Is, value: \"x", type := .string, op := .is
    value := .string "y" }

/-- Not even these two are shown alike. -/
theorem Rule.text_identifies_lookalikes :
    longValue.defect? = none ∧ longField.defect? = none ∧ longValue.text ≠ longField.text ∧
      (Decision.denied longValue .violated).message? ≠
        (Decision.denied longField .violated).message? := by
  have hvalue : longValue.defect? = none := by decide +kernel
  have hfield : longField.defect? = none := by decide +kernel
  obtain ⟨htext, -, hmessage⟩ := Rule.text_identifies hvalue hfield
  have hne : longValue.text ≠ longField.text := fun h => absurd (htext.1 h).1 (by decide)
  refine ⟨hvalue, hfield, hne, fun h => hne ?_⟩
  exact (hmessage .violated .violated h).2.2.2.2.2.1 fun _ => Obstacle.noConfusion

/-! ## A message that two rules share

Two rules ask for a truth value. The field of one is short, and that of the other goes on with an
error and the beginning of a rule's text. An object with a number under the longer field is denied
for that, and one with a certain text under the short field for this. The text makes up for what
the message lacks of the longer field. -/

/-- What follows the value in an error about a text, up to the field of the rule. -/
def errorEnd : String :=
  " is of the type string, expected bool (FieldTypeMismatch) occurred verifying the rule: "
    ++ "\x7bfield: a"

def longerField : String := "a accessor error: \"" ++ errorEnd

def truthRule (field : String) : Rule := { field, type := .bool, op := .is, value := .bool true }

def truthPolicy : PolicyDocument :=
  { entries :=
      [{ apiVersion := none, kind := "Pod", rules := [truthRule "a", truthRule longerField] }]
    adminGroups := ["system:masters"] }

/-- The policy as it is written. -/
def truthDocument : String :=
  "forKindsRules: [\x7bkind: Pod, rules: [\x7bfield: a, type: bool, op: Is, value: true\x7d, "
    ++ "\x7bfield: " ++ Text.quoted longerField ++ ", type: bool, op: Is, value: true\x7d]\x7d]"

/-- What is decided about a pod once the document is loaded. -/
def truthDecision (object : Json) : Decision :=
  (Store.new.load truthDocument).2.current.decide
    { kind := "Pod", apiVersion := "v1", groups := [], object } fun _ => none

/-- An object with a number where the second rule asks for a truth value. -/
def numberObject : Json :=
  .object [("a", .bool true), (longerField, .number (.integer 5))]

/-- An object with a text where the first rule asks for a truth value. -/
def textObject : Json :=
  .object [("a", .string (errorEnd ++ " accessor error: 5 is of the type int64, expected bool "
    ++ "(FieldTypeMismatch) occurred verifying the rule: \x7bfield: a accessor error: "))]

theorem truthDecision_eq (object : Json) :
    truthDecision object = (Snapshot.build truthPolicy 1).decide
      { kind := "Pod", apiVersion := "v1", groups := [], object } fun _ => none := by
  have hparse : PolicyDocument.parse truthDocument = .ok truthPolicy :=
    eq_ok_of_toOption (by decide +kernel)
  have hahead : Store.new.generation < Store.new.nextGeneration := by decide
  rw [truthDecision, Store.new.load_of_parse_ok hparse, Store.accept_of_ahead hahead]
  rfl

/-- The rule that a denial is about. -/
def Decision.rule? : Decision → Option Rule
  | .allowed _ => none
  | .denied r _ => some r

theorem Decision.exists_of_rule? {d : Decision} {r : Rule} (h : d.rule? = some r) :
    ∃ o, d = .denied r o := by
  cases d with
  | allowed a => cases h
  | denied r' o => exact ⟨o, congrArg (Decision.denied · o) (Option.some.inj h)⟩

/-- Two rules of one document deny two objects with the same reason and the same message. -/
theorem Snapshot.decide_sameMessage :
    (∃ o, truthDecision numberObject = .denied (truthRule longerField) o) ∧
    (∃ o, truthDecision textObject = .denied (truthRule "a") o) ∧
    truthRule longerField ≠ truthRule "a" ∧
    (truthDecision numberObject).reason = (truthDecision textObject).reason ∧
    (truthDecision numberObject).message? = (truthDecision textObject).message? := by
  rw [truthDecision_eq, truthDecision_eq]
  refine ⟨Decision.exists_of_rule? ?_, Decision.exists_of_rule? ?_, ?_⟩
  · decide +kernel
  · decide +kernel
  · decide +kernel

end AdmissionRules
