import AdmissionRules.Proofs.Policy.Grammar
import Mathlib.Data.Prod.Lex
import Mathlib.Order.WithBot

set_option autoImplicit false

/-! # The first defect of a document

A draft can have any number of defects, and `RuleDraft.Defect`, `KindDraft.Defect` and
`PolicyDraft.Defect` say which, without an order of checking. Each has a place: the position of its
entry, then that of its rule, an empty kind standing before all rules, and then the rank of what is
wrong with the rule. Places are ordered lexicographically.

A check reports the first defect (`Reports`) if it passes only without defects and fails with the
one at the least place. Checking a list member by member does so if the check of a member does
(`reports_convertAll`), and from the checks of a rule (`Rule.ofDraft_reports`) the main statement
follows: a text that says a draft is rejected with its first defect, and one that says none is
unreadable, whatever else is wrong with it (`PolicyDocument.parse_firstDefect`). -/

namespace AdmissionRules

/-! ## Defects -/

/-- The defects of a rule, by rank. Whether the operator applies to the type, and whether the value
    is one for both, is a question only if both names are known. -/
inductive RuleDraft.Defect (d : RuleDraft) (place : RulePlace) : ℕ → DocumentError → Prop where
  | unknownType (h : ∀ t : ValueType, t.name ≠ d.type) :
      Defect d place 0 (.unknownType place d.type)
  | unknownOperator (h : ∀ o : Operator, o.name ≠ d.op) :
      Defect d place 1 (.unknownOperator place d.op)
  | unsupported {t : ValueType} {o : Operator} (ht : t.name = d.type) (ho : o.name = d.op)
      (h : o.supports t = false) :
      Defect d place 2 (.invalidRule place (.unsupportedOperator t o))
  | value {t : ValueType} {o : Operator} (ht : t.name = d.type) (ho : o.name = d.op)
      (h : ∀ x, ¬ RuleValue.Converts t o d.value x) :
      Defect d place 3 (.invalidRule place (.valueMismatch t o d.value.shape))
  | emptyField (h : d.field = "") : Defect d place 4 (.invalidRule place .emptyField)
  | emptySegment (h : "" ∈ FieldPath.ofText d.field) :
      Defect d place 5 (.invalidRule place (.emptyPathSegment d.field))

/-- The defects of an entry at a position: its kind, which stands before all rules, and those of
    its rules. -/
inductive KindDraft.Defect (d : KindDraft) (entry : ℕ) :
    WithBot (ℕ ×ₗ ℕ) → DocumentError → Prop where
  | kind (h : d.kind = "") : Defect d entry ⊥ (.missingKind entry)
  | rule {i : ℕ} {r : RuleDraft} (hr : d.rules[i]? = some r) {rank : ℕ} {e : DocumentError}
      (h : r.Defect { entry, kind := d.kind, rule := i } rank e) :
      Defect d entry (toLex (i, rank) : ℕ ×ₗ ℕ) e

/-- The defects of a document. -/
inductive PolicyDraft.Defect (d : PolicyDraft) :
    ℕ ×ₗ WithBot (ℕ ×ₗ ℕ) → DocumentError → Prop where
  | entry {i : ℕ} {k : KindDraft} (hk : d.kinds[i]? = some k) {place : WithBot (ℕ ×ₗ ℕ)}
      {e : DocumentError} (h : k.Defect i place e) : Defect d (toLex (i, place)) e

/-! ## Reporting the first defect -/

variable {α β ε ι : Type}

/-- A defect at the least place at which there is one. -/
def IsFirst [LE ι] (defect : ι → ε → Prop) (e : ε) : Prop :=
  ∃ p, defect p e ∧ ∀ q e', defect q e' → p ≤ q

/-- A check that passes only without defects, and otherwise fails with the first. -/
structure Reports [LE ι] (check : Except ε α) (defect : ι → ε → Prop) : Prop where
  none_of_ok : ∀ a, check = .ok a → ∀ p e, ¬ defect p e
  first_of_error : ∀ e, check = .error e → IsFirst defect e

namespace Reports

/-- Where there is at most one defect at a place, only the first is reported. -/
theorem error_iff [PartialOrder ι] {check : Except ε α} {defect : ι → ε → Prop}
    (h : Reports check defect)
    (unique : ∀ {p e e'}, defect p e → defect p e' → e = e') (e : ε) :
    check = .error e ↔ IsFirst defect e := by
  constructor
  · exact h.first_of_error e
  · rintro ⟨p, hp, hleast⟩
    cases hcheck : check with
    | ok a => exact absurd hp (h.none_of_ok a hcheck p e)
    | error e' =>
        obtain ⟨p', hp', hleast'⟩ := h.first_of_error e' hcheck
        have hplace : p = p' := le_antisymm (hleast p' e' hp') (hleast' p e hp)
        rw [hplace] at hp
        rw [unique hp hp']

theorem exists_error [LE ι] {check : Except ε α} {defect : ι → ε → Prop}
    (h : Reports check defect) {p : ι} {e : ε} (hp : defect p e) : ∃ e', check = .error e' := by
  cases hcheck : check with
  | ok a => exact absurd hp (h.none_of_ok a hcheck p e)
  | error e' => exact ⟨e', rfl⟩

/-- The same defects at other places, in the same order. -/
theorem relocate {κ : Type} [Preorder ι] [Preorder κ] {check : Except ε α} {defect : ι → ε → Prop}
    {defect' : κ → ε → Prop} (h : Reports check defect) {f : ι → κ} (hf : Monotone f)
    (hdefect : ∀ p e, defect' p e ↔ ∃ q, p = f q ∧ defect q e) : Reports check defect' where
  none_of_ok a ha p e hp := by
    obtain ⟨q, -, hq⟩ := (hdefect p e).1 hp
    exact h.none_of_ok a ha q e hq
  first_of_error e he := by
    obtain ⟨q, hq, hleast⟩ := h.first_of_error e he
    refine ⟨f q, (hdefect _ e).2 ⟨q, rfl, hq⟩, fun p' e' hp' => ?_⟩
    obtain ⟨q', rfl, hq'⟩ := (hdefect p' e').1 hp'
    exact hf (hleast q' e' hq')

/-- What is made of a result does not change what is reported. -/
theorem bind_ok [LE ι] {check : Except ε α} {defect : ι → ε → Prop} (h : Reports check defect)
    (f : α → β) : Reports (check >>= fun a => .ok (f a)) defect where
  none_of_ok b hb := by
    obtain ⟨a, ha, -⟩ := (bind_eq_ok_iff _ _ _).1 hb
    exact h.none_of_ok a ha
  first_of_error e he := by
    cases hcheck : check with
    | error e' =>
        rw [hcheck] at he
        cases he
        exact h.first_of_error e hcheck
    | ok a =>
        rw [hcheck] at he
        cases he

end Reports

/-! ## Lists -/

/-- The defects of the members of a list that begins at position `i`. -/
inductive ListDefect (defect : ℕ → α → ι → ε → Prop) (i : ℕ) (xs : List α) :
    ℕ ×ₗ ι → ε → Prop where
  | member {j : ℕ} {x : α} (hx : xs[j]? = some x) {q : ι} {e : ε} (h : defect (i + j) x q e) :
      ListDefect defect i xs (toLex (j, q)) e

theorem listDefect_cons_iff (defect : ℕ → α → ι → ε → Prop) (i : ℕ) (x : α) (rest : List α)
    (p : ℕ ×ₗ ι) (e : ε) :
    ListDefect defect i (x :: rest) p e ↔
      (∃ q, p = toLex (0, q) ∧ defect i x q e) ∨
        ∃ j q, p = toLex (j + 1, q) ∧ ListDefect defect (i + 1) rest (toLex (j, q)) e := by
  -- a member of the rest has the position after the one that it has in the rest
  have hshift : ∀ j, i + (j + 1) = i + 1 + j := fun j => by omega
  constructor
  · rintro ⟨hx, hdefect⟩
    rename_i j x' q
    cases j with
    | zero =>
        cases hx
        exact .inl ⟨q, rfl, hdefect⟩
    | succ j =>
        rw [List.getElem?_cons_succ] at hx
        rw [hshift] at hdefect
        exact .inr ⟨j, q, rfl, .member hx hdefect⟩
  · rintro (⟨q, rfl, hdefect⟩ | ⟨j, q, rfl, hx, hdefect⟩)
    · exact .member rfl hdefect
    · rw [← hshift] at hdefect
      exact .member (j := j + 1) hx hdefect

/-- The first defect of the first member is that of the list. -/
theorem IsFirst.head [Preorder ι] {defect : ℕ → α → ι → ε → Prop} {i : ℕ} {x : α} {e : ε}
    (h : IsFirst (defect i x) e) (rest : List α) :
    IsFirst (ListDefect defect i (x :: rest)) e := by
  obtain ⟨q, hq, hleast⟩ := h
  refine ⟨_, (listDefect_cons_iff defect i x rest _ _).2 (.inl ⟨q, rfl, hq⟩), ?_⟩
  intro p e' hp
  rcases (listDefect_cons_iff defect i x rest p e').1 hp with ⟨q', rfl, hq'⟩ | ⟨j, q', rfl, -⟩
  · exact Prod.Lex.toLex_le_toLex.2 (.inr ⟨rfl, hleast q' e' hq'⟩)
  · exact Prod.Lex.toLex_le_toLex.2 (.inl j.succ_pos)

/-- If the first member has no defect, the first of the rest is that of the list. -/
theorem IsFirst.rest [Preorder ι] {defect : ℕ → α → ι → ε → Prop} {i : ℕ} {x : α} {rest : List α}
    {e : ε} (h : IsFirst (ListDefect defect (i + 1) rest) e) (hx : ∀ p e, ¬ defect i x p e) :
    IsFirst (ListDefect defect i (x :: rest)) e := by
  obtain ⟨p, hp, hleast⟩ := h
  refine ⟨_, (listDefect_cons_iff defect i x rest _ _).2
    (.inr ⟨(ofLex p).1, (ofLex p).2, rfl, hp⟩), ?_⟩
  intro p' e' hp'
  rcases (listDefect_cons_iff defect i x rest p' e').1 hp' with ⟨q, -, hq⟩ | ⟨j, q, rfl, hj⟩
  · exact absurd hq (hx q e')
  · have hle : p ≤ toLex (j, q) := hleast _ e' hj
    rw [Prod.Lex.toLex_le_toLex]
    rcases Prod.Lex.le_iff.1 hle with hlt | ⟨heq, hle⟩
    · exact .inl (Nat.succ_lt_succ hlt)
    · exact .inr ⟨congrArg Nat.succ heq, hle⟩

/-- **Checking a list member by member** reports its first defect if the check of a member reports
    the first of the member. -/
theorem reports_convertAll [Preorder ι] {convert : ℕ → α → Except ε β}
    {defect : ℕ → α → ι → ε → Prop} (h : ∀ i x, Reports (convert i x) (defect i x)) (i : ℕ)
    (xs : List α) : Reports (convertAll convert i xs) (ListDefect defect i xs) := by
  induction xs generalizing i with
  | nil =>
      refine ⟨?_, ?_⟩
      · rintro - - p e ⟨hx, -⟩
        cases hx
      · intro e he
        cases he
  | cons x rest ih =>
      refine ⟨?_, ?_⟩
      · intro ys hys p e hp
        obtain ⟨y, hy, hrest⟩ := (bind_eq_ok_iff _ _ _).1 hys
        obtain ⟨ys', hys', -⟩ := (bind_eq_ok_iff _ _ _).1 hrest
        rcases (listDefect_cons_iff defect i x rest p e).1 hp with ⟨q, -, hq⟩ | ⟨j, q, -, hj⟩
        · exact (h i x).none_of_ok y hy q e hq
        · exact (ih (i + 1)).none_of_ok ys' hys' _ e hj
      · intro e he
        rcases (bind_eq_error_iff _ _ _).1 he with hx | ⟨y, hy, he⟩
        · exact ((h i x).first_of_error e hx).head rest
        -- the head passed, so the first defect of the rest is that of the list
        · rcases (bind_eq_error_iff _ _ _).1 he with hrest | ⟨ys, -, he⟩
          · exact ((ih (i + 1)).first_of_error e hrest).rest ((h i x).none_of_ok y hy)
          · cases he

/-! ## Rules -/

namespace RuleDraft

variable {d : RuleDraft} {place : RulePlace} {rank : ℕ} {e : DocumentError}

/-- The defects of a rule whose names are known are those of its type and its operator. -/
theorem defect_iff_of_names {t : ValueType} {o : Operator} (ht : t.name = d.type)
    (ho : o.name = d.op) :
    d.Defect place rank e ↔
      (rank = 2 ∧ o.supports t = false ∧
        e = .invalidRule place (.unsupportedOperator t o)) ∨
      (rank = 3 ∧ (∀ x, ¬ RuleValue.Converts t o d.value x) ∧
        e = .invalidRule place (.valueMismatch t o d.value.shape)) ∨
      (rank = 4 ∧ d.field = "" ∧ e = .invalidRule place .emptyField) ∨
      (rank = 5 ∧ "" ∈ FieldPath.ofText d.field ∧
        e = .invalidRule place (.emptyPathSegment d.field)) := by
  constructor
  · intro h
    cases h with
    | unknownType h => exact absurd ht (h t)
    | unknownOperator h => exact absurd ho (h o)
    | unsupported ht' ho' h =>
        rw [ValueType.name_inj (ht'.trans ht.symm), Operator.name_inj (ho'.trans ho.symm)] at h ⊢
        exact .inl ⟨rfl, h, rfl⟩
    | value ht' ho' h =>
        rw [ValueType.name_inj (ht'.trans ht.symm), Operator.name_inj (ho'.trans ho.symm)] at h ⊢
        exact .inr (.inl ⟨rfl, h, rfl⟩)
    | emptyField h => exact .inr (.inr (.inl ⟨rfl, h, rfl⟩))
    | emptySegment h => exact .inr (.inr (.inr ⟨rfl, h, rfl⟩))
  · rintro (⟨rfl, h, rfl⟩ | ⟨rfl, h, rfl⟩ | ⟨rfl, h, rfl⟩ | ⟨rfl, h, rfl⟩)
    · exact .unsupported ht ho h
    · exact .value ht ho h
    · exact .emptyField h
    · exact .emptySegment h

/-- At most one defect of a rule has a rank. -/
theorem Defect.unique {e' : DocumentError} (h : d.Defect place rank e)
    (h' : d.Defect place rank e') : e = e' := by
  cases h with
  | unsupported ht ho h =>
      cases h' with
      | unsupported ht' ho' h' =>
          rw [ValueType.name_inj (ht'.trans ht.symm), Operator.name_inj (ho'.trans ho.symm)]
  | value ht ho h =>
      cases h' with
      | value ht' ho' h' =>
          rw [ValueType.name_inj (ht'.trans ht.symm), Operator.name_inj (ho'.trans ho.symm)]
  | _ =>
      cases h'
      rfl

/-- Of a rule whose operator applies to its type, the value comes before the path, and an empty path
    before an empty key in it. -/
theorem isFirst_of_supported {t : ValueType} {o : Operator} (ht : t.name = d.type)
    (ho : o.name = d.op) (hsupports : o.supports t = true) {defect : RuleDefect}
    (h : (RuleValue.ofYaml t o d.value >>= fun x => Rule.make d.field t o x) = .error defect) :
    IsFirst (d.Defect place) (.invalidRule place defect) := by
  rcases (Rule.make_ofYaml_eq_error_iff hsupports d.value d.field defect).1 h with
    ⟨hnone, rfl⟩ | ⟨⟨x, hconverts⟩, hmake⟩
  · refine ⟨3, .value ht ho hnone, fun q e' hq => ?_⟩
    rcases (defect_iff_of_names ht ho).1 hq with ⟨-, hnot, -⟩ | hq | hq | hq
    · rw [hsupports] at hnot
      cases hnot
    all_goals omega
  -- with a value that converts, only the path is left to be wrong
  · have hpath : ∀ q e', d.Defect place q e' → q = 4 ∧ d.field = "" ∨ q = 5 := by
      intro q e' hq
      rcases (defect_iff_of_names ht ho).1 hq with ⟨-, hnot, -⟩ | ⟨-, hnone, -⟩ | hq | hq
      · rw [hsupports] at hnot
        cases hnot
      · exact absurd hconverts (hnone x)
      · exact .inl ⟨hq.1, hq.2.1⟩
      · exact .inr hq.1
    rcases hmake with ⟨hfield, rfl⟩ | ⟨hfield, hsegment, rfl⟩
    · refine ⟨4, .emptyField hfield, fun q e' hq => ?_⟩
      rcases hpath q e' hq with hq | hq <;> omega
    · refine ⟨5, .emptySegment hsegment, fun q e' hq => ?_⟩
      rcases hpath q e' hq with hq | hq
      · exact absurd hq.2 hfield
      · exact hq.ge

theorem Makes.not_defect {r : Rule} (hr : d.Makes r) : ¬ d.Defect place rank e := by
  rw [defect_iff_of_names hr.type hr.op]
  rintro (⟨-, h, -⟩ | ⟨-, h, -⟩ | ⟨-, h, -⟩ | ⟨-, h, -⟩)
  · rw [hr.supported] at h
    cases h
  · exact h r.value hr.value
  · exact hr.named (hr.field.trans h)
  · rw [← hr.field] at h
    exact hr.segments "" h rfl

end RuleDraft

/-- **Checking a rule** reports its first defect. -/
theorem Rule.ofDraft_reports (place : RulePlace) (d : RuleDraft) :
    Reports (Rule.ofDraft place d) (d.Defect place) where
  none_of_ok r hr _ _ := ((Rule.ofDraft_eq_ok_iff place d r).1 hr).not_defect
  first_of_error e he := by
    unfold Rule.ofDraft at he
    split at he
    · rename_i htype
      cases he
      exact ⟨0, .unknownType ((ValueType.ofName?_eq_none_iff _).1 htype), fun q _ _ => q.zero_le⟩
    · rename_i t htype
      have ht := (ValueType.ofName?_eq_some_iff _ _).1 htype
      split at he
      · rename_i hop
        cases he
        refine ⟨1, .unknownOperator ((Operator.ofName?_eq_none_iff _).1 hop), fun q e' h => ?_⟩
        cases h with
        | unknownType h => exact absurd ht (h t)
        | _ => omega
      · rename_i o hop
        have ho := (Operator.ofName?_eq_some_iff _ _).1 hop
        split at he
        · rename_i hsupports
          cases he
          refine ⟨2, .unsupported ht ho (by simpa using hsupports), fun q e' h => ?_⟩
          rcases (RuleDraft.defect_iff_of_names ht ho).1 h with h | h | h | h <;> omega
        · rename_i hsupports
          obtain ⟨defect, hmake, rfl⟩ := (mapError_eq_error_iff _ _ _).1 he
          exact RuleDraft.isFirst_of_supported ht ho (by simpa using hsupports) hmake

/-! ## Entries and documents -/

theorem KindDraft.Defect.unique {d : KindDraft} {entry : ℕ} {place : WithBot (ℕ ×ₗ ℕ)}
    {e e' : DocumentError} (h : d.Defect entry place e) (h' : d.Defect entry place e') :
    e = e' := by
  cases h with
  | kind h =>
      cases h'
      rfl
  | rule hr h =>
      cases h' with
      | rule hr' h' =>
          cases Option.some.inj (hr.symm.trans hr')
          exact h.unique h'

theorem PolicyDraft.Defect.unique {d : PolicyDraft} {place : ℕ ×ₗ WithBot (ℕ ×ₗ ℕ)}
    {e e' : DocumentError} (h : d.Defect place e) (h' : d.Defect place e') : e = e' := by
  cases h with
  | entry hk h =>
      cases h' with
      | entry hk' h' =>
          cases Option.some.inj (hk.symm.trans hk')
          exact h.unique h'

/-- **Checking an entry** reports its first defect. -/
theorem KindRules.ofDraft_reports (entry : ℕ) (d : KindDraft) :
    Reports (KindRules.ofDraft entry d) (d.Defect entry) := by
  unfold KindRules.ofDraft
  split
  · rename_i hkind
    refine ⟨fun _ h => ?_, fun e he => ?_⟩
    · cases h
    · cases he
      exact ⟨⊥, .kind (by simpa using hkind), fun _ _ _ => bot_le⟩
  · rename_i hkind
    have hrules := reports_convertAll
      (fun rule r => Rule.ofDraft_reports { entry, kind := d.kind, rule } r) 0 d.rules
    -- the kind takes the bottom place, so with a kind all defects are those of the rules
    refine (hrules.bind_ok _).relocate WithBot.coe_mono fun p e => ?_
    constructor
    · intro h
      cases h with
      | kind h => exact absurd h (by simpa using hkind)
      | @rule i r hr rank e h =>
          refine ⟨toLex (i, rank), rfl, .member hr ?_⟩
          rw [Nat.zero_add]
          exact h
    · rintro ⟨q, rfl, hr, h⟩
      rw [Nat.zero_add] at h
      exact .rule hr h

namespace PolicyDocument

/-- **Checking a document** reports its first defect. -/
theorem ofDraft_reports (d : PolicyDraft) : Reports (ofDraft d) d.Defect := by
  have hentries := reports_convertAll KindRules.ofDraft_reports 0 d.kinds
  refine (hentries.bind_ok _).relocate monotone_id fun p e => ?_
  constructor
  · intro h
    cases h with
    | @entry i k hk place e h =>
        refine ⟨_, rfl, .member hk ?_⟩
        rw [Nat.zero_add]
        exact h
  · rintro ⟨q, rfl, hk, h⟩
    rw [Nat.zero_add] at h
    exact .entry hk h

theorem parse_of_said {text : String} {d : PolicyDraft} (h : PolicyDraft.Said text d) :
    parse text = ofDraft d := by
  rw [parse, (PolicyDraft.ofText?_eq_some_iff text d).2 h]

theorem ofDraft_ne_unreadable (d : PolicyDraft) : ofDraft d ≠ .error .unreadable := by
  intro h
  obtain ⟨p, hp, -⟩ := (ofDraft_reports d).first_of_error _ h
  cases hp with
  | entry hk h =>
      cases h with
      | rule hr h => cases h

/-- **A text that is rejected is rejected with its first defect.** If it says a draft, the error is
    the defect at the least place: that of the first entry with a defect, where an empty kind stands
    before the rules, and then of its first rule with a defect, where an unknown type stands before
    an unknown operator, this before an operator that does not apply to the type, this before a
    value that is not one for them, this before an empty path, and this before an empty key in the
    path. If there is a defect, there is an error. A text that says no draft is unreadable, and no
    other text is. -/
theorem parse_firstDefect (text : String) :
    (∀ d, PolicyDraft.Said text d →
      (∀ e, parse text = .error e ↔ IsFirst d.Defect e) ∧
      ∀ p e, d.Defect p e → ∃ e', parse text = .error e') ∧
    (parse text = .error .unreadable ↔ ¬ ∃ d, PolicyDraft.Said text d) := by
  refine ⟨?_, ?_⟩
  · intro d hsaid
    rw [parse_of_said hsaid]
    have hreports := ofDraft_reports d
    exact ⟨hreports.error_iff PolicyDraft.Defect.unique, fun p e hp => hreports.exists_error hp⟩
  · constructor
    · rintro h ⟨d, hsaid⟩
      rw [parse_of_said hsaid] at h
      exact ofDraft_ne_unreadable d h
    · intro h
      have hnone : PolicyDraft.ofText? text = none :=
        Option.eq_none_iff_forall_ne_some.2 fun d hd =>
          h ⟨d, (PolicyDraft.ofText?_eq_some_iff text d).1 hd⟩
      rw [parse, hnone]

/-- Two defects, of which the rule of the first entry has the first. -/
def twoDefects : String :=
  "forKindsRules: [\x7bkind: Pod, rules: [\x7btype: int, op: In\x7d]\x7d, \x7bkind: ''\x7d]"

example :
    parse twoDefects = .error (.invalidRule { entry := 0, kind := "Pod", rule := 0 }
      (.unsupportedOperator .int .isIn)) := by
  decide +kernel

end PolicyDocument

end AdmissionRules
