import AdmissionRules.Proofs.Policy.Grammar
import AdmissionRules.Proofs.Text.Quoted
import Mathlib

set_option autoImplicit false

/-! # The text of a rule identifies the rule

A field may hold anything, also what looks like the rest of a rule, so the text of a rule is told
from its end. The text of a value holds neither commas nor quotes, or what it holds of both stands
where a list puts it (`Delimited`), so no value has the mark of a value before the text of another
in it (`Delimited.ne_append`). That gives the value and what stands before it, and as the names of
types and operators hold no commas, it gives these and the field (`Rule.append_ending_inj`). -/

namespace AdmissionRules

open Text (Quoting)

/-! ## Texts of numbers -/

/-- Neither a comma nor a quote occurs. -/
def Unmarked (cs : List Char) : Prop := ∀ c ∈ cs, c ≠ ',' ∧ c ≠ '"'

instance (cs : List Char) : Decidable (Unmarked cs) :=
  List.decidableBAll (fun c => c ≠ ',' ∧ c ≠ '"') cs

theorem Unmarked.append {cs ds : List Char} (hcs : Unmarked cs) (hds : Unmarked ds) :
    Unmarked (cs ++ ds) :=
  List.forall_mem_append.2 ⟨hcs, hds⟩

theorem unmarked_zeros (n : Nat) : Unmarked (List.replicate n '0') := by
  intro c hc
  rw [List.eq_of_mem_replicate hc]
  decide

theorem unmarked_toDigits (n : Nat) : Unmarked (Nat.toDigits 10 n) := by
  intro c hc
  have hdigit : c.isDigit = true := Nat.isDigit_of_mem_toDigits (by decide) (by decide) hc
  constructor
  · rintro rfl
    exact absurd hdigit (by decide)
  · rintro rfl
    exact absurd hdigit (by decide)

theorem unmarked_toString (n : Int) : Unmarked (toString n).toList := by
  have hnat : ∀ n : Nat, Unmarked n.repr.toList := by
    intro n
    rw [Nat.repr_eq_ofList_toDigits, String.toList_ofList]
    exact unmarked_toDigits n
  rw [Int.toString_eq_repr, Int.repr_eq_if]
  split
  · exact hnat _
  · rw [String.toList_append]
    exact Unmarked.append (by decide) (hnat _)

/-- The characters of digits with a point and without an end of their own. -/
theorem positional_toList (digits : List Char) (k : Int) :
    (Binary64.positional false digits k).toList =
      if k ≤ 0 then ['0', '.'] ++ List.replicate (-k).toNat '0' ++ digits
      else if digits.length ≤ k.toNat then digits ++ List.replicate (k.toNat - digits.length) '0'
      else digits.take k.toNat ++ ['.'] ++ digits.drop k.toNat := by
  have hpositional : Binary64.positional false digits k =
      if k ≤ 0 then "0." ++ String.ofList (List.replicate (-k).toNat '0') ++ String.ofList digits
      else if digits.length ≤ k.toNat then
        String.ofList digits ++ String.ofList (List.replicate (k.toNat - digits.length) '0') ++ ""
      else String.ofList (digits.take k.toNat) ++ "." ++ String.ofList (digits.drop k.toNat) := rfl
  rw [hpositional]
  split_ifs <;> simp

theorem unmarked_positional {digits : List Char} (h : Unmarked digits) (k : Int) :
    Unmarked (Binary64.positional false digits k).toList := by
  have hpoint : Unmarked ['.'] := by decide
  have hzero : Unmarked ['0', '.'] := by decide
  rw [positional_toList]
  split_ifs
  · exact (hzero.append (unmarked_zeros _)).append h
  · exact h.append (unmarked_zeros _)
  · have htake : Unmarked (digits.take k.toNat) := fun c hc => h c (List.mem_of_mem_take hc)
    have hdrop : Unmarked (digits.drop k.toNat) := fun c hc => h c (List.mem_of_mem_drop hc)
    exact (htake.append hpoint).append hdrop

/-- With no bounds on the exponent every number is written out. -/
theorem render_floatLayout (x : Binary64.Decimal) :
    x.render RuleValue.floatLayout =
      Binary64.positional false (Nat.toDigits 10 x.digits)
        ((Nat.toDigits 10 x.digits).length + x.exponent) := by
  simp only [Binary64.Decimal.render, RuleValue.floatLayout, Bool.and_self, if_true]

theorem unmarked_render (x : Binary64) : Unmarked (x.render RuleValue.floatLayout).toList := by
  cases x with
  | nan => decide
  | infinite negative => cases negative <;> decide
  | finite negative u _ =>
      rw [Binary64.render, String.toList_append]
      refine Unmarked.append ?_ ?_
      · cases negative <;> decide
      · split
        · decide
        · rw [render_floatLayout]
          exact unmarked_positional (unmarked_toDigits _) _

/-! ## Texts of values -/

/-- What can be the text of a value: nothing is quoted, and then there is no comma, or it begins
    and ends outside of quotes. -/
inductive Delimited (cs : List Char) : Prop where
  | unmarked (h : Unmarked cs)
  | quoted (h : Quoting.outside.after cs = .outside)

theorem RuleValue.text_delimited (v : RuleValue) : Delimited v.text.toList := by
  cases v with
  | string s =>
      refine .quoted ?_
      rw [text, Text.quoted_toList, ← List.append_nil (Text.quotedChars _),
        Quoting.after_quotedChars]
      rfl
  | strings items =>
      refine .quoted ?_
      rw [text, Text.quotedList_toList, Quoting.after_listChars]
  | bool b => cases b <;> exact .unmarked (by decide)
  | integer n => exact .unmarked (unmarked_toString n)
  | float x => exact .unmarked (unmarked_render x)

theorem RuleValue.integer_text_inj {n n' : Int} (h : (integer n).text = (integer n').text) :
    n = n' := by
  rw [text, text, Int.toString_eq_repr, Int.toString_eq_repr] at h
  exact Int.repr_inj.1 h

/-- Of one type and operator, values that are no numbers are told by their texts. -/
theorem RuleValue.Suits.eq_of_text {t : ValueType} {o : Operator} {v v' : RuleValue}
    (hv : v.Suits t o) (hv' : v'.Suits t o) (hfloat : ∀ x, v ≠ .float x) (h : v.text = v'.text) :
    v = v' := by
  cases hv with
  | strings items hstring hmember =>
      cases hv' with
      | strings items' _ _ => rw [Text.quotedList_inj h]
      | string _ _ hmember' => simp [hmember] at hmember'
      | _ => simp_all
  | string s hstring hmember =>
      cases hv' with
      | strings _ _ hmember' => simp [hmember] at hmember'
      | string s' _ _ => rw [Text.quoted_inj h]
      | _ => simp_all
  | bool b hbool =>
      cases hv' with
      | bool b' _ => cases b <;> cases b' <;> first | rfl | exact absurd h (by decide)
      | _ => simp_all
  | integer n hinteger =>
      cases hv' with
      | integer n' _ => rw [integer_text_inj h]
      | _ => simp_all
  | float x _ => exact absurd rfl (hfloat x)

/-! ## The mark before a value -/

/-- What stands before the value of a rule. -/
def valueMark : List Char := ", value: ".toList

/-- A comma, and nothing else that is a comma. -/
theorem valueMark_eq : valueMark = ',' :: " value: ".toList := rfl

theorem comma_not_mem_of_mark : ',' ∉ " value: ".toList := by decide

/-- The mark has letters, so no way through a text is outside of quotes behind it. -/
theorem after_valueMark (q : Quoting) :
    q.after valueMark = .inside ∨ q.after valueMark = .broken := by
  cases q <;> decide

/-- The text of a value does not end in a mark and the text of a value. -/
theorem Delimited.ne_append {cs ds : List Char} (hcs : Delimited cs) (hds : Delimited ds)
    (before : List Char) : cs ≠ before ++ (valueMark ++ ds) := by
  rintro rfl
  cases hcs with
  | unmarked h =>
      have hcomma : ',' ∈ valueMark := by decide
      exact (h ',' (List.mem_append_right _ (List.mem_append_left _ hcomma))).1 rfl
  | quoted h =>
      rw [Quoting.after_append, Quoting.after_append] at h
      rcases after_valueMark (Quoting.outside.after before) with hmark | hmark
      · rw [hmark] at h
        cases hds with
        | unmarked hds =>
            have hquote : '"' ∉ ds := fun hmem => (hds '"' hmem).2 rfl
            exact Quoting.after_ne_outside hquote (by decide) h
        | quoted hds => exact Quoting.not_outside_of_inside ds ⟨h, hds⟩
      · rw [hmark, Quoting.after_broken] at h
        cases h

/-- Behind a mark, the text of a value is not longer than one behind another mark. -/
theorem Delimited.eq_nil_of_append {cs ds between : List Char} (hcs : Delimited cs)
    (hds : Delimited ds) (h : valueMark ++ cs = between ++ (valueMark ++ ds)) : between = [] := by
  cases between with
  | nil => rfl
  | cons c between =>
      rw [valueMark_eq] at h
      rcases List.append_eq_append_iff.1 (List.cons.inj h).2 with ⟨es, -, hcs'⟩ | ⟨es, hmark, hes⟩
      · exact absurd hcs' (hcs.ne_append hds es)
      · cases es with
        | nil => exact absurd hes.symm (hcs.ne_append hds [])
        | cons e es =>
            -- the second mark would begin within the first, which has no other comma
            have hcomma : ',' ∈ " value: ".toList := by
              rw [hmark, ← (List.cons.inj hes).1]
              exact List.mem_append_right _ List.mem_cons_self
            exact absurd hcomma comma_not_mem_of_mark

/-- **The text of a value** behind a mark is told from the end. -/
theorem append_valueMark_inj {before before' cs cs' : List Char} (hcs : Delimited cs)
    (hcs' : Delimited cs')
    (h : before ++ (valueMark ++ cs) = before' ++ (valueMark ++ cs')) :
    before = before' ∧ cs = cs' := by
  rcases List.append_eq_append_iff.1 h with ⟨between, hbefore, hrest⟩ | ⟨between, hbefore, hrest⟩
  · have hnil := hcs.eq_nil_of_append hcs' hrest
    rw [hnil, List.append_nil] at hbefore
    rw [hnil, List.nil_append] at hrest
    exact ⟨hbefore.symm, List.append_cancel_left hrest⟩
  · have hnil := hcs'.eq_nil_of_append hcs hrest
    rw [hnil, List.append_nil] at hbefore
    rw [hnil, List.nil_append] at hrest
    exact ⟨hbefore, (List.append_cancel_left hrest).symm⟩

/-! ## Texts of rules -/

theorem ValueType.comma_not_mem_name (t : ValueType) : ',' ∉ t.name.toList := by
  cases t <;> decide

theorem Operator.comma_not_mem_name (o : Operator) : ',' ∉ o.name.toList := by
  cases o <;> decide

namespace Rule

variable (r r' : Rule)

/-- The text of a rule behind its field. -/
def ending : List Char :=
  ',' :: (" type: ".toList ++ r.type.name.toList) ++
    (',' :: (" op: ".toList ++ r.op.name.toList) ++
      ((valueMark ++ r.value.text.toList) ++ ['\x7d']))

theorem text_toList : r.text.toList = "\x7bfield: ".toList ++ (r.field.toList ++ r.ending) := by
  have htype : ", type: ".toList = ',' :: " type: ".toList := rfl
  have hop : ", op: ".toList = ',' :: " op: ".toList := rfl
  have hvalue : ", value: ".toList = valueMark := rfl
  have hbrace : "\x7d".toList = ['\x7d'] := rfl
  simp only [text, ending, String.toList_append, List.append_assoc, List.cons_append, htype, hop,
    hvalue, hbrace]

/-- A name behind a comma and a label without one is told from the end. -/
theorem append_name_inj {label name name' : String} {before before' : List Char}
    (hlabel : ',' ∉ label.toList) (hname : ',' ∉ name.toList) (hname' : ',' ∉ name'.toList)
    (h : before ++ ',' :: (label.toList ++ name.toList) =
      before' ++ ',' :: (label.toList ++ name'.toList)) :
    before = before' ∧ name = name' := by
  have hnot : ∀ {name : String}, ',' ∉ name.toList → ',' ∉ label.toList ++ name.toList :=
    fun hname hmem => (List.mem_append.1 hmem).elim hlabel hname
  obtain ⟨hbefore, hnames⟩ := Text.append_cons_inj_of_last (hnot hname) (hnot hname') h
  exact ⟨hbefore, String.toList_inj.1 (List.append_cancel_left hnames)⟩

variable {r r'}

/-- **The end of a rule's text** is told from the end, whatever stands before it. -/
theorem append_ending_inj {before before' : List Char}
    (h : before ++ r.ending = before' ++ r'.ending) :
    before = before' ∧ r.type = r'.type ∧ r.op = r'.op ∧ r.value.text = r'.value.text := by
  have hending : ∀ (r : Rule) before, before ++ r.ending =
      ((before ++ ',' :: (" type: ".toList ++ r.type.name.toList)) ++
        ',' :: (" op: ".toList ++ r.op.name.toList)) ++
        (valueMark ++ r.value.text.toList) ++ ['\x7d'] := by
    intro r before
    simp only [ending, List.append_assoc]
  rw [hending, hending] at h
  obtain ⟨hnames, hvalue⟩ := append_valueMark_inj r.value.text_delimited r'.value.text_delimited
    (List.append_cancel_right h)
  obtain ⟨htypes, hop⟩ := append_name_inj (by decide) r.op.comma_not_mem_name
    r'.op.comma_not_mem_name hnames
  obtain ⟨hbefore, htype⟩ := append_name_inj (by decide) r.type.comma_not_mem_name
    r'.type.comma_not_mem_name htypes
  exact ⟨hbefore, ValueType.name_inj htype, Operator.name_inj hop, String.toList_inj.1 hvalue⟩

theorem text_eq_iff :
    r.text = r'.text ↔
      r.field = r'.field ∧ r.type = r'.type ∧ r.op = r'.op ∧ r.value.text = r'.value.text := by
  constructor
  · intro h
    have hchars := congrArg String.toList h
    rw [text_toList, text_toList] at hchars
    obtain ⟨hfield, hrest⟩ := append_ending_inj (List.append_cancel_left hchars)
    exact ⟨String.toList_inj.1 hfield, hrest⟩
  · rintro ⟨hfield, htype, hop, hvalue⟩
    rw [text, text, hfield, htype, hop, hvalue]

/-- Well-formed rules with the same type and operator and the same text of the value have the same
    value, unless it is a number. -/
theorem WellFormed.value_eq (hr : r.WellFormed) (hr' : r'.WellFormed) (htype : r.type = r'.type)
    (hop : r.op = r'.op) (hvalue : r.value.text = r'.value.text)
    (hfloat : ∀ x, r.value ≠ .float x) : r.value = r'.value := by
  have hsuits : r'.value.Suits r.type r.op := by
    rw [htype, hop]
    exact hr'.value
  exact hr.value.eq_of_text hsuits hfloat hvalue

end Rule

end AdmissionRules
