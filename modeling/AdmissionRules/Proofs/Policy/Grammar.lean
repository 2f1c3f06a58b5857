import AdmissionRules.Policy.Document
import AdmissionRules.Proofs.Ascending
import AdmissionRules.Proofs.Rule.Conversion
import AdmissionRules.Proofs.Yaml.Record

set_option autoImplicit false

/-! # The grammar of policy documents

What a text says as a policy, and what document that makes. A text says a draft (`PolicyDraft.Said`)
if it holds no document, a null, or a record of records whose keys are known and stand once, each
with a default. A draft makes a document (`PolicyDraft.Makes`) entry by entry and rule by rule if
every entry has a kind and every rule a path, a type, an operator for it and a value for both. The
main statement (`PolicyDocument.parse_eq_ok_iff`) says that a text is accepted exactly if it says a
draft that makes a document, and as this document. -/

namespace AdmissionRules

open Yaml (Node)

/-! ## What nodes say -/

namespace Yaml.Node

/-- The node says the parts of a rule. -/
def SaysRule (node : Node) (d : RuleDraft) : Prop :=
  ∃ fields, node.IsRecord ["field", "type", "op", "value"] fields ∧
    Says fields "field" IsText "" d.field ∧
    Says fields "type" IsText "" d.type ∧
    Says fields "op" IsText "" d.op ∧
    Says fields "value" (fun node v => Yaml.Value.ofNode? node = some v) .null d.value

/-- The node says the parts of an entry, its rules in their order. -/
def SaysKind (node : Node) (d : KindDraft) : Prop :=
  ∃ fields, node.IsRecord ["apiVersion", "kind", "rules"] fields ∧
    Says fields "apiVersion" IsOptionalText none d.apiVersion ∧
    Says fields "kind" IsText "" d.kind ∧
    Says fields "rules" (IsList SaysRule) [] d.rules

/-- The node says the parts of a document, its entries in their order. -/
def SaysPolicy (node : Node) (d : PolicyDraft) : Prop :=
  ∃ fields, node.IsRecord ["forKindsRules", "adminGroups"] fields ∧
    Says fields "forKindsRules" (IsList SaysKind) [] d.kinds ∧
    Says fields "adminGroups" (IsList IsText) [] d.adminGroups

end Yaml.Node

/-- The text says a draft. A text without a document, and one with a null, says the empty one. -/
inductive PolicyDraft.Said (text : String) : PolicyDraft → Prop where
  | nothing (h : Node.ofText? text = some none) : Said text .empty
  | null (node : Node) (h : Node.ofText? text = some (some node))
      (habsent : node.isAbsent? = some true) : Said text .empty
  | record (node : Node) (d : PolicyDraft) (h : Node.ofText? text = some (some node))
      (habsent : node.isAbsent? = some false) (hd : node.SaysPolicy d) : Said text d

/-! ## Reading drafts -/

theorem RuleDraft.ofNode?_eq_some_iff (node : Node) (d : RuleDraft) :
    ofNode? node = some d ↔ node.SaysRule d := by
  unfold ofNode? Node.SaysRule
  simp only [Option.bind_eq_bind, Option.bind_eq_some_iff, Option.some.injEq,
    Node.fields?_eq_some_iff]
  constructor
  · rintro ⟨fields, hrecord, field, hfield, type, htype, op, hop, value, hval, rfl⟩
    exact ⟨fields, hrecord, (Node.fieldOr?_eq_some_iff Node.text?_iff hrecord.once _ _ _).1 hfield,
      (Node.fieldOr?_eq_some_iff Node.text?_iff hrecord.once _ _ _).1 htype,
      (Node.fieldOr?_eq_some_iff Node.text?_iff hrecord.once _ _ _).1 hop,
      (Node.fieldOr?_eq_some_iff (fun _ _ => Iff.rfl) hrecord.once _ _ _).1 hval⟩
  · rintro ⟨fields, hrecord, hfield, htype, hop, hval⟩
    exact ⟨fields, hrecord,
      _, (Node.fieldOr?_eq_some_iff Node.text?_iff hrecord.once _ _ _).2 hfield,
      _, (Node.fieldOr?_eq_some_iff Node.text?_iff hrecord.once _ _ _).2 htype,
      _, (Node.fieldOr?_eq_some_iff Node.text?_iff hrecord.once _ _ _).2 hop,
      _, (Node.fieldOr?_eq_some_iff (fun _ _ => Iff.rfl) hrecord.once _ _ _).2 hval, rfl⟩

theorem KindDraft.ofNode?_eq_some_iff (node : Node) (d : KindDraft) :
    ofNode? node = some d ↔ node.SaysKind d := by
  unfold ofNode? Node.SaysKind
  simp only [Option.bind_eq_bind, Option.bind_eq_some_iff, Option.some.injEq,
    Node.fields?_eq_some_iff]
  have hrules := Node.list?_eq_some_iff RuleDraft.ofNode?_eq_some_iff
  constructor
  · rintro ⟨fields, hrecord, apiVersion, hversion, kind, hkind, rules, hlist, rfl⟩
    exact ⟨fields, hrecord,
      (Node.fieldOr?_eq_some_iff Node.optionalText?_eq_some_iff hrecord.once _ _ _).1 hversion,
      (Node.fieldOr?_eq_some_iff Node.text?_iff hrecord.once _ _ _).1 hkind,
      (Node.fieldOr?_eq_some_iff hrules hrecord.once _ _ _).1 hlist⟩
  · rintro ⟨fields, hrecord, hversion, hkind, hlist⟩
    exact ⟨fields, hrecord,
      _, (Node.fieldOr?_eq_some_iff Node.optionalText?_eq_some_iff hrecord.once _ _ _).2 hversion,
      _, (Node.fieldOr?_eq_some_iff Node.text?_iff hrecord.once _ _ _).2 hkind,
      _, (Node.fieldOr?_eq_some_iff hrules hrecord.once _ _ _).2 hlist, rfl⟩

namespace PolicyDraft

theorem ofFields_eq_some_iff (node : Node) (d : PolicyDraft) :
    (do
      let fields ← node.fields? ["forKindsRules", "adminGroups"]
      let kinds ← Node.fieldOr? [] (Node.list? KindDraft.ofNode?) "forKindsRules" fields
      let adminGroups ← Node.fieldOr? [] (Node.list? Node.text?) "adminGroups" fields
      some ({ kinds, adminGroups } : PolicyDraft)) = some d ↔ node.SaysPolicy d := by
  unfold Node.SaysPolicy
  simp only [Option.bind_eq_bind, Option.bind_eq_some_iff, Option.some.injEq,
    Node.fields?_eq_some_iff]
  have hkinds := Node.list?_eq_some_iff KindDraft.ofNode?_eq_some_iff
  have hnames := Node.list?_eq_some_iff Node.text?_iff
  constructor
  · rintro ⟨fields, hrecord, kinds, hlist, adminGroups, hgroups, rfl⟩
    exact ⟨fields, hrecord, (Node.fieldOr?_eq_some_iff hkinds hrecord.once _ _ _).1 hlist,
      (Node.fieldOr?_eq_some_iff hnames hrecord.once _ _ _).1 hgroups⟩
  · rintro ⟨fields, hrecord, hlist, hgroups⟩
    exact ⟨fields, hrecord, _, (Node.fieldOr?_eq_some_iff hkinds hrecord.once _ _ _).2 hlist,
      _, (Node.fieldOr?_eq_some_iff hnames hrecord.once _ _ _).2 hgroups, rfl⟩

theorem ofText?_eq_some_iff (text : String) (d : PolicyDraft) :
    ofText? text = some d ↔ Said text d := by
  unfold ofText? ofNode?
  constructor
  · intro h
    obtain ⟨node?, htext, h⟩ := Option.bind_eq_some_iff.1 h
    cases node? with
    | none =>
        cases h
        exact .nothing htext
    | some node =>
        obtain ⟨absent, habsent, h⟩ := Option.bind_eq_some_iff.1 h
        cases absent with
        | true =>
            cases h
            exact .null node htext habsent
        | false => exact .record node d htext habsent ((ofFields_eq_some_iff node d).1 h)
  · intro h
    cases h with
    | nothing htext =>
        rw [htext]
        rfl
    | null node htext habsent =>
        rw [htext]
        show (node.isAbsent? >>= _) = _
        rw [habsent]
        rfl
    | record node d htext habsent hd =>
        rw [htext]
        show (node.isAbsent? >>= _) = _
        rw [habsent]
        exact (ofFields_eq_some_iff node d).2 hd

end PolicyDraft

/-! ## What drafts make -/

/-- A rule made of its parts: the type and the operator have these names, the operator applies to
    the type, the value is converted for both, and every key of the path has a name. -/
structure RuleDraft.Makes (d : RuleDraft) (r : Rule) : Prop where
  field : r.field = d.field
  type : r.type.name = d.type
  op : r.op.name = d.op
  supported : r.op.supports r.type = true
  value : RuleValue.Converts r.type r.op d.value r.value
  named : r.field ≠ ""
  segments : ∀ segment ∈ r.path, segment ≠ ""

/-- An entry made of its parts, rule by rule. -/
structure KindDraft.Makes (d : KindDraft) (entry : KindRules) : Prop where
  kind : entry.kind = d.kind
  named : entry.kind ≠ ""
  apiVersion : entry.apiVersion = d.apiVersion.filter (· ≠ "")
  rules : List.Forall₂ RuleDraft.Makes d.rules entry.rules

/-- A document made of its parts, entry by entry. The exempt groups are the set of the names listed
    that are not empty, or of the group of administrators if there is none. -/
structure PolicyDraft.Makes (d : PolicyDraft) (document : PolicyDocument) : Prop where
  entries : List.Forall₂ KindDraft.Makes d.kinds document.entries
  ascending : document.adminGroups.Pairwise (· < ·)
  adminGroups : ∀ group, group ∈ document.adminGroups ↔
    (group ∈ d.adminGroups ∧ group ≠ "") ∨
      ((∀ name ∈ d.adminGroups, name = "") ∧ group = "system:masters")

/-! ## Names -/

theorem ValueType.ofName?_eq_some_iff (s : String) (t : ValueType) :
    ofName? s = some t ↔ t.name = s := by
  constructor
  · intro h
    simpa using List.find?_some h
  · rintro rfl
    cases t <;> decide

theorem ValueType.ofName?_eq_none_iff (s : String) : ofName? s = none ↔ ∀ t, name t ≠ s := by
  rw [Option.eq_none_iff_forall_ne_some]
  exact forall_congr' fun t => not_congr (ofName?_eq_some_iff s t)

theorem ValueType.name_inj {t t' : ValueType} (h : t.name = t'.name) : t = t' :=
  Option.some.inj (((ofName?_eq_some_iff _ t).2 h).symm.trans ((ofName?_eq_some_iff _ t').2 rfl))

theorem Operator.ofName?_eq_some_iff (s : String) (o : Operator) :
    ofName? s = some o ↔ o.name = s := by
  constructor
  · intro h
    simpa using List.find?_some h
  · rintro rfl
    cases o <;> decide

theorem Operator.ofName?_eq_none_iff (s : String) : ofName? s = none ↔ ∀ o, name o ≠ s := by
  rw [Option.eq_none_iff_forall_ne_some]
  exact forall_congr' fun o => not_congr (ofName?_eq_some_iff s o)

theorem Operator.name_inj {o o' : Operator} (h : o.name = o'.name) : o = o' :=
  Option.some.inj (((ofName?_eq_some_iff _ o).2 h).symm.trans ((ofName?_eq_some_iff _ o').2 rfl))

/-! ## Checking drafts -/

theorem convertAll_eq_ok_iff {α β ε : Type} {convert : Nat → α → Except ε β} {makes : α → β → Prop}
    (h : ∀ i x y, convert i x = .ok y ↔ makes x y) (i : Nat) (xs : List α) (ys : List β) :
    convertAll convert i xs = .ok ys ↔ List.Forall₂ makes xs ys := by
  induction xs generalizing i ys with
  | nil =>
      rw [convertAll, List.forall₂_nil_left_iff, Except.ok.injEq, eq_comm]
  | cons x rest ih =>
      -- a position only shows in errors, so what is made does not depend on it
      rw [convertAll, bind_eq_ok_iff, List.forall₂_cons_left_iff]
      constructor
      · rintro ⟨y, hy, hrest⟩
        obtain ⟨ys', hys, heq⟩ := (bind_eq_ok_iff _ _ _).1 hrest
        cases heq
        exact ⟨y, ys', (h i x y).1 hy, (ih (i + 1) ys').1 hys, rfl⟩
      · rintro ⟨y, ys', hy, hys, rfl⟩
        exact ⟨y, (h i x y).2 hy,
          (bind_eq_ok_iff _ _ _).2 ⟨ys', (ih (i + 1) ys').2 hys, rfl⟩⟩

/-- **Checking a rule** makes it of its parts, wherever it stands. -/
theorem Rule.ofDraft_eq_ok_iff (place : RulePlace) (d : RuleDraft) (r : Rule) :
    Rule.ofDraft place d = .ok r ↔ d.Makes r := by
  unfold Rule.ofDraft
  constructor
  · intro h
    split at h
    · exact absurd h (by simp)
    · rename_i type htype
      split at h
      · exact absurd h (by simp)
      · rename_i op hop
        split at h
        · exact absurd h (by simp)
        · rename_i hsupports
          -- the rest of the conditions, and again that the operator applies, are told by `Rule.make`
          rw [mapError_eq_ok_iff] at h
          obtain ⟨value, hvalue, hmake⟩ := (bind_eq_ok_iff _ _ _).1 h
          obtain ⟨rfl, hr⟩ := (Rule.make_eq_ok_iff _ _ _ _ _).1 hmake
          exact ⟨rfl, (ValueType.ofName?_eq_some_iff _ _).1 htype,
            (Operator.ofName?_eq_some_iff _ _).1 hop, hr.operator,
            (RuleValue.ofYaml_eq_ok_iff _ _ _ _).1 hvalue, hr.field, hr.segments⟩
  · intro h
    have htype := (ValueType.ofName?_eq_some_iff _ _).2 h.type
    have hop := (Operator.ofName?_eq_some_iff _ _).2 h.op
    have hvalue := (RuleValue.ofYaml_eq_ok_iff _ _ _ _).2 h.value
    have hmake : Rule.make d.field r.type r.op r.value = .ok r :=
      (Rule.make_eq_ok_iff _ _ _ _ _).2
        ⟨by rw [← h.field], h.named, h.segments, h.supported, h.value.suits⟩
    simp only [htype, hop, h.supported, Bool.not_true, Bool.false_eq_true, if_false]
    rw [mapError_eq_ok_iff]
    exact (bind_eq_ok_iff _ _ _).2 ⟨r.value, hvalue, hmake⟩

theorem nonempty?_eq_filter (text? : Option String) :
    text?.bind nonempty? = text?.filter (· ≠ "") := by
  cases text? with
  | none => rfl
  | some s => by_cases h : s = "" <;> simp [nonempty?, Option.filter_some, h]

/-- **Checking an entry** makes it of its parts, wherever it stands. -/
theorem KindRules.ofDraft_eq_ok_iff (i : Nat) (d : KindDraft) (entry : KindRules) :
    KindRules.ofDraft i d = .ok entry ↔ d.Makes entry := by
  unfold KindRules.ofDraft
  have hrules := convertAll_eq_ok_iff
    (fun rule r => Rule.ofDraft_eq_ok_iff { entry := i, kind := d.kind, rule } r) 0 d.rules
  constructor
  · intro h
    split at h
    · exact absurd h (by simp)
    · rename_i hkind
      obtain ⟨rules, hall, heq⟩ := (bind_eq_ok_iff _ _ _).1 h
      cases heq
      exact ⟨rfl, by simpa using hkind, nonempty?_eq_filter d.apiVersion, (hrules rules).1 hall⟩
  · intro h
    have hkind : d.kind.isEmpty = false := by simpa [h.kind] using h.named
    rw [hkind]
    refine (bind_eq_ok_iff _ _ _).2 ⟨entry.rules, (hrules entry.rules).2 h.rules, ?_⟩
    rw [nonempty?_eq_filter, ← h.apiVersion, ← h.kind]

namespace PolicyDocument

theorem adminGroupsOf_pairwise (names : List String) :
    (adminGroupsOf names).Pairwise (· < ·) := by
  unfold adminGroupsOf
  split
  · exact List.pairwise_singleton _ _
  · exact Ascending.set_pairwise _

theorem mem_adminGroupsOf (names : List String) (group : String) :
    group ∈ adminGroupsOf names ↔
      (group ∈ names ∧ group ≠ "") ∨
        ((∀ name ∈ names, name = "") ∧ group = "system:masters") := by
  have hset : ∀ name, name ∈ Ascending.set (names.filter fun s => !s.isEmpty) ↔
      name ∈ names ∧ name ≠ "" := by
    intro name
    rw [Ascending.mem_set, List.mem_filter]
    simp
  unfold adminGroupsOf
  split
  · rename_i hnil
    rw [hnil] at hset
    have hempty : ∀ name ∈ names, name = "" := by
      intro name hname
      by_contra hne
      exact List.not_mem_nil ((hset name).2 ⟨hname, hne⟩)
    rw [List.mem_singleton]
    constructor
    · intro h
      exact .inr ⟨hempty, h⟩
    · rintro (⟨hgroup, hne⟩ | ⟨-, h⟩)
      · exact absurd (hempty group hgroup) hne
      · exact h
  · rename_i groups hsome
    rw [hset]
    constructor
    · exact .inl
    · rintro (h | ⟨hempty, -⟩)
      · exact h
      · -- some name listed is not empty
        obtain ⟨name, hname⟩ := List.exists_mem_of_ne_nil _ hsome
        obtain ⟨hlisted, hne⟩ := (hset name).1 hname
        exact absurd (hempty name hlisted) hne

/-- **Checking a draft** makes a document of it. -/
theorem ofDraft_eq_ok_iff (d : PolicyDraft) (document : PolicyDocument) :
    ofDraft d = .ok document ↔ d.Makes document := by
  unfold ofDraft
  have hentries := convertAll_eq_ok_iff KindRules.ofDraft_eq_ok_iff 0 d.kinds
  constructor
  · intro h
    obtain ⟨entries, hall, heq⟩ := (bind_eq_ok_iff _ _ _).1 h
    cases heq
    exact ⟨(hentries entries).1 hall, adminGroupsOf_pairwise _, mem_adminGroupsOf _⟩
  · intro h
    -- both are sets, so the same members make them the same list
    have hgroups : adminGroupsOf d.adminGroups = document.adminGroups :=
      (adminGroupsOf_pairwise _).eq_of_mem_iff h.ascending
        fun group => (mem_adminGroupsOf _ group).trans (h.adminGroups group).symm
    refine (bind_eq_ok_iff _ _ _).2 ⟨document.entries, (hentries _).2 h.entries, ?_⟩
    rw [hgroups]

/-- **A text is accepted exactly if it says a draft that makes a document**, and then as this
    document: with its entries and their rules in the order of the text, each with the field, the
    type, the operator and the value written there, and with the exempt groups listed. -/
theorem parse_eq_ok_iff (text : String) (document : PolicyDocument) :
    parse text = .ok document ↔ ∃ d, PolicyDraft.Said text d ∧ d.Makes document := by
  unfold parse
  constructor
  · intro h
    cases hdraft : PolicyDraft.ofText? text with
    | none =>
        rw [hdraft] at h
        cases h
    | some d =>
        rw [hdraft] at h
        exact ⟨d, (PolicyDraft.ofText?_eq_some_iff text d).1 hdraft,
          (ofDraft_eq_ok_iff d document).1 h⟩
  · rintro ⟨d, hsaid, hmakes⟩
    rw [(PolicyDraft.ofText?_eq_some_iff text d).2 hsaid]
    exact (ofDraft_eq_ok_iff d document).2 hmakes

example : parse "adminGroups: [b, '', a, b]" = .ok { entries := [], adminGroups := ["a", "b"] } := by
  decide +kernel

/-! ## A repeated key

A mapping that has a key twice is no record, whatever stands under the key. -/

/-- The list of entries, given twice. -/
def repeatedKey : String := "forKindsRules: []\nforKindsRules: []\n"

theorem repeatedKey_fields :
    ((Node.ofText? repeatedKey).bind fun node? => node?.bind Node.namedEntries?).map
        (fun fields => fields.map fun field => (field.1, field.2.items?.map List.length))
      = some [("forKindsRules", some 0), ("forKindsRules", some 0)] := by
  decide +kernel

/-- Both keys of the mapping are known and both lists are empty, so nothing else is wrong with it,
    and it is not accepted. -/
theorem parse_repeatedKey :
    (∃ node fields, Node.ofText? repeatedKey = some (some node) ∧ node.Maps fields ∧
      ∀ field ∈ fields, field.1 ∈ ["forKindsRules", "adminGroups"] ∧ field.2.items? = some []) ∧
    parse repeatedKey = .error .unreadable := by
  refine ⟨?_, by decide +kernel⟩
  obtain ⟨fields, hfields, hshape⟩ := Option.map_eq_some_iff.1 repeatedKey_fields
  obtain ⟨node?, htext, hnode⟩ := Option.bind_eq_some_iff.1 hfields
  obtain ⟨node, rfl, hnamed⟩ := Option.bind_eq_some_iff.1 hnode
  refine ⟨node, fields, htext, (Node.namedEntries?_eq_some_iff node fields).1 hnamed, ?_⟩
  intro field hfield
  have heq : (field.1, field.2.items?.map List.length) = ("forKindsRules", some 0) := by
    have hmem := List.mem_map_of_mem (f := fun field : String × Node =>
      (field.1, field.2.items?.map List.length)) hfield
    rw [hshape, List.mem_pair] at hmem
    exact hmem.elim id id
  obtain ⟨hkey, hitems⟩ := Prod.mk.inj heq
  obtain ⟨items, hitems, hlength⟩ := Option.map_eq_some_iff.1 hitems
  rw [hkey, hitems, List.length_eq_zero_iff.1 hlength]
  exact ⟨List.mem_cons_self, rfl⟩

end PolicyDocument

end AdmissionRules
