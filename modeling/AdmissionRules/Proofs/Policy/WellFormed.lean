import AdmissionRules.Policy.Store
import AdmissionRules.Proofs.Policy.Grammar
import AdmissionRules.Proofs.Policy.Index
import AdmissionRules.Proofs.Rule.OperatorTable

set_option autoImplicit false

/-! # Snapshots in force are well formed

What is wrong with a document is found when it is loaded, so every snapshot that a store can have
in force is well formed (`Store.inForceAfter_spec`): evaluating its rules fails on account of an
object's field only, and no group without a name is exempt. -/

namespace AdmissionRules

/-! ## Documents -/

structure KindRules.WellFormed (entry : KindRules) : Prop where
  kind : entry.kind ≠ ""
  apiVersion : entry.apiVersion ≠ some ""
  rules : ∀ r ∈ entry.rules, r.WellFormed

structure PolicyDocument.WellFormed (document : PolicyDocument) : Prop where
  entries : ∀ entry ∈ document.entries, entry.WellFormed
  someGroup : document.adminGroups ≠ []
  groupNames : "" ∉ document.adminGroups

/-! ### What drafts make -/

/-- What follows of the second member of every pair holds of all of them. -/
theorem forall_of_forall₂ {α β : Type} {r : α → β → Prop} {p : β → Prop} (h : ∀ x y, r x y → p y)
    {xs : List α} {ys : List β} (hr : List.Forall₂ r xs ys) : ∀ y ∈ ys, p y := by
  have hboth : List.Forall₂ (fun y x => p y ∧ r x y) ys xs :=
    hr.flip.imp fun y x hxy => ⟨h x y hxy, hxy⟩
  exact ((List.forall₂_and_left ys xs).1 hboth).1

theorem RuleDraft.Makes.wellFormed {d : RuleDraft} {r : Rule} (h : d.Makes r) : r.WellFormed where
  field := h.named
  segments := h.segments
  operator := h.supported
  value := h.value.suits

theorem KindDraft.Makes.wellFormed {d : KindDraft} {entry : KindRules} (h : d.Makes entry) :
    entry.WellFormed where
  kind := h.named
  apiVersion hempty := by
    have hne := (Option.filter_eq_some_iff.1 (h.apiVersion.symm.trans hempty)).2
    exact absurd hne (by decide)
  rules := forall_of_forall₂ (fun _ _ hr => hr.wellFormed) h.rules

theorem PolicyDraft.Makes.wellFormed {d : PolicyDraft} {document : PolicyDocument}
    (h : d.Makes document) : document.WellFormed where
  entries := forall_of_forall₂ (fun _ _ hentry => hentry.wellFormed) h.entries
  someGroup := by
    by_cases hnames : ∀ name ∈ d.adminGroups, name = ""
    · exact List.ne_nil_of_mem ((h.adminGroups "system:masters").2 (.inr ⟨hnames, rfl⟩))
    · push Not at hnames
      obtain ⟨name, hname, hne⟩ := hnames
      exact List.ne_nil_of_mem ((h.adminGroups name).2 (.inl ⟨hname, hne⟩))
  groupNames hempty := by
    rcases (h.adminGroups "").1 hempty with ⟨-, hne⟩ | ⟨-, heq⟩
    · exact hne rfl
    · exact absurd heq (by decide)

namespace PolicyDocument

/-- A text that is accepted is a well-formed document. -/
theorem parse_wellFormed {text : String} {document : PolicyDocument}
    (h : parse text = .ok document) : document.WellFormed := by
  unfold parse at h
  split at h
  · exact ((ofDraft_eq_ok_iff _ _).1 h).wellFormed
  · exact absurd h (by simp)

theorem default_wellFormed : PolicyDocument.default.WellFormed where
  entries _ h := absurd h List.not_mem_nil
  someGroup := List.cons_ne_nil _ _
  groupNames := by decide

end PolicyDocument

/-! ## Snapshots -/

/-- A snapshot with nothing wrong with it. -/
structure Snapshot.WellFormed (s : Snapshot) : Prop where
  document : s.document.WellFormed
  indexed : ∀ kindRules ∈ s.index, ∀ r ∈ kindRules.2, r.WellFormed
  kindNames : ∀ kind ∈ s.kinds, kind ≠ ""
  ascending : s.kinds.Pairwise fun a b => Text.bytes a < Text.bytes b

namespace Snapshot

theorem build_wellFormed {document : PolicyDocument} (h : document.WellFormed)
    (generation : Nat) : (build document generation).WellFormed where
  document := h
  indexed kindRules hmem r hr := by
    rw [eq_rulesOf_of_mem_index document generation hmem] at hr
    obtain ⟨entry, hentry, -, hrule⟩ := mem_rulesOf hr
    exact (h.entries entry hentry).rules r hrule
  kindNames kind hkind := by
    obtain ⟨entry, hentry, rfl⟩ := (mem_kinds_build document generation kind).1 hkind
    exact (h.entries entry hentry).kind
  ascending := kinds_build_ascending document generation

/-- The rules found for a kind are rules of the index. -/
theorem WellFormed.rulesFor {s : Snapshot} (h : s.WellFormed) (kind : String) :
    ∀ r ∈ s.rulesFor kind, r.WellFormed := by
  intro r hr
  unfold Snapshot.rulesFor at hr
  cases hget : Ascending.get? kind s.index with
  | none =>
      rw [hget] at hr
      exact absurd hr List.not_mem_nil
  | some rules =>
      rw [hget] at hr
      exact h.indexed (kind, rules) (Ascending.mem_of_get? hget) r hr

theorem WellFormed.isAdmin_of_forall_empty {s : Snapshot} (h : s.WellFormed)
    {groups : List String} (hgroups : ∀ g ∈ groups, g = "") : s.isAdmin groups = false := by
  unfold isAdmin
  rw [List.any_eq_false]
  intro g hg hcontains
  rw [hgroups g hg] at hcontains
  exact h.document.groupNames (List.contains_iff_mem.1 hcontains)

end Snapshot

/-! ## Stores -/

namespace Store

/-- The store after a list of texts is loaded. -/
def loadAll (store : Store) (texts : List String) : Store :=
  texts.foldl (fun store text => (store.load text).2) store

/-- The snapshot in force after a list of texts is loaded into a new store. -/
def inForceAfter (texts : List String) : Snapshot := (new.loadAll texts).current

/-- A load leaves the snapshot in force as it is or publishes that of an accepted document. -/
theorem load_current (store : Store) (text : String) :
    (store.load text).2.current = store.current ∨
      ∃ document, PolicyDocument.parse text = .ok document ∧
        (store.load text).2.current = .build document store.nextGeneration := by
  unfold load
  split
  · exact .inl rfl
  · rename_i document hparse
    simp only [publish]
    split
    · exact .inr ⟨document, hparse, rfl⟩
    · exact .inl rfl

theorem load_wellFormed {store : Store} (h : store.current.WellFormed) (text : String) :
    (store.load text).2.current.WellFormed := by
  rcases store.load_current text with hsame | ⟨document, hparse, hbuild⟩
  · rw [hsame]
    exact h
  · rw [hbuild]
    exact Snapshot.build_wellFormed (PolicyDocument.parse_wellFormed hparse) _

theorem loadAll_preserves {store : Store} (h : store.current.WellFormed) (texts : List String) :
    (store.loadAll texts).current.WellFormed := by
  induction texts generalizing store with
  | nil => exact h
  | cons text rest ih => exact ih (load_wellFormed h text)

theorem inForceAfter_wellFormed (texts : List String) : (inForceAfter texts).WellFormed :=
  loadAll_preserves (Snapshot.build_wellFormed PolicyDocument.default_wellFormed 0) texts

/-- **What is in force is well formed**, whatever texts were loaded: every rule passes its check,
    kinds and groups have names, an API version that is given is not empty, some group is exempt,
    and the kinds ascend in the order of their bytes. So evaluating a rule of the snapshot never
    fails on account of the rule itself, and nobody is exempt for a group without a name. -/
theorem inForceAfter_spec (texts : List String) :
    (inForceAfter texts).WellFormed ∧
    (∀ entry ∈ (inForceAfter texts).document.entries, ∀ r ∈ entry.rules, r.defect? = none) ∧
    (∀ kind, ∀ r ∈ (inForceAfter texts).rulesFor kind, r.defect? = none) ∧
    (∀ r, (∃ entry ∈ (inForceAfter texts).document.entries, r ∈ entry.rules) ∨
        (∃ kind, r ∈ (inForceAfter texts).rulesFor kind) →
      ∀ object type op found,
        r.evaluate object ≠ .error (.unsupportedOperator type op) ∧
        r.evaluate object ≠ .error (.valueMismatch type op found)) ∧
    ∀ groups : List String, (∀ g ∈ groups, g = "") → (inForceAfter texts).isAdmin groups = false := by
  have hs : (inForceAfter texts).WellFormed := inForceAfter_wellFormed texts
  have hentries : ∀ entry ∈ (inForceAfter texts).document.entries, ∀ r ∈ entry.rules,
      r.WellFormed :=
    fun entry hentry => (hs.document.entries entry hentry).rules
  refine ⟨hs, ?_, ?_, ?_, fun groups => hs.isAdmin_of_forall_empty⟩
  · intro entry hentry r hr
    exact r.defect?_eq_none_iff.2 (hentries entry hentry r hr)
  · intro kind r hr
    exact r.defect?_eq_none_iff.2 (hs.rulesFor kind r hr)
  · intro r hr object type op found
    have hrule : r.WellFormed := by
      rcases hr with ⟨entry, hentry, hmem⟩ | ⟨kind, hmem⟩
      · exact hentries entry hentry r hmem
      · exact hs.rulesFor kind r hmem
    have hresult := Rule.evaluate_fromField hrule object
    exact ⟨hresult.ne_unsupportedOperator type op, hresult.ne_valueMismatch type op found⟩

end Store

end AdmissionRules
