import AdmissionRules.Policy.Snapshot
import AdmissionRules.Proofs.Ascending
import Mathlib.Algebra.Ring.Nat
import Mathlib.Data.List.Perm.Basic

set_option autoImplicit false

/-! # The index of a snapshot

The index holds under a kind the rules of all entries of that kind, in the order of the document
(`rulesFor_build`), and its keys are the kinds that entries name, in ascending order. The main
statement (`build_indexes`) adds that the rules of all kinds are the rules of all entries: none is
lost, and none is there twice. -/

namespace AdmissionRules.Snapshot

/-- The rules that entries give for a kind, in their order. -/
def rulesOf (entries : List KindRules) (kind : String) : List Rule :=
  (entries.filter (·.kind = kind)).flatMap (·.rules)

theorem mem_rulesOf {entries : List KindRules} {kind : String} {r : Rule}
    (h : r ∈ rulesOf entries kind) : ∃ entry ∈ entries, entry.kind = kind ∧ r ∈ entry.rules := by
  obtain ⟨entry, hentry, hr⟩ := List.mem_flatMap.1 h
  obtain ⟨hmem, hkind⟩ := List.mem_filter.1 hentry
  exact ⟨entry, hmem, by simpa using hkind, hr⟩

theorem rulesOf_append (entries entries' : List KindRules) (kind : String) :
    rulesOf (entries ++ entries') kind = rulesOf entries kind ++ rulesOf entries' kind := by
  unfold rulesOf
  rw [List.filter_append, List.flatMap_append]

theorem rulesOf_cons (entry : KindRules) (rest : List KindRules) (kind : String) :
    rulesOf (entry :: rest) kind =
      (if entry.kind = kind then entry.rules else []) ++ rulesOf rest kind := by
  unfold rulesOf
  by_cases hkind : entry.kind = kind <;> simp [hkind]

/-! ## Adding entries to an index -/

/-- The rules under a kind, none if it has no entry. -/
def indexed (index : List (String × List Rule)) (kind : String) : List Rule :=
  (Ascending.get? kind index).getD []

theorem indexed_indexEntry (index : List (String × List Rule)) (entry : KindRules)
    (kind : String) :
    indexed (indexEntry index entry) kind = indexed index kind ++ rulesOf [entry] kind := by
  unfold indexed indexEntry
  rw [Ascending.get?_alter]
  by_cases hkind : entry.kind = kind
  · simp [rulesOf, hkind]
  · simp [rulesOf, hkind, Ne.symm hkind]

theorem indexed_foldl (entries : List KindRules) (index : List (String × List Rule))
    (kind : String) :
    indexed (entries.foldl indexEntry index) kind = indexed index kind ++ rulesOf entries kind := by
  induction entries generalizing index with
  | nil => simp [rulesOf]
  | cons entry rest ih =>
      rw [List.foldl_cons, ih, indexed_indexEntry, List.append_assoc, ← rulesOf_append,
        List.singleton_append]

theorem mem_keys_foldl (entries : List KindRules) (index : List (String × List Rule))
    (kind : String) :
    kind ∈ Ascending.keys (entries.foldl indexEntry index)
      ↔ (∃ entry ∈ entries, entry.kind = kind) ∨ kind ∈ Ascending.keys index := by
  induction entries generalizing index with
  | nil => simp
  | cons entry rest ih =>
      rw [List.foldl_cons, ih, indexEntry, Ascending.mem_keys_alter, List.exists_mem_cons_iff,
        eq_comm (a := kind), or_assoc, or_left_comm]

theorem ordered_foldl (entries : List KindRules) {index : List (String × List Rule)}
    (h : Ascending.Ordered index) : Ascending.Ordered (entries.foldl indexEntry index) := by
  induction entries generalizing index with
  | nil => exact h
  | cons entry rest ih => exact ih (h.alter _ _)

/-! ## The index of a document -/

variable (document : PolicyDocument) (generation : Nat)

theorem rulesFor_build (kind : String) :
    (build document generation).rulesFor kind = rulesOf document.entries kind :=
  indexed_foldl document.entries [] kind

theorem mem_kinds_build (kind : String) :
    kind ∈ (build document generation).kinds ↔ ∃ entry ∈ document.entries, entry.kind = kind := by
  have h := mem_keys_foldl document.entries [] kind
  have hnil : kind ∉ Ascending.keys ([] : List (String × List Rule)) := List.not_mem_nil
  rwa [or_iff_left hnil] at h

theorem ordered_build : Ascending.Ordered (build document generation).index :=
  ordered_foldl document.entries Ascending.ordered_nil

theorem kinds_build_pairwise : (build document generation).kinds.Pairwise (· < ·) :=
  ordered_build document generation

/-- Kinds ascend by their bytes. -/
theorem kinds_build_ascending :
    (build document generation).kinds.Pairwise fun a b => Text.bytes a < Text.bytes b :=
  (kinds_build_pairwise document generation).imp fun hlt => (Text.lt_iff_bytes_lt _ _).1 hlt

/-- What the index holds under a kind is what is found there. -/
theorem eq_rulesOf_of_mem_index {kind : String} {rules : List Rule}
    (h : (kind, rules) ∈ (build document generation).index) :
    rules = rulesOf document.entries kind := by
  have hget := (ordered_build document generation).get?_of_mem h
  have hrules := rulesFor_build document generation kind
  rw [rulesFor, hget] at hrules
  exact hrules

/-! ## All rules -/

/-- Of kinds that stand once, only that of an entry takes its rules. -/
theorem flatMap_rulesOf_singleton {kinds : List String} (hkinds : kinds.Nodup) {entry : KindRules}
    (hentry : entry.kind ∈ kinds) : kinds.flatMap (rulesOf [entry]) = entry.rules := by
  obtain ⟨before, after, rfl⟩ := List.append_of_mem hentry
  have hnone : ∀ part : List String, entry.kind ∉ part → part.flatMap (rulesOf [entry]) = [] := by
    intro part hpart
    rw [List.flatMap_eq_nil_iff]
    intro kind hkind
    have hne : entry.kind ≠ kind := fun heq => hpart (heq ▸ hkind)
    simp [rulesOf, hne]
  have hothers : entry.kind ∉ before ++ after := (List.nodup_middle.1 hkinds).notMem
  obtain ⟨hbefore, hafter⟩ := not_or.1 (mt List.mem_append.2 hothers)
  rw [List.flatMap_append, List.flatMap_cons, hnone before hbefore, hnone after hafter]
  simp [rulesOf]

/-- Joined kind by kind, the rules of entries are the same as entry by entry, in another order. -/
theorem flatMap_rulesOf_perm {kinds : List String} (hkinds : kinds.Nodup)
    {entries : List KindRules} (hentries : ∀ entry ∈ entries, entry.kind ∈ kinds) :
    (kinds.flatMap (rulesOf entries)).Perm (entries.flatMap (·.rules)) := by
  induction entries with
  | nil => simp [rulesOf]
  | cons entry rest ih =>
      obtain ⟨hentry, hrest⟩ := List.forall_mem_cons.1 hentries
      -- each kind takes the rules of this entry first, and only one kind has any of them
      have hsplit : rulesOf (entry :: rest) =
          fun kind => rulesOf [entry] kind ++ rulesOf rest kind :=
        funext fun kind => rulesOf_append [entry] rest kind
      rw [hsplit, List.flatMap_cons, ← flatMap_rulesOf_singleton hkinds hentry]
      exact (List.flatMap_append_perm _ _ _).symm.trans ((ih hrest).append_left _)

theorem ruleCount_build :
    (build document generation).ruleCount =
      ((build document generation).kinds.map fun kind =>
        ((build document generation).rulesFor kind).length).sum := by
  have hlengths : (build document generation).index.map (·.2.length) =
      (build document generation).kinds.map fun kind =>
        ((build document generation).rulesFor kind).length := by
    rw [kinds, List.map_map]
    refine List.map_congr_left ?_
    rintro ⟨kind, rules⟩ hmem
    rw [eq_rulesOf_of_mem_index document generation hmem, Function.comp_apply, rulesFor_build]
  rw [ruleCount, ← hlengths, List.sum, List.foldr_map]

/-- **The index agrees with the document.** A kind has the rules of exactly the entries that name
    it, joined in the order of the document, wherever these stand, and none if there is no such
    entry. The kinds are those that some entry names, with rules or without, in strictly ascending
    order of their bytes. The rules of all kinds are the rules of all entries, each as often as it
    stands there, and so are their numbers. -/
theorem build_indexes :
    (∀ kind, (build document generation).rulesFor kind =
      (document.entries.filter (·.kind = kind)).flatMap (·.rules)) ∧
    (∀ kind, (∀ entry ∈ document.entries, entry.kind ≠ kind) →
      (build document generation).rulesFor kind = []) ∧
    ((build document generation).kinds.Pairwise fun a b => Text.bytes a < Text.bytes b) ∧
    (∀ kind, kind ∈ (build document generation).kinds ↔
      ∃ entry ∈ document.entries, entry.kind = kind) ∧
    ((build document generation).kinds.flatMap (build document generation).rulesFor).Perm
      (document.entries.flatMap (·.rules)) ∧
    (build document generation).ruleCount =
      ((build document generation).kinds.map fun kind =>
        ((build document generation).rulesFor kind).length).sum ∧
    (build document generation).ruleCount = (document.entries.map (·.rules.length)).sum := by
  have hrules : (build document generation).rulesFor = rulesOf document.entries :=
    funext (rulesFor_build document generation)
  have hperm : ((build document generation).kinds.flatMap
      (build document generation).rulesFor).Perm (document.entries.flatMap (·.rules)) := by
    rw [hrules]
    have hnodup := (kinds_build_pairwise document generation).imp fun hlt => hlt.ne
    exact flatMap_rulesOf_perm hnodup fun entry hentry =>
      (mem_kinds_build document generation _).2 ⟨entry, hentry, rfl⟩
  have hcount := ruleCount_build document generation
  refine ⟨rulesFor_build document generation, ?_, kinds_build_ascending document generation,
    mem_kinds_build document generation, hperm, hcount, ?_⟩
  · intro kind hkind
    have hnone : document.entries.filter (·.kind = kind) = [] := by
      simpa [List.filter_eq_nil_iff] using hkind
    rw [rulesFor_build, rulesOf, hnone, List.flatMap_nil]
  · rw [hcount, ← List.length_flatMap, hperm.length_eq, List.length_flatMap]

end AdmissionRules.Snapshot
