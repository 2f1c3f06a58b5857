import AdmissionRules.Policy.Draft
import AdmissionRules.Proofs.Ascending
import AdmissionRules.Proofs.Except

set_option autoImplicit false

/-! # Records in YAML

What a node says, told without a way to find it out: that it is a text or a list, that it is a
mapping with certain fields (`Node.Maps`) and a record of given keys (`Node.IsRecord`), and what a
record says under a key that may be left out (`Says`). Each way of reading a node succeeds exactly
if the node says what is read. -/

namespace AdmissionRules.Yaml.Node

/-! ## Texts and lists -/

/-- The node is a scalar with a text. -/
def IsText (node : Node) (s : String) : Prop := node.text? = some s

theorem text?_iff (node : Node) (s : String) : node.text? = some s ↔ node.IsText s := Iff.rfl

/-- What a node says that may stand for nothing. -/
inductive IsOptionalText (node : Node) : Option String → Prop where
  | absent (h : node.isAbsent? = some true) : node.IsOptionalText none
  | text (s : String) (h : node.isAbsent? = some false) (hs : node.IsText s) :
      node.IsOptionalText (some s)

theorem optionalText?_eq_some_iff (node : Node) (text? : Option String) :
    node.optionalText? = some text? ↔ node.IsOptionalText text? := by
  unfold optionalText?
  constructor
  · intro h
    obtain ⟨absent, habsent, h⟩ := Option.bind_eq_some_iff.1 h
    cases absent with
    | true =>
        cases h
        exact .absent habsent
    | false =>
        obtain ⟨s, hs, rfl⟩ := Option.map_eq_some_iff.1 h
        exact .text s habsent hs
  · intro h
    cases h with
    | absent habsent =>
        rw [habsent]
        rfl
    | text s habsent hs =>
        rw [habsent]
        exact Option.map_eq_some_iff.2 ⟨s, hs, rfl⟩

variable {α : Type}

/-- The node is a sequence, and its items say the members of a list, each in its place. -/
def IsList (item : Node → α → Prop) (node : Node) (xs : List α) : Prop :=
  ∃ nodes, node.items? = some nodes ∧ List.Forall₂ item nodes xs

theorem list?_eq_some_iff {read? : Node → Option α} {item : Node → α → Prop}
    (h : ∀ node x, read? node = some x ↔ item node x) (node : Node) (xs : List α) :
    list? read? node = some xs ↔ node.IsList item xs := by
  have hitem : (fun node x => read? node = some x) = item := by
    funext node x
    exact propext (h node x)
  unfold list? IsList
  rw [← hitem]
  simp only [Option.bind_eq_bind, Option.bind_eq_some_iff, mapM_eq_some_iff]

/-! ## Records -/

/-- The node is a mapping with some fields: all keys are texts. -/
def Maps (node : Node) (fields : List (String × Node)) : Prop :=
  ∃ entries, node.entries? = some entries ∧
    List.Forall₂ (fun entry field => entry.1.IsText field.1 ∧ entry.2 = field.2) entries fields

/-- The node is a mapping of which every key is known and stands once. -/
structure IsRecord (keys : List String) (node : Node) (fields : List (String × Node)) : Prop where
  maps : node.Maps fields
  known : ∀ key ∈ fields.map (·.1), key ∈ keys
  once : (fields.map (·.1)).Nodup

theorem namedEntries?_eq_some_iff (node : Node) (fields : List (String × Node)) :
    node.namedEntries? = some fields ↔ node.Maps fields := by
  have hentry : ∀ (entry : Node × Node) (field : String × Node),
      entry.1.text?.map (·, entry.2) = some field ↔
        entry.1.IsText field.1 ∧ entry.2 = field.2 := by
    rintro ⟨key, value⟩ ⟨name, found⟩
    simp only [IsText, Option.map_eq_some_iff, Prod.mk.injEq]
    constructor
    · rintro ⟨s, hs, rfl, rfl⟩
      exact ⟨hs, rfl⟩
    · rintro ⟨hname, rfl⟩
      exact ⟨name, hname, rfl, rfl⟩
  unfold namedEntries? Maps
  simp only [Option.bind_eq_bind, Option.bind_eq_some_iff, mapM_eq_some_iff, hentry]

theorem fields?_eq_some_iff (keys : List String) (node : Node) (fields : List (String × Node)) :
    node.fields? keys = some fields ↔ node.IsRecord keys fields := by
  unfold fields?
  constructor
  · intro h
    obtain ⟨found, hfound, h⟩ := Option.bind_eq_some_iff.1 h
    simp only [Option.ite_none_right_eq_some, Option.some.injEq] at h
    obtain ⟨⟨hknown, honce⟩, rfl⟩ := h
    exact ⟨(namedEntries?_eq_some_iff node found).1 hfound, hknown, honce⟩
  · rintro ⟨hmaps, hknown, honce⟩
    rw [(namedEntries?_eq_some_iff node fields).2 hmaps]
    exact if_pos ⟨hknown, honce⟩

/-! ## Fields -/

/-- What fields say under a key, or the default if they have none under it. -/
inductive Says (fields : List (String × Node)) (key : String) (value : Node → α → Prop)
    (default : α) : α → Prop where
  | given (node : Node) (x : α) (h : (key, node) ∈ fields) (hx : value node x) :
      Says fields key value default x
  | leftOut (h : key ∉ fields.map (·.1)) : Says fields key value default default

/-- Under a key that stands once, the field is found that stands there. -/
theorem lookup_eq_some_iff {fields : List (String × Node)} (honce : (fields.map (·.1)).Nodup)
    (key : String) (node : Node) : fields.lookup key = some node ↔ (key, node) ∈ fields := by
  constructor
  · intro h
    obtain ⟨before, after, rfl, -⟩ := List.lookup_eq_some_iff.1 h
    exact List.mem_append_right _ List.mem_cons_self
  · intro h
    obtain ⟨before, after, rfl⟩ := List.append_of_mem h
    refine List.lookup_eq_some_iff.2 ⟨before, after, rfl, fun field hfield => ?_⟩
    -- another field before this one would stand under the same key
    rw [List.map_append, List.map_cons] at honce
    refine bne_iff_ne.2 fun heq => ?_
    exact (List.nodup_append.1 honce).2.2 _ (List.mem_map_of_mem hfield) _ List.mem_cons_self
      heq.symm

theorem fieldOr?_eq_some_iff {read? : Node → Option α} {value : Node → α → Prop}
    (h : ∀ node x, read? node = some x ↔ value node x) {fields : List (String × Node)}
    (honce : (fields.map (·.1)).Nodup) (key : String) (default x : α) :
    fieldOr? default read? key fields = some x ↔ Says fields key value default x := by
  unfold fieldOr?
  constructor
  · intro hread
    cases hlookup : fields.lookup key with
    | some node =>
        rw [hlookup] at hread
        exact .given node x ((lookup_eq_some_iff honce key node).1 hlookup) ((h node x).1 hread)
    | none =>
        rw [hlookup] at hread
        cases hread
        exact .leftOut ((Ascending.lookup_eq_none_iff fields key).1 hlookup)
  · intro hsays
    cases hsays with
    | given node x hmem hx =>
        rw [(lookup_eq_some_iff honce key node).2 hmem]
        exact (h node x).2 hx
    | leftOut hnone => rw [(Ascending.lookup_eq_none_iff fields key).2 hnone]

end AdmissionRules.Yaml.Node
