import AdmissionRules.Json.Record
import AdmissionRules.Proofs.Except
import AdmissionRules.Proofs.Json.Members
import Mathlib.Data.List.Forall2

set_option autoImplicit false

/-! # What readers take from a source

What a reader makes of one member of an object depends on the source under its key alone: under a
key that is written more than once the last source counts (`foldMembers_reads`). So the members of
a value that is read in full are the sources under their keys, read one deeper
(`any_get?`), and a field of a record is what its own source is read as (`record_reads`). -/

namespace AdmissionRules.Json

open Reader

/-! ## Parts of a source -/

namespace Source

/-- The source under a key; of members with one key the last one counts. -/
def member? (key : String) : Source → Option Source
  | .object members _ => members.reverse.lookup (some key)
  | _ => none

/-- The sources under a key, in the order written. -/
def under (key : String) : Source → List Source
  | .object members _ => (members.filter (·.1 = some key)).map (·.2)
  | _ => []

/-- The source of a field of a record, under its key, or in its place if the record is written as
    an array. -/
def field? (key : String) (place : Nat) : Source → Option Source
  | .array items _ => items[place]?
  | s => s.member? key

end Source

/-- The value of a field of a record that is written as an object or as an array. -/
def field? (key : String) (place : Nat) : Json → Option Json
  | .array items => items[place]?
  | j => j.get? key

/-! ## Values read in full -/

/-- How a value that is read in full comes from its source, which lies at a depth. -/
inductive ReadAt (depth : Nat) : Source → Json → Prop where
  | object {members : List (StringText × Source)} {ms : List (String × Json)} (closed : Bool)
      (h : anyMembers (depth + 1) members = .ok ms) :
      ReadAt depth (.object members closed) (.ofMembers ms)
  | array {items : List Source} {js : List Json} (closed : Bool)
      (h : anyItems (depth + 1) items = .ok js) :
      ReadAt depth (.array items closed) (.array js)
  /-- Neither has parts. -/
  | scalar {s : Source} {j : Json}
      (hs : ∀ key place, s.member? key = none ∧ s.field? key place = none)
      (hj : ∀ key place, j.get? key = none ∧ j.field? key place = none) : ReadAt depth s j

theorem any_readAt {depth : Nat} {s : Source} {j : Json} (h : any depth s = .ok j) :
    ReadAt depth s j := by
  cases s with
  | object members closed =>
      rw [any] at h
      split at h
      · obtain ⟨ms, hms, h⟩ := (bind_eq_ok_iff _ _ _).1 h
        split at h
        · cases h
          exact .object closed hms
        · cases h
      · cases h
  | array items closed =>
      rw [any] at h
      split at h
      · obtain ⟨js, hjs, h⟩ := (bind_eq_ok_iff _ _ _).1 h
        split at h
        · cases h
          exact .array closed hjs
        · cases h
      · cases h
  | number n =>
      -- what is left has no parts, whatever is read of it
      rw [any] at h
      split at h
      · cases h
        exact .scalar (fun _ _ => ⟨rfl, rfl⟩) fun _ _ => ⟨rfl, rfl⟩
      · cases h
  | string s =>
      cases s with
      | some s =>
          cases h
          exact .scalar (fun _ _ => ⟨rfl, rfl⟩) fun _ _ => ⟨rfl, rfl⟩
      | none => cases h
  | null =>
      cases h
      exact .scalar (fun _ _ => ⟨rfl, rfl⟩) fun _ _ => ⟨rfl, rfl⟩
  | bool b =>
      cases h
      exact .scalar (fun _ _ => ⟨rfl, rfl⟩) fun _ _ => ⟨rfl, rfl⟩
  | unkeyed s => cases h
  | broken => cases h

/-- Members are read one by one. -/
theorem anyMembers_forall₂ {depth : Nat} {members : List (StringText × Source)}
    {ms : List (String × Json)} (h : anyMembers depth members = .ok ms) :
    List.Forall₂ (fun m e => m.1 = some e.1 ∧ any depth m.2 = .ok e.2) members ms := by
  induction members generalizing ms with
  | nil =>
      cases h
      exact .nil
  | cons m rest ih =>
      obtain ⟨key?, s⟩ := m
      cases key? with
      | none => cases h
      | some key =>
          rw [anyMembers] at h
          obtain ⟨j, hj, h⟩ := (bind_eq_ok_iff _ _ _).1 h
          obtain ⟨ms', hms', h⟩ := (bind_eq_ok_iff _ _ _).1 h
          cases h
          exact .cons ⟨rfl, hj⟩ (ih hms')

theorem anyItems_forall₂ {depth : Nat} {items : List Source} {js : List Json}
    (h : anyItems depth items = .ok js) :
    List.Forall₂ (fun s j => any depth s = .ok j) items js := by
  induction items generalizing js with
  | nil =>
      cases h
      exact .nil
  | cons s rest ih =>
      rw [anyItems] at h
      obtain ⟨j, hj, h⟩ := (bind_eq_ok_iff _ _ _).1 h
      obtain ⟨js', hjs', h⟩ := (bind_eq_ok_iff _ _ _).1 h
      cases h
      exact .cons hj (ih hjs')

/-- Of two lists that agree key by key, what stands under a key is related. -/
theorem rel_lookup {R : Source → Json → Prop} {members : List (StringText × Source)}
    {ms : List (String × Json)}
    (h : List.Forall₂ (fun m e => m.1 = some e.1 ∧ R m.2 e.2) members ms) (key : String) :
    Option.Rel R (members.lookup (some key)) (ms.lookup key) := by
  induction h with
  | nil => exact .none
  | @cons m e members ms hm _ ih =>
      obtain ⟨hkey, hvalue⟩ := hm
      rw [List.lookup_cons, List.lookup_cons, hkey]
      by_cases hk : key = e.1
      · simp only [hk, beq_self_eq_true]
        exact .some hvalue
      · have hsome : some key ≠ some e.1 := fun heq => hk (Option.some.inj heq)
        simp only [beq_false_of_ne hk, beq_false_of_ne hsome]
        exact ih

theorem rel_getElem? {α β : Type} {R : α → β → Prop} {xs : List α} {ys : List β}
    (h : List.Forall₂ R xs ys) (i : Nat) : Option.Rel R xs[i]? ys[i]? := by
  induction h generalizing i with
  | nil => exact .none
  | cons hx _ ih =>
      cases i with
      | zero => exact .some hx
      | succ i => exact ih i

/-- The member under a key is what the source under it is read as. -/
theorem any_get? {depth : Nat} {s : Source} {j : Json} (h : any depth s = .ok j) (key : String) :
    Option.Rel (fun s j => any (depth + 1) s = .ok j) (s.member? key) (j.get? key) := by
  cases any_readAt h with
  | object closed hms =>
      rw [get?_ofMembers]
      exact rel_lookup (List.rel_reverse (anyMembers_forall₂ hms)) key
  | array closed hjs => exact .none
  | scalar hs hj =>
      rw [(hs key 0).1, (hj key 0).1]
      exact .none

/-- A field of a record, in either form, is what its source is read as. -/
theorem any_field? {depth : Nat} {s : Source} {j : Json} (h : any depth s = .ok j) (key : String)
    (place : Nat) :
    Option.Rel (fun s j => any (depth + 1) s = .ok j) (s.field? key place)
      (j.field? key place) := by
  cases any_readAt h with
  | object closed hms => exact any_get? h key
  | array closed hjs => exact rel_getElem? (anyItems_forall₂ hjs) place
  | scalar hs hj =>
      rw [(hs key place).2, (hj key place).2]
      exact .none

/-- A text comes from a string alone. -/
theorem any_eq_string_iff (depth : Nat) (s : Source) (x : String) :
    any depth s = .ok (.string x) ↔ s = .string (some x) := by
  constructor
  · intro h
    cases s with
    | string text =>
        cases text with
        | some text =>
            cases h
            rfl
        | none => cases h
    | number n =>
        rw [any] at h
        split at h <;> cases h
    | array items closed =>
        rw [any] at h
        split at h
        · obtain ⟨js, -, h⟩ := (bind_eq_ok_iff _ _ _).1 h
          split at h <;> cases h
        · cases h
    | object members closed =>
        rw [any] at h
        split at h
        · obtain ⟨ms, -, h⟩ := (bind_eq_ok_iff _ _ _).1 h
          split at h <;> cases h
        · cases h
    | _ => cases h
  · rintro rfl
    rfl

theorem listItems_string_eq_ok {depth : Nat} {closed : Bool} {items : List Source}
    {xs : List String} (h : listItems Reader.string depth closed items = .ok xs) :
    closed = true ∧ items = xs.map fun x => .string (some x) := by
  induction items generalizing xs with
  | nil =>
      rw [listItems] at h
      split at h
      · rename_i hclosed
        cases h
        exact ⟨hclosed, rfl⟩
      · cases h
  | cons s rest ih =>
      rw [listItems] at h
      obtain ⟨x, hx, h⟩ := (bind_eq_ok_iff _ _ _).1 h
      obtain ⟨xs', hxs', h⟩ := (bind_eq_ok_iff _ _ _).1 h
      cases h
      obtain ⟨hclosed, hrest⟩ := ih hxs'
      refine ⟨hclosed, ?_⟩
      rw [List.map_cons, ← hrest]
      unfold Reader.string at hx
      split at hx <;> cases hx
      rfl

/-- A list of texts comes from an array of strings. -/
theorem list_string_eq_ok {depth : Nat} {s : Source} {xs : List String}
    (h : list Reader.string depth s = .ok xs) :
    s = .array (xs.map fun x => .string (some x)) true := by
  cases s with
  | array items closed =>
      rw [list, inside] at h
      split at h
      · obtain ⟨rfl, rfl⟩ := listItems_string_eq_ok h
        rfl
      · cases h
  | _ => cases h

theorem nullable_eq_ok_none_iff {α : Type} {read : Reader α} {depth : Nat} {s : Source} :
    nullable read depth s = .ok none ↔ s = .null := by
  constructor
  · intro h
    unfold nullable at h
    split at h
    · rfl
    · obtain ⟨y, -, heq⟩ := (map_eq_ok_iff _ _ _).1 h
      cases heq
  · rintro rfl
    rfl

theorem nullable_eq_ok_some {α : Type} {read : Reader α} {depth : Nat} {s : Source} {x : α}
    (h : nullable read depth s = .ok (some x)) : read depth s = .ok x := by
  unfold nullable at h
  split at h
  · cases h
  · obtain ⟨y, hy, heq⟩ := (map_eq_ok_iff _ _ _).1 h
    rw [hy, Option.some.inj heq]

/-- A text that is read holds the source of what is read. -/
theorem run_eq_ok {α : Type} {read : Reader α} {text : String} {x : α}
    (h : run read text = .ok x) : read 0 (Source.ofText text).1 = .ok x := by
  unfold run at h
  generalize Source.ofText text = source at h ⊢
  obtain ⟨source, ended⟩ := source
  obtain ⟨y, hy, h⟩ := (bind_eq_ok_iff _ _ _).1 h
  cases ended with
  | true => exact hy.trans h
  | false => cases h

/-! ## Objects -/

section Fold

variable {σ β : Type} {step : σ → String → Source → Except Fault σ}

/-- What is observed of the state after the members of an object is decided by the last source
    under one key, if no other key changes it. -/
theorem foldMembers_reads (observe : σ → β) (key : String) (R : Source → β → Prop)
    (hother : ∀ state k s state', k ≠ key → step state k s = .ok state' →
      observe state' = observe state)
    (hkey : ∀ state s state', step state key s = .ok state' → R s (observe state'))
    {closed : Bool} {state result : σ} {members : List (StringText × Source)}
    (h : foldMembers step closed state members = .ok result) :
    (members.reverse.lookup (some key) = none ∧ observe result = observe state) ∨
      ∃ s, members.reverse.lookup (some key) = some s ∧ R s (observe result) := by
  induction members generalizing state with
  | nil =>
      rw [foldMembers] at h
      split at h
      · cases h
        exact .inl ⟨rfl, rfl⟩
      · cases h
  | cons m rest ih =>
      obtain ⟨k?, s⟩ := m
      cases k? with
      | none => cases h
      | some k =>
          rw [foldMembers] at h
          obtain ⟨state', hstep, h⟩ := (bind_eq_ok_iff _ _ _).1 h
          rw [Ascending.lookup_reverse_cons]
          -- a later member under the key takes over; without one, this member may be the last
          rcases ih h with ⟨hnone, hsame⟩ | ⟨s', hlast, hR⟩
          · rw [hnone, hsame, Option.none_or]
            by_cases hk : k = key
            · rw [if_pos (congrArg some hk.symm)]
              exact .inr ⟨s, rfl, hkey state s state' (hk ▸ hstep)⟩
            · rw [if_neg fun heq => hk (Option.some.inj heq).symm]
              exact .inl ⟨rfl, hother state k s state' hk hstep⟩
          · rw [hlast]
            exact .inr ⟨s', rfl, hR⟩

/-- What is gathered from the members of an object comes from the sources under one key, one from
    each in their order, if no other key adds to it. -/
theorem foldMembers_gathers (observe : σ → List β) (key : String) (R : Source → β → Prop)
    (hother : ∀ state k s state', k ≠ key → step state k s = .ok state' →
      observe state' = observe state)
    (hkey : ∀ state s state', step state key s = .ok state' →
      ∃ x, R s x ∧ observe state' = observe state ++ [x])
    {closed : Bool} {state result : σ} {members : List (StringText × Source)}
    (h : foldMembers step closed state members = .ok result) :
    ∃ xs, List.Forall₂ R ((members.filter (·.1 = some key)).map (·.2)) xs ∧
      observe result = observe state ++ xs := by
  induction members generalizing state with
  | nil =>
      rw [foldMembers] at h
      split at h <;> cases h
      exact ⟨[], .nil, (List.append_nil _).symm⟩
  | cons m rest ih =>
      obtain ⟨k?, s⟩ := m
      cases k? with
      | none => cases h
      | some k =>
          rw [foldMembers] at h
          obtain ⟨state', hstep, h⟩ := (bind_eq_ok_iff _ _ _).1 h
          obtain ⟨xs, hxs, hresult⟩ := ih h
          by_cases hk : k = key
          · subst hk
            obtain ⟨x, hx, hstate'⟩ := hkey state s state' hstep
            refine ⟨x :: xs, ?_, ?_⟩
            · simpa using List.Forall₂.cons hx hxs
            · rw [hresult, hstate', List.append_assoc, List.singleton_append]
          · refine ⟨xs, ?_, ?_⟩
            · simpa [hk] using hxs
            · rw [hresult, hother state k s state' hk hstep]

/-- What is read as an object is one, and its members are handled one deeper. -/
theorem object_eq_ok {init result : σ} {step : Nat → σ → String → Source → Except Fault σ}
    {depth : Nat} {s : Source} (h : Reader.object init step depth s = .ok result) :
    ∃ members closed, s = .object members closed ∧
      foldMembers (step (depth + 1)) closed init members = .ok result := by
  cases s with
  | object members closed =>
      rw [Reader.object, inside] at h
      split at h
      · exact ⟨members, closed, rfl, h⟩
      · cases h
  | _ => cases h

/-- What is observed of an object is decided by the source under one key, if no other key
    changes it. -/
theorem object_reads (observe : σ → β) (key : String) (R : Source → β → Prop)
    {step : Nat → σ → String → Source → Except Fault σ} {init result : σ} {depth : Nat} {s : Source}
    (hother : ∀ state k s state', k ≠ key → step (depth + 1) state k s = .ok state' →
      observe state' = observe state)
    (hkey : ∀ state s state', step (depth + 1) state key s = .ok state' → R s (observe state'))
    (h : Reader.object init step depth s = .ok result) :
    (s.member? key = none ∧ observe result = observe init) ∨
      ∃ s', s.member? key = some s' ∧ R s' (observe result) := by
  obtain ⟨members, closed, rfl, hfold⟩ := object_eq_ok h
  exact foldMembers_reads observe key R hother hkey hfold

theorem object_gathers (observe : σ → List β) (key : String) (R : Source → β → Prop)
    {step : Nat → σ → String → Source → Except Fault σ} {init result : σ} {depth : Nat} {s : Source}
    (hother : ∀ state k s state', k ≠ key → step (depth + 1) state k s = .ok state' →
      observe state' = observe state)
    (hkey : ∀ state s state', step (depth + 1) state key s = .ok state' →
      ∃ x, R s x ∧ observe state' = observe state ++ [x])
    (h : Reader.object init step depth s = .ok result) :
    ∃ xs, List.Forall₂ R (s.under key) xs ∧ observe result = observe init ++ xs := by
  obtain ⟨members, closed, rfl, hfold⟩ := object_eq_ok h
  exact foldMembers_gathers observe key R hother hkey hfold

end Fold

/-! ## Records -/

section Record

variable {σ β : Type}

/-- Reading a field leaves what is observed as it is. -/
def RecordField.Keeps (f : RecordField σ) (observe : σ → β) : Prop :=
  ∀ record depth s record', f.read record depth s = .ok record' → observe record' = observe record

/-- What is observed of a record into which a field has been read from a source. -/
def RecordField.Gives (f : RecordField σ) (observe : σ → β) (depth : Nat) (s : Source) (x : β) :
    Prop :=
  ∃ record record', f.read record depth s = .ok record' ∧ x = observe record'

theorem RecordField.of_read_eq_ok {α : Type} {presence : Presence} {key : String}
    {read : Reader α} {put : α → σ → σ} {depth : Nat} {s : Source} {record record' : σ}
    (h : (RecordField.of presence key read put).read record depth s = .ok record') :
    ∃ x, read depth s = .ok x ∧ put x record = record' :=
  (map_eq_ok_iff _ _ _).1 h

/-- What a field shows once it is put into the record is what its source is read as. -/
theorem RecordField.read_of_gives {α : Type} {presence : Presence} {key : String}
    {read : Reader α} {put : α → σ → σ} {observe : σ → α}
    (hput : ∀ x record, observe (put x record) = x) {depth : Nat} {s : Source} {x : α}
    (h : (RecordField.of presence key read put).Gives observe depth s x) :
    read depth s = .ok x := by
  obtain ⟨record, record', hread, rfl⟩ := h
  obtain ⟨y, hy, rfl⟩ := of_read_eq_ok hread
  rw [hy, hput]

theorem RecordField.of_keeps {α : Type} {presence : Presence} {key : String} {read : Reader α}
    {put : α → σ → σ} {observe : σ → β} (h : ∀ x record, observe (put x record) = observe record) :
    (RecordField.of presence key read put).Keeps observe := by
  intro record depth s record' hread
  obtain ⟨x, -, rfl⟩ := of_read_eq_ok hread
  exact h x record

/-- Items behind a field leave what is observed as it is. -/
theorem strictItems_keeps {observe : σ → β} {depth : Nat} {closed : Bool}
    {fields : List (RecordField σ)} (hkeeps : ∀ f ∈ fields, f.Keeps observe) {record result : σ}
    {items : List Source} (h : strictItems depth closed record fields items = .ok result) :
    observe result = observe record := by
  induction fields generalizing record items with
  | nil =>
      cases items with
      | nil =>
          rw [strictItems] at h
          split at h
          · cases h
            rfl
          · cases h
      | cons s rest => cases h
  | cons f fields ih =>
      obtain ⟨hf, hfields⟩ := List.forall_mem_cons.1 hkeeps
      cases items with
      | nil =>
          rw [strictItems] at h
          split at h
          · cases h
          · split at h
            · exact ih hfields h
            · cases h
      | cons s rest =>
          rw [strictItems] at h
          obtain ⟨record', hread, h⟩ := (bind_eq_ok_iff _ _ _).1 h
          rw [ih hfields h, hf record depth s record' hread]

/-- A field that an array may not lack is read from the item in its place. -/
theorem strictItems_reads {observe : σ → β} {depth : Nat} {closed : Bool}
    {before behind : List (RecordField σ)} {f : RecordField σ}
    (hbehind : ∀ g ∈ behind, g.Keeps observe) (hpresence : f.presence ≠ .optional)
    {record result : σ} {items : List Source}
    (h : strictItems depth closed record (before ++ f :: behind) items = .ok result) :
    ∃ s, items[before.length]? = some s ∧ f.Gives observe depth s (observe result) := by
  induction before generalizing record items with
  | nil =>
      cases items with
      | nil =>
          rw [List.nil_append, strictItems] at h
          split at h
          · cases h
          · cases h
      | cons s rest =>
          rw [List.nil_append, strictItems] at h
          obtain ⟨record', hread, h⟩ := (bind_eq_ok_iff _ _ _).1 h
          exact ⟨s, rfl, record, record', hread, strictItems_keeps hbehind h⟩
  | cons g before ih =>
      cases items with
      | nil =>
          rw [List.cons_append, strictItems] at h
          split at h
          · cases h
          · split at h
            · obtain ⟨s, hs, -⟩ := ih h
              -- an array that has ended lacks the item for `f` too
              exact absurd hs (by simp)
            · cases h
      | cons s rest =>
          rw [List.cons_append, strictItems] at h
          obtain ⟨record', -, h⟩ := (bind_eq_ok_iff _ _ _).1 h
          exact ih h

variable {observe : σ → β} {before behind : List (RecordField σ)} {f : RecordField σ}

/-- A member of a strict record is no field of it, or is read as one. -/
theorem strictMember_eq_ok {pass : Nat → Source → Except Fault Unit}
    {fields : List (RecordField σ)} {depth : Nat} {state state' : List String × σ} {key : String}
    {s : Source} (h : strictMember pass fields depth state key s = .ok state') :
    (fields.find? (fun g => g.key = key) = none ∧ state' = state) ∨
      ∃ g, fields.find? (fun g => g.key = key) = some g ∧
        ∃ record, g.read state.2 depth s = .ok record ∧ state' = (key :: state.1, record) := by
  rw [strictMember] at h
  split at h
  · rename_i hfind
    obtain ⟨-, -, h⟩ := (bind_eq_ok_iff _ _ _).1 h
    exact .inl ⟨hfind, (Except.ok.inj h).symm⟩
  · rename_i g hfind
    split at h
    · cases h
    · obtain ⟨record, hread, h⟩ := (bind_eq_ok_iff _ _ _).1 h
      exact .inr ⟨g, hfind, record, hread, (Except.ok.inj h).symm⟩

/-- The only field with a key is found under it. -/
theorem find?_field (hothers : ∀ g ∈ before ++ behind, g.key ≠ f.key ∧ g.Keeps observe) :
    (before ++ f :: behind).find? (fun g => g.key = f.key) = some f := by
  have hbefore : before.find? (fun g => g.key = f.key) = none := by
    rw [List.find?_eq_none]
    intro g hg
    simpa using (hothers g (List.mem_append_left _ hg)).1
  rw [List.find?_append, hbefore]
  simp

/-- A field with another key is one of the others. -/
theorem mem_others {g : RecordField σ} (hg : g ∈ before ++ f :: behind) (hkey : g.key ≠ f.key) :
    g ∈ before ++ behind := by
  rcases List.mem_append.1 hg with hbefore | hrest
  · exact List.mem_append_left _ hbefore
  · rcases List.mem_cons.1 hrest with rfl | hbehind
    · exact absurd rfl hkey
    · exact List.mem_append_right _ hbehind

/-- What is observed of a record that is written as an object is decided by the source under the
    key of one field, if no other field changes it. -/
theorem strictObject_reads {pass : Nat → Source → Except Fault Unit}
    (hothers : ∀ g ∈ before ++ behind, g.key ≠ f.key ∧ g.Keeps observe) {init result : σ}
    {depth : Nat} {s : Source}
    (h : strictObject pass init (before ++ f :: behind) depth s = .ok result) :
    (s.member? f.key = none ∧ observe result = observe init) ∨
      ∃ s', s.member? f.key = some s' ∧ f.Gives observe (depth + 1) s' (observe result) := by
  rw [strictObject] at h
  obtain ⟨⟨keys, record⟩, hobject, h⟩ := (bind_eq_ok_iff _ _ _).1 h
  have hresult : record = result := by
    dsimp only at h
    split at h
    · exact Except.ok.inj h
    · cases h
  subst hresult
  refine object_reads (fun state => observe state.2) f.key (f.Gives observe (depth + 1)) ?_ ?_
    hobject
  · intro state key s' state' hkey hstep
    rcases strictMember_eq_ok hstep with ⟨-, rfl⟩ | ⟨g, hfind, record, hread, rfl⟩
    · rfl
    · -- the field found has another key, so it is one of the others
      have hgkey : g.key = key := by simpa using List.find?_some hfind
      have hother : g ∈ before ++ behind :=
        mem_others (List.mem_of_find?_eq_some hfind) (hgkey ▸ hkey)
      exact (hothers g hother).2 state.2 (depth + 1) s' record hread
  · intro state s' state' hstep
    have hfield := find?_field hothers
    rcases strictMember_eq_ok hstep with ⟨hfind, -⟩ | ⟨g, hfind, record, hread, rfl⟩
    · rw [hfield] at hfind
      cases hfind
    · rw [hfield] at hfind
      cases hfind
      exact ⟨state.2, record, hread, rfl⟩

/-- What is observed of a record is decided by the source of one field, if no other field changes
    it. -/
theorem record_reads
    (hothers : ∀ g ∈ before ++ behind, g.key ≠ f.key ∧ g.Keeps observe)
    (hpresence : f.presence ≠ .optional) {init result : σ} {depth : Nat} {s : Source}
    (h : Reader.record init (before ++ f :: behind) depth s = .ok result) :
    (s.field? f.key before.length = none ∧ observe result = observe init) ∨
      ∃ s', s.field? f.key before.length = some s' ∧
        f.Gives observe (depth + 1) s' (observe result) := by
  cases s with
  | array items closed =>
      rw [Reader.record, inside] at h
      split at h
      · exact .inr (strictItems_reads (fun g hg => (hothers g (List.mem_append_right _ hg)).2)
          hpresence h)
      · cases h
  | object members closed => exact strictObject_reads hothers h
  | _ => exact strictObject_reads hothers h

/-- What is observed of a loose record is decided by the source under the key of one field, if no
    other field changes it. -/
theorem looseRecord_reads
    (hothers : ∀ g ∈ before ++ behind, g.key ≠ f.key ∧ g.Keeps observe) {init result : σ}
    {depth : Nat} {s : Source}
    (h : Reader.looseRecord init (before ++ f :: behind) depth s = .ok result) :
    (s.member? f.key = none ∧ observe result = observe init) ∨
      ∃ s', s.member? f.key = some s' ∧ f.Gives observe (depth + 1) s' (observe result) := by
  -- an array is refused, so what was read is an object
  have hobject : Reader.object init (looseMember (before ++ f :: behind)) depth s = .ok result := by
    cases s with
    | array items closed =>
        rw [Reader.looseRecord, inside] at h
        split at h <;> cases h
    | _ => exact h
  refine object_reads observe f.key (f.Gives observe (depth + 1)) ?_ ?_ hobject
  · intro record key s' record' hkey hstep
    rw [looseMember] at hstep
    split at hstep
    · obtain ⟨-, -, hstep⟩ := (bind_eq_ok_iff _ _ _).1 hstep
      cases hstep
      rfl
    · rename_i g hfind
      have hgkey : g.key = key := by simpa using List.find?_some hfind
      have hother : g ∈ before ++ behind :=
        mem_others (List.mem_of_find?_eq_some hfind) (hgkey ▸ hkey)
      exact (hothers g hother).2 record (depth + 1) s' record' hstep
  · intro record s' record' hstep
    rw [looseMember, find?_field hothers] at hstep
    exact ⟨record, record', hstep, rfl⟩

end Record

end AdmissionRules.Json
