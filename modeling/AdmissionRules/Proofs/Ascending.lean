import AdmissionRules.Proofs.Text.ByteOrder
import Mathlib.Data.List.Sort

set_option autoImplicit false

/-! # Association lists in ascending order: lookups and keys

Every operation on an association list is described by two views of it: what `get?` finds under
a key, and the list of its keys. The lookup lemmas need no list to be ascending, only that two
keys neither of which stands before the other are the same; that keys stay in ascending order is
`insertBy_keys_pairwise`. -/

namespace AdmissionRules.Ascending

variable {κ α : Type}

/-- The keys of an association list. -/
def keys (entries : List (κ × α)) : List κ := entries.map (·.1)

theorem mem_keys_cons (k k' : κ) (v : α) (rest : List (κ × α)) :
    k ∈ keys ((k', v) :: rest) ↔ k = k' ∨ k ∈ keys rest := by
  simp [keys]

/-! ## Orders of keys -/

section Order

variable (before : κ → κ → Bool) [IsStrictTotalOrder κ (before · ·)]

theorem before_irrefl (a : κ) : before a a = false := by
  have h := irrefl_of (before · · : κ → κ → Prop) a
  simpa using h

/-- Of two keys neither of which stands before the other there is only one. -/
theorem eq_of_not_before {a b : κ} (hab : before a b = false) (hba : before b a = false) :
    a = b := by
  rcases trichotomous_of (before · · : κ → κ → Prop) a b with h | h | h
  · rw [hab] at h
    exact absurd h (by simp)
  · exact h
  · rw [hba] at h
    exact absurd h (by simp)

theorem ne_of_before {a b : κ} (h : before a b = true) : a ≠ b := by
  rintro rfl
  rw [before_irrefl before a] at h
  exact absurd h (by simp)

theorem before_trans {a b c : κ} (hab : before a b = true) (hbc : before b c = true) :
    before a c = true :=
  trans_of (before · · : κ → κ → Prop) hab hbc

/-! ## Inserting -/

theorem mem_keys_insertBy (key : κ) (value : α) (entries : List (κ × α)) (k : κ) :
    k ∈ keys (insertBy before key value entries) ↔ k = key ∨ k ∈ keys entries := by
  induction entries with
  | nil => simp [insertBy, keys]
  | cons e rest ih =>
      obtain ⟨k', v⟩ := e
      rw [insertBy]
      split
      · rw [mem_keys_cons]
      · rename_i hfirst
        split
        · rw [mem_keys_cons, mem_keys_cons, ih]
          tauto
        · rename_i hsecond
          -- neither stands before the other, so the entry under `key` is replaced
          have hkey : key = k' :=
            eq_of_not_before before (by simpa using hfirst) (by simpa using hsecond)
          rw [mem_keys_cons, mem_keys_cons, hkey]
          tauto

omit [IsStrictTotalOrder κ (before · ·)] in
/-- Inserting adds no other entry. -/
theorem mem_of_mem_insertBy {key : κ} {value : α} {entries : List (κ × α)} {e : κ × α}
    (h : e ∈ insertBy before key value entries) : e = (key, value) ∨ e ∈ entries := by
  induction entries with
  | nil => exact .inl (List.mem_singleton.1 h)
  | cons e' rest ih =>
      obtain ⟨k', v⟩ := e'
      rw [insertBy] at h
      split at h
      · exact List.mem_cons.1 h
      · split at h
        · rcases List.mem_cons.1 h with rfl | h
          · exact .inr List.mem_cons_self
          · exact (ih h).imp_right (List.mem_cons_of_mem _)
        · exact (List.mem_cons.1 h).imp_right (List.mem_cons_of_mem _)

/-- Inserting keeps the keys in ascending order. -/
theorem insertBy_keys_pairwise (key : κ) (value : α) (entries : List (κ × α))
    (h : (keys entries).Pairwise (before · ·)) :
    (keys (insertBy before key value entries)).Pairwise (before · ·) := by
  induction entries with
  | nil => simp [insertBy, keys]
  | cons e rest ih =>
      obtain ⟨k', v⟩ := e
      simp only [keys, List.map_cons, List.pairwise_cons] at h
      obtain ⟨hhead, hrest⟩ := h
      rw [insertBy]
      split
      · rename_i hfirst
        simp only [keys, List.map_cons, List.pairwise_cons, List.mem_cons]
        refine ⟨?_, hhead, hrest⟩
        rintro k (rfl | hk)
        · exact hfirst
        · exact before_trans before hfirst (hhead k hk)
      · rename_i hfirst
        split
        · rename_i hsecond
          simp only [keys, List.map_cons, List.pairwise_cons]
          refine ⟨?_, ih hrest⟩
          intro k hk
          -- what stands behind the head is what stood there, and the new key, which it precedes
          rcases (mem_keys_insertBy before key value rest k).1 hk with rfl | hk
          · exact hsecond
          · exact hhead k hk
        · rename_i hsecond
          have hkey : key = k' :=
            eq_of_not_before before (by simpa using hfirst) (by simpa using hsecond)
          simp only [keys, List.map_cons, List.pairwise_cons, hkey]
          exact ⟨hhead, hrest⟩

variable [DecidableEq κ]

theorem get?_insertBy (key : κ) (value : α) (entries : List (κ × α)) (k : κ) :
    get? k (insertBy before key value entries)
      = if k = key then some value else get? k entries := by
  induction entries with
  | nil => simp [insertBy, get?, eq_comm]
  | cons e rest ih =>
      obtain ⟨k', v⟩ := e
      rw [insertBy]
      split
      · simp only [get?, eq_comm]
      · rename_i hfirst
        split
        · rename_i hsecond
          have hne : k' ≠ key := ne_of_before before hsecond
          simp only [get?, ih]
          by_cases hk : k' = k
          · subst hk
            simp [hne]
          · simp [hk]
        · rename_i hsecond
          have hkey : key = k' :=
            eq_of_not_before before (by simpa using hfirst) (by simpa using hsecond)
          simp only [get?, ← hkey]
          by_cases hk : key = k
          · simp [hk]
          · simp [hk, Ne.symm hk]

theorem get?_alterBy (key : κ) (f : Option α → α) (entries : List (κ × α)) (k : κ) :
    get? k (alterBy before key f entries)
      = if k = key then some (f (get? key entries)) else get? k entries :=
  get?_insertBy before key _ entries k

theorem get?_eq_none_of_forall_before {key : κ} {entries : List (κ × α)}
    (h : ∀ k ∈ keys entries, before key k = true) : get? key entries = none := by
  induction entries with
  | nil => rfl
  | cons e rest ih =>
      obtain ⟨k, v⟩ := e
      have hne : key ≠ k := ne_of_before before (h k List.mem_cons_self)
      rw [get?, if_neg hne.symm]
      exact ih fun k' hk' => h k' (List.mem_cons_of_mem _ hk')

/-! ## Counts -/

/-- The sum of the counts under the keys that `p` selects. -/
def total (p : κ → Bool) (counts : List (κ × Nat)) : Nat :=
  (counts.filter fun e => p e.1).foldr (fun e n => e.2 + n) 0

omit [DecidableEq κ] in
theorem total_cons (p : κ → Bool) (k : κ) (n : Nat) (rest : List (κ × Nat)) :
    total p ((k, n) :: rest) = (if p k then n else 0) + total p rest := by
  unfold total
  by_cases hk : p k <;> simp [hk]

/-- Inserting a count puts it in the place of the one that its key had. -/
theorem total_insertBy (p : κ → Bool) (key : κ) (n : Nat) {counts : List (κ × Nat)}
    (h : (keys counts).Pairwise (before · ·)) :
    total p (insertBy before key n counts) + (if p key then (get? key counts).getD 0 else 0)
      = total p counts + (if p key then n else 0) := by
  induction counts with
  | nil => simp [insertBy, get?, total_cons, Nat.add_comm]
  | cons e rest ih =>
      obtain ⟨k, v⟩ := e
      obtain ⟨hhead, hrest⟩ := List.pairwise_cons.1 h
      rw [insertBy]
      split
      · rename_i hfirst
        -- the key is smaller than all others, so it had no count
        have hnone : get? key ((k, v) :: rest) = none := by
          refine get?_eq_none_of_forall_before before ?_
          intro k' hk'
          rcases (mem_keys_cons k' k v rest).1 hk' with rfl | hk'
          · exact hfirst
          · exact before_trans before hfirst (hhead k' hk')
        rw [hnone, total_cons p key]
        simp [Nat.add_comm]
      · rename_i hfirst
        split
        · rename_i hsecond
          have hne : k ≠ key := ne_of_before before hsecond
          rw [total_cons, total_cons, get?, if_neg hne, Nat.add_assoc, ih hrest, Nat.add_assoc]
        · rename_i hsecond
          have hkey : key = k :=
            eq_of_not_before before (by simpa using hfirst) (by simpa using hsecond)
          subst hkey
          rw [total_cons, total_cons, get?, if_pos rfl, Option.getD_some]
          omega

/-- Counting one more under a key. -/
theorem total_alterBy_succ (p : κ → Bool) (key : κ) {counts : List (κ × Nat)}
    (h : (keys counts).Pairwise (before · ·)) :
    total p (alterBy before key (fun n => n.getD 0 + 1) counts)
      = total p counts + (if p key then 1 else 0) := by
  have hinsert := total_insertBy before p key ((get? key counts).getD 0 + 1) h
  unfold alterBy
  cases hp : p key with
  | true =>
      simp only [hp, if_true] at hinsert ⊢
      omega
  | false =>
      simp only [hp, Bool.false_eq_true, if_false] at hinsert ⊢
      omega

end Order

theorem mem_of_get? [DecidableEq κ] {entries : List (κ × α)} {k : κ} {value : α}
    (h : get? k entries = some value) : (k, value) ∈ entries := by
  induction entries with
  | nil => exact absurd h (by simp [get?])
  | cons e rest ih =>
      obtain ⟨k', v⟩ := e
      rw [get?] at h
      split at h
      · rename_i hk
        cases h
        rw [hk]
        exact List.mem_cons_self
      · exact List.mem_cons_of_mem _ (ih h)

/-- If no key stands twice, every entry is found. -/
theorem get?_of_nodup [DecidableEq κ] {entries : List (κ × α)} (h : (keys entries).Nodup) {key : κ}
    {value : α} (hmem : (key, value) ∈ entries) : get? key entries = some value := by
  induction entries with
  | nil => exact absurd hmem List.not_mem_nil
  | cons e rest ih =>
      obtain ⟨k, v⟩ := e
      obtain ⟨hhead, hrest⟩ := List.pairwise_cons.1 h
      rw [get?]
      rcases List.mem_cons.1 hmem with heq | hrestMem
      · cases heq
        rw [if_pos rfl]
      · rw [if_neg (hhead key (List.mem_map_of_mem hrestMem))]
        exact ih hrest hrestMem

/-! ## Texts as keys -/

instance textBefore_strictTotal : IsStrictTotalOrder String (textBefore · ·) where
  trichotomous a b hab hba := by
    rw [Text.textBefore_iff] at hab hba
    exact le_antisymm (not_lt.1 hba) (not_lt.1 hab)
  irrefl a h := lt_irrefl a ((Text.textBefore_iff a a).1 h)
  trans a b c hab hbc := by
    rw [Text.textBefore_iff] at hab hbc ⊢
    exact lt_trans hab hbc

theorem get?_alter (key : String) (f : Option α → α) (entries : List (String × α)) (k : String) :
    get? k (alter key f entries)
      = if k = key then some (f (get? key entries)) else get? k entries :=
  get?_alterBy textBefore key f entries k

theorem mem_keys_alter (key : String) (f : Option α → α) (entries : List (String × α))
    (k : String) : k ∈ keys (alter key f entries) ↔ k = key ∨ k ∈ keys entries :=
  mem_keys_insertBy textBefore key _ entries k

/-- The keys are in strictly ascending order. -/
def Ordered (entries : List (String × α)) : Prop := (keys entries).Pairwise (· < ·)

theorem ordered_nil : Ordered ([] : List (String × α)) := List.Pairwise.nil

theorem Ordered.insert {entries : List (String × α)} (h : Ordered entries) (key : String)
    (value : α) : Ordered (insert key value entries) := by
  have hbefore : (keys entries).Pairwise (textBefore · ·) :=
    h.imp fun hab => (Text.textBefore_iff _ _).2 hab
  exact (insertBy_keys_pairwise textBefore key value entries hbefore).imp
    fun hab => (Text.textBefore_iff _ _).1 hab

theorem Ordered.alter {entries : List (String × α)} (h : Ordered entries) (key : String)
    (f : Option α → α) : Ordered (alter key f entries) :=
  h.insert key _

theorem Ordered.get?_of_mem {entries : List (String × α)} (h : Ordered entries) {key : String}
    {value : α} (hmem : (key, value) ∈ entries) : get? key entries = some value :=
  get?_of_nodup (h.imp fun hab => hab.ne) hmem

/-! ## Lists of entries -/

theorem lookup_eq_none_iff [BEq κ] [LawfulBEq κ] (entries : List (κ × α)) (key : κ) :
    entries.lookup key = none ↔ key ∉ entries.map (·.1) := by
  rw [List.lookup_eq_none_iff, List.mem_map]
  constructor
  · rintro h ⟨entry, hentry, rfl⟩
    exact absurd (h entry hentry) (by simp)
  · intro h entry hentry
    exact bne_iff_ne.2 fun heq => h ⟨entry, hentry, heq.symm⟩

/-- Of the entries with one key the last one is found, searching from the end. -/
theorem lookup_reverse_cons [BEq κ] [LawfulBEq κ] [DecidableEq κ] (key k : κ) (value : α)
    (entries : List (κ × α)) :
    ((k, value) :: entries).reverse.lookup key =
      (entries.reverse.lookup key).or (if key = k then some value else none) := by
  rw [List.reverse_cons, List.lookup_append]
  by_cases h : key = k
  · simp [h]
  · simp [h, List.lookup_cons, beq_false_of_ne h]

/-- Of the entries that the members of a list make the one is found that is made last under the
    key. -/
theorem lookup_reverse_filterMap_eq_some_iff [BEq κ] [LawfulBEq κ] {β : Type}
    (make? : β → Option (κ × α)) (xs : List β) (key : κ) (value : α) :
    (xs.filterMap make?).reverse.lookup key = some value ↔
      ∃ before x after, xs = before ++ x :: after ∧ make? x = some (key, value) ∧
        ∀ y ∈ after, ∀ v, make? y ≠ some (key, v) := by
  rw [List.lookup_eq_some_iff]
  constructor
  · rintro ⟨later, earlier, hmade, hlater⟩
    have hsplit : xs.filterMap make? = earlier.reverse ++ (key, value) :: later.reverse := by
      rw [← List.reverse_inj, hmade]
      simp
    obtain ⟨front, back, rfl, -, hback⟩ := List.filterMap_eq_append_iff.1 hsplit
    obtain ⟨silent, x, after, rfl, -, hx, hafter⟩ := List.filterMap_eq_cons_iff.1 hback
    refine ⟨front ++ silent, x, after, (List.append_assoc _ _ _).symm, hx, ?_⟩
    intro y hy v hv
    have hmem : (key, v) ∈ later := by
      rw [← List.mem_reverse, ← hafter]
      exact List.mem_filterMap.2 ⟨y, hy, hv⟩
    simpa using hlater (key, v) hmem
  · rintro ⟨before, x, after, rfl, hx, hafter⟩
    refine ⟨(after.filterMap make?).reverse, (before.filterMap make?).reverse, ?_, ?_⟩
    · simp [List.filterMap_cons_some hx]
    · rintro ⟨k, v⟩ hmem
      obtain ⟨y, hy, hv⟩ := List.mem_filterMap.1 (List.mem_reverse.1 hmem)
      exact bne_iff_ne.2 fun heq : key = k => hafter y hy v (heq ▸ hv)

theorem get?_foldl_insertBy (before : κ → κ → Bool) [IsStrictTotalOrder κ (before · ·)] [BEq κ]
    [LawfulBEq κ] [DecidableEq κ] (entries acc : List (κ × α)) (k : κ) :
    get? k (entries.foldl (fun acc e => insertBy before e.1 e.2 acc) acc)
      = (entries.reverse.lookup k).or (get? k acc) := by
  induction entries generalizing acc with
  | nil => rfl
  | cons e rest ih =>
      obtain ⟨k', v⟩ := e
      rw [List.foldl_cons, ih, lookup_reverse_cons, get?_insertBy before, Option.or_assoc]
      split <;> rfl

theorem mem_keys_foldl_insertBy (before : κ → κ → Bool) [IsStrictTotalOrder κ (before · ·)]
    (entries acc : List (κ × α)) (k : κ) :
    k ∈ keys (entries.foldl (fun acc e => insertBy before e.1 e.2 acc) acc)
      ↔ k ∈ keys entries ∨ k ∈ keys acc := by
  induction entries generalizing acc with
  | nil => simp [keys]
  | cons e rest ih =>
      obtain ⟨k', v⟩ := e
      rw [List.foldl_cons, ih, mem_keys_cons, mem_keys_insertBy before]
      tauto

theorem foldl_insertBy_keys_pairwise (before : κ → κ → Bool) [IsStrictTotalOrder κ (before · ·)]
    (entries : List (κ × α)) {acc : List (κ × α)} (h : (keys acc).Pairwise (before · ·)) :
    (keys (entries.foldl (fun acc e => insertBy before e.1 e.2 acc) acc)).Pairwise
      (before · ·) := by
  induction entries generalizing acc with
  | nil => exact h
  | cons e rest ih => exact ih (insertBy_keys_pairwise before e.1 e.2 acc h)

/-- A list with ascending keys is known by its entries. -/
theorem eq_of_mem_iff (before : κ → κ → Bool) [IsStrictTotalOrder κ (before · ·)]
    {xs ys : List (κ × α)} (hxs : (keys xs).Pairwise (before · ·))
    (hys : (keys ys).Pairwise (before · ·)) (h : ∀ e, e ∈ xs ↔ e ∈ ys) : xs = ys := by
  have hirrefl : Std.Irrefl fun a b : κ × α => before a.1 b.1 = true :=
    ⟨fun a => by simp [before_irrefl before]⟩
  have hantisymm : Std.Antisymm fun a b : κ × α => before a.1 b.1 = true :=
    ⟨fun a b hab hba => absurd rfl (ne_of_before before (before_trans before hab hba))⟩
  exact (List.pairwise_map.1 hxs).eq_of_mem_iff (List.pairwise_map.1 hys) h

theorem get?_foldl_insert (entries acc : List (String × α)) (k : String) :
    get? k (entries.foldl (fun acc e => insert e.1 e.2 acc) acc)
      = (entries.reverse.lookup k).or (get? k acc) :=
  get?_foldl_insertBy textBefore entries acc k

/-- Of the entries with one key the last one is found. -/
theorem get?_ofList (entries : List (String × α)) (k : String) :
    get? k (ofList entries) = entries.reverse.lookup k := by
  rw [ofList, get?_foldl_insert]
  exact Option.or_none

/-- A key that is greater than all others goes to the end. -/
theorem insert_of_forall_lt {entries : List (String × α)} {key : String}
    (h : ∀ k ∈ keys entries, k < key) (value : α) :
    insert key value entries = entries ++ [(key, value)] := by
  induction entries with
  | nil => rfl
  | cons e rest ih =>
      obtain ⟨k, v⟩ := e
      have hlt : k < key := h k List.mem_cons_self
      have hfirst : textBefore key k = false := by
        simpa only [Bool.eq_false_iff, ne_eq, Text.textBefore_iff] using lt_asymm hlt
      have hsecond : textBefore k key = true := (Text.textBefore_iff k key).2 hlt
      rw [insert, insertBy, if_neg (by simp [hfirst]), if_pos hsecond]
      have hrest := ih fun k' hk' => h k' (List.mem_cons_of_mem _ hk')
      rw [insert] at hrest
      rw [hrest, List.cons_append]

theorem foldl_insert_of_ordered (entries acc : List (String × α))
    (h : Ordered (acc ++ entries)) :
    entries.foldl (fun acc e => insert e.1 e.2 acc) acc = acc ++ entries := by
  induction entries generalizing acc with
  | nil => rw [List.append_nil, List.foldl_nil]
  | cons e rest ih =>
      obtain ⟨k, v⟩ := e
      have hlast : ∀ k' ∈ keys acc, k' < k := by
        intro k' hk'
        unfold Ordered keys at h
        rw [List.map_append, List.pairwise_append] at h
        exact h.2.2 k' hk' k List.mem_cons_self
      rw [List.append_cons] at h ⊢
      rw [List.foldl_cons, insert_of_forall_lt hlast]
      exact ih _ h

/-- A list in ascending order is made of its own entries. -/
theorem ofList_of_ordered {entries : List (String × α)} (h : Ordered entries) :
    ofList entries = entries :=
  foldl_insert_of_ordered entries [] h

/-! ## Sets of texts -/

theorem mem_keys_foldl_insert (entries acc : List (String × α)) (k : String) :
    k ∈ keys (entries.foldl (fun acc e => insert e.1 e.2 acc) acc)
      ↔ k ∈ keys entries ∨ k ∈ keys acc :=
  mem_keys_foldl_insertBy textBefore entries acc k

theorem mem_set (items : List String) (s : String) : s ∈ set items ↔ s ∈ items := by
  have h := mem_keys_foldl_insert (items.map fun s => (s, ())) [] s
  simpa [set, ofList, keys] using h

theorem ordered_foldl_insert (entries : List (String × α)) {acc : List (String × α)}
    (h : Ordered acc) : Ordered (entries.foldl (fun acc e => insert e.1 e.2 acc) acc) := by
  induction entries generalizing acc with
  | nil => exact h
  | cons e rest ih => exact ih (h.insert e.1 e.2)

theorem ordered_ofList (entries : List (String × α)) : Ordered (ofList entries) :=
  ordered_foldl_insert entries ordered_nil

/-- No key stands twice in a list made of entries, so it does not matter from which end it is
    searched. -/
theorem lookup_reverse_ofList (entries : List (String × α)) (k : String) :
    (ofList entries).reverse.lookup k = entries.reverse.lookup k := by
  rw [← get?_ofList, ofList_of_ordered (ordered_ofList entries), get?_ofList]

theorem set_pairwise (items : List String) : (set items).Pairwise (· < ·) :=
  ordered_ofList _

end AdmissionRules.Ascending
