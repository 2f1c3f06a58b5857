import AdmissionRules.Policy.Store
import Mathlib.Data.List.Nodup

set_option autoImplicit false

/-! # Publishing in any order

A load takes its generation before it publishes, so loads that overlap hand their snapshots to the
store in any order. A snapshot is put in force only if it is newer than the one in force, so what is
in force is the newest of those handed over so far (`Store.publishAll_isNewest`). If all generations
differ there is only one newest, and the order in which the snapshots were published does not show
in the end (`Store.publishAll_anyOrder`). That they differ is what overlapping loads preserve
(`Loading.Apart.run`). -/

namespace AdmissionRules

/-! ## The newest snapshot -/

/-- One of the snapshots, and none of them is newer. -/
structure Snapshot.IsNewest (s : Snapshot) (among : List Snapshot) : Prop where
  mem : s ∈ among
  newest : ∀ t ∈ among, t.generation ≤ s.generation

/-- If all generations differ, only one snapshot is the newest, in whatever order they are listed. -/
theorem Snapshot.IsNewest.unique {s t : Snapshot} {among order : List Snapshot}
    (hs : s.IsNewest among) (ht : t.IsNewest order) (hperm : order.Perm among)
    (hdistinct : (among.map generation).Nodup) : s = t := by
  have hmem : t ∈ among := hperm.subset ht.mem
  refine List.inj_on_of_nodup_map hdistinct hs.mem hmem (Nat.le_antisymm ?_ ?_)
  · exact ht.newest s (hperm.symm.subset hs.mem)
  · exact hs.newest t hmem

namespace Store

/-! ## One publication -/

variable (store : Store)

/-- A snapshot is put in force if it is newer, and otherwise nothing changes. -/
theorem publish_cases (s : Snapshot) :
    (store.generation < s.generation ∧ store.publish s = { store with current := s }) ∨
      (s.generation ≤ store.generation ∧ store.publish s = store) := by
  by_cases h : store.current.generation < s.generation
  · exact .inl ⟨h, if_pos h⟩
  · exact .inr ⟨Nat.le_of_not_lt h, if_neg h⟩

theorem nextGeneration_publish (s : Snapshot) :
    (store.publish s).nextGeneration = store.nextGeneration := by
  rcases store.publish_cases s with ⟨-, hpublish⟩ | ⟨-, hpublish⟩ <;> rw [hpublish]

theorem generation_le_publish (s : Snapshot) :
    store.generation ≤ (store.publish s).generation := by
  rcases store.publish_cases s with ⟨hnewer, hpublish⟩ | ⟨-, hpublish⟩
  · rw [hpublish]
    exact Nat.le_of_lt hnewer
  · exact Nat.le_of_eq (congrArg generation hpublish).symm

/-- **One publication** keeps the newest in force. -/
theorem publish_isNewest {among : List Snapshot} (h : store.current.IsNewest among)
    (s : Snapshot) : (store.publish s).current.IsNewest (among ++ [s]) := by
  rcases store.publish_cases s with ⟨hnewer, hpublish⟩ | ⟨holder, hpublish⟩
  · rw [hpublish]
    refine ⟨List.mem_append_right _ (List.mem_singleton_self s), fun t ht => ?_⟩
    rcases List.mem_append.1 ht with ht | ht
    · exact Nat.le_trans (h.newest t ht) (Nat.le_of_lt hnewer)
    · exact Nat.le_of_eq (congrArg Snapshot.generation (List.mem_singleton.1 ht))
  · rw [hpublish]
    refine ⟨List.mem_append_left _ h.mem, fun t ht => ?_⟩
    rcases List.mem_append.1 ht with ht | ht
    · exact h.newest t ht
    · rw [List.mem_singleton.1 ht]
      exact holder

/-! ## Many publications -/

/-- Hands snapshots to the store, one after the other. -/
def publishAll (order : List Snapshot) : Store := order.foldl publish store

theorem publishAll_append (earlier later : List Snapshot) :
    store.publishAll (earlier ++ later) = (store.publishAll earlier).publishAll later :=
  List.foldl_append

theorem nextGeneration_publishAll (order : List Snapshot) :
    (store.publishAll order).nextGeneration = store.nextGeneration := by
  induction order generalizing store with
  | nil => rfl
  | cons s rest ih => exact (ih (store.publish s)).trans (store.nextGeneration_publish s)

theorem generation_le_publishAll (order : List Snapshot) :
    store.generation ≤ (store.publishAll order).generation := by
  induction order generalizing store with
  | nil => exact Nat.le_refl _
  | cons s rest ih => exact Nat.le_trans (store.generation_le_publish s) (ih (store.publish s))

/-- **Any publications** keep the newest in force. -/
theorem publishAll_isNewest_append {among : List Snapshot} (h : store.current.IsNewest among)
    (order : List Snapshot) : (store.publishAll order).current.IsNewest (among ++ order) := by
  induction order generalizing store among with
  | nil =>
      rw [List.append_nil]
      exact h
  | cons s rest ih =>
      rw [List.append_cons]
      exact ih (store.publish s) (store.publish_isNewest h s)

/-- What is in force is the newest of what was in force and what was published since. -/
theorem publishAll_isNewest (order : List Snapshot) :
    (store.publishAll order).current.IsNewest (store.current :: order) := by
  have hfirst : store.current.IsNewest [store.current] :=
    ⟨List.mem_singleton_self _, fun t ht => Nat.le_of_eq (by rw [List.mem_singleton.1 ht])⟩
  exact store.publishAll_isNewest_append hfirst order

variable {store} {pending : List Snapshot}

/-- If all generations differ, any order of publishing puts the newest in force. -/
theorem publishAll_eq_of_isNewest
    (hdistinct : ((store.current :: pending).map Snapshot.generation).Nodup) {newest : Snapshot}
    (hnewest : newest.IsNewest (store.current :: pending)) {order : List Snapshot}
    (hperm : order.Perm pending) :
    store.publishAll order = { store with current := newest } := by
  have hcurrent : newest = (store.publishAll order).current :=
    hnewest.unique (store.publishAll_isNewest order) (hperm.cons _) hdistinct
  rw [hcurrent, ← store.nextGeneration_publishAll order]

/-- What readers see after the first `n` of some publications. -/
def seenAfter (store : Store) (order : List Snapshot) (n : Nat) : Snapshot :=
  (store.publishAll (order.take n)).current

theorem seenAfter_generation_mono (store : Store) (order : List Snapshot) {m n : Nat}
    (h : m ≤ n) :
    (store.seenAfter order m).generation ≤ (store.seenAfter order n).generation := by
  -- the later time is the earlier one with more publications behind it
  have hsplit := List.take_append_drop m (order.take n)
  rw [List.take_take, Nat.min_eq_left h] at hsplit
  rw [seenAfter, seenAfter, ← hsplit, publishAll_append]
  exact generation_le_publishAll _ _

/-- **Publishing does not depend on the order.** Let snapshots wait whose generations differ from
    each other and from that in force. Among them and the one in force there is one newer than all
    others, and in whatever order they are published: the generation that readers see never
    decreases from one time to a later one, what they see is at any time the snapshot that was in
    force at first or one of those published before, as it was handed over, and in the end it is
    that newest one. -/
theorem publishAll_anyOrder (store : Store) (pending : List Snapshot)
    (hdistinct : ((store.current :: pending).map Snapshot.generation).Nodup) :
    ∃ newest ∈ store.current :: pending,
      (∀ s ∈ store.current :: pending, s ≠ newest → s.generation < newest.generation) ∧
      ∀ order : List Snapshot, order.Perm pending →
        (∀ m n, m ≤ n →
          (store.seenAfter order m).generation ≤ (store.seenAfter order n).generation) ∧
        (∀ n, store.seenAfter order n ∈ store.current :: order.take n) ∧
        store.publishAll order = { store with current := newest } := by
  have hnewest := store.publishAll_isNewest pending
  refine ⟨_, hnewest.mem, fun s hs hne => ?_, fun order hperm => ⟨?_, fun n => ?_, ?_⟩⟩
  · refine Nat.lt_of_le_of_ne (hnewest.newest s hs) fun hsame => hne ?_
    exact List.inj_on_of_nodup_map hdistinct hs hnewest.mem hsame
  · exact fun m n => store.seenAfter_generation_mono order
  · exact (store.publishAll_isNewest (order.take n)).mem
  · exact publishAll_eq_of_isNewest hdistinct hnewest hperm

/-- The snapshot of a load that names one exempt group. -/
def groupSnapshot (group : String) (generation : Nat) : Snapshot :=
  .build { entries := [], adminGroups := [group] } generation

/-- The second of four loads has published first. -/
def overtaken : Store := { current := groupSnapshot "sre" 2, nextGeneration := 5 }

/-- The loads that the second one has overtaken, or that began after it. -/
def waiting : List Snapshot := [groupSnapshot "dev" 1, groupSnapshot "ops" 4, groupSnapshot "qa" 3]

/-- However the other three finish, the fourth is in force in the end. -/
theorem publishAll_anyOrder_overtaken :
    ((overtaken.current :: waiting).map Snapshot.generation).Nodup ∧
    ∀ order : List Snapshot, order.Perm waiting →
      (overtaken.publishAll order).current = groupSnapshot "ops" 4 := by
  have hdistinct : ((overtaken.current :: waiting).map Snapshot.generation).Nodup := by decide
  obtain ⟨newest, -, -, horder⟩ := publishAll_anyOrder overtaken waiting hdistinct
  have hnewest : newest = groupSnapshot "ops" 4 := by
    have hwaiting := congrArg current (horder waiting (List.Perm.refl _)).2.2
    rw [← show (overtaken.publishAll waiting).current = groupSnapshot "ops" 4 by decide]
    exact hwaiting.symm
  refine ⟨hdistinct, fun order hperm => ?_⟩
  rw [(horder order hperm).2.2, hnewest]

/-! ## Loading as taking a generation and publishing -/

/-- Takes the next generation. -/
def reserve (store : Store) : Store := { store with nextGeneration := store.nextGeneration + 1 }

/-- The store once a document is loaded. -/
def accept (store : Store) (d : PolicyDocument) : Store :=
  store.reserve.publish (.build d store.nextGeneration)

theorem load_of_parse_ok (store : Store) {text : String} {d : PolicyDocument}
    (h : PolicyDocument.parse text = .ok d) :
    store.load text = (.ok store.nextGeneration, store.accept d) := by
  simp only [load, h, accept, reserve]

theorem load_of_parse_error (store : Store) {text : String} {e : DocumentError}
    (h : PolicyDocument.parse text = .error e) : store.load text = (.error e, store) := by
  simp only [load, h]

/-- With a generation that is greater than that in force, the document is put in force. -/
theorem accept_of_ahead {store : Store} (h : store.generation < store.nextGeneration)
    (d : PolicyDocument) :
    store.accept d =
      { current := .build d store.nextGeneration, nextGeneration := store.nextGeneration + 1 } :=
  if_pos h

end Store

/-! ## Overlapping loads -/

/-- A store, and the snapshots of loads that have taken their generation and not published yet. -/
structure Loading where
  store : Store
  pending : List Snapshot

/-- What a load of an accepted document does: it takes a generation, and then publishes. -/
inductive LoadStep where
  | reserve (d : PolicyDocument)
  | publish (s : Snapshot)

namespace Loading

/-- A store that no load is at work on. -/
def start (store : Store) : Loading := { store, pending := [] }

/-- One step of one of the loads; only a snapshot that waits can be published. -/
def step (l : Loading) : LoadStep → Loading
  | .reserve d =>
    { store := l.store.reserve, pending := .build d l.store.nextGeneration :: l.pending }
  | .publish s =>
    if s ∈ l.pending then { store := l.store.publish s, pending := l.pending.erase s } else l

def run (l : Loading) (steps : List LoadStep) : Loading := steps.foldl step l

/-- A load with no other at work publishes at once. -/
theorem run_load (store : Store) {text : String} {d : PolicyDocument}
    (h : PolicyDocument.parse text = .ok d) :
    (start store).run [.reserve d, .publish (.build d store.nextGeneration)] =
      start (store.load text).2 := by
  rw [store.load_of_parse_ok h]
  simp [run, step, start, Store.accept]

/-- All generations differ, that in force and those that wait, and the next one is greater. -/
structure Apart (l : Loading) : Prop where
  distinct : ((l.store.current :: l.pending).map Snapshot.generation).Nodup
  ahead : ∀ s ∈ l.store.current :: l.pending, s.generation < l.store.nextGeneration

theorem apart_new : (start .new).Apart where
  distinct := by decide
  ahead := by decide

theorem Apart.generation_lt {l : Loading} (h : l.Apart) :
    l.store.generation < l.store.nextGeneration :=
  h.ahead _ List.mem_cons_self

variable {l : Loading}

theorem Apart.reserve (h : l.Apart) (d : PolicyDocument) : (l.step (.reserve d)).Apart := by
  have hswap : (l.store.current :: Snapshot.build d l.store.nextGeneration :: l.pending).Perm
      (.build d l.store.nextGeneration :: l.store.current :: l.pending) := .swap _ _ _
  refine ⟨?_, fun s hs => ?_⟩
  · refine (hswap.map Snapshot.generation).nodup_iff.2 (List.nodup_cons.2 ⟨?_, h.distinct⟩)
    -- the new generation is greater than all others, so it is none of them
    rintro hmem
    obtain ⟨s, hs, hsame⟩ := List.mem_map.1 hmem
    exact absurd hsame (Nat.ne_of_lt (h.ahead s hs))
  · rcases List.mem_cons.1 (hswap.subset hs) with rfl | hs
    · exact Nat.lt_succ_self _
    · exact Nat.lt_succ_of_lt (h.ahead s hs)

/-- Publishing leaves in force or waiting what was so before, but one snapshot less. -/
theorem exists_perm_of_publish {s : Snapshot} (hs : s ∈ l.pending) :
    ∃ dropped, (l.store.current :: l.pending).Perm
      (dropped :: (l.store.publish s).current :: l.pending.erase s) := by
  have hperm := (List.perm_cons_erase hs).cons l.store.current
  rcases l.store.publish_cases s with ⟨-, hpublish⟩ | ⟨-, hpublish⟩
  · rw [hpublish]
    exact ⟨l.store.current, hperm⟩
  · rw [hpublish]
    exact ⟨s, hperm.trans (.swap _ _ _)⟩

theorem Apart.publish (h : l.Apart) (s : Snapshot) : (l.step (.publish s)).Apart := by
  show (if s ∈ l.pending then
    ({ store := l.store.publish s, pending := l.pending.erase s } : Loading) else l).Apart
  split
  · rename_i hs
    obtain ⟨dropped, hperm⟩ := exists_perm_of_publish hs
    refine ⟨?_, fun t ht => ?_⟩
    · exact (List.nodup_cons.1 ((hperm.map Snapshot.generation).nodup_iff.1 h.distinct)).2
    · show t.generation < (l.store.publish s).nextGeneration
      rw [l.store.nextGeneration_publish s]
      exact h.ahead t (hperm.symm.subset (List.mem_cons_of_mem _ ht))
  · exact h

/-- **One step** of a load keeps the generations apart. -/
theorem Apart.step (h : l.Apart) (step : LoadStep) : (l.step step).Apart := by
  cases step with
  | reserve d => exact h.reserve d
  | publish s => exact h.publish s

/-- **Overlapping loads** keep the generations apart. -/
theorem Apart.run (h : l.Apart) (steps : List LoadStep) : (l.run steps).Apart := by
  induction steps generalizing l with
  | nil => exact h
  | cons step rest ih => exact ih (h.step step)

/-- In whatever order the loads at work publish, the same snapshot is in force in the end. -/
theorem Apart.publishAll_eq (h : l.Apart) {order : List Snapshot} (hperm : order.Perm l.pending) :
    l.store.publishAll order = l.store.publishAll l.pending := by
  have hnewest := l.store.publishAll_isNewest l.pending
  rw [Store.publishAll_eq_of_isNewest h.distinct hnewest hperm,
    Store.publishAll_eq_of_isNewest h.distinct hnewest (List.Perm.refl _)]

end Loading

end AdmissionRules
