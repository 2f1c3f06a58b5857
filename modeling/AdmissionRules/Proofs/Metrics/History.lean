import AdmissionRules.Proofs.Metrics.Decisions
import Mathlib.Data.List.Induction

set_option autoImplicit false

/-! # Metrics of a history

Metrics are what was recorded, and nothing else. The counters and the histograms add up all entries
of the history; the gauges show the last successful reload alone, whatever came before it and
whatever else was recorded since (`recorded_history`). -/

namespace AdmissionRules.Metrics

/-! ## Histories -/

/-- What is recorded at one time. -/
inductive Entry where
  | decision (d : DecisionRecord)
  | reload (generation : Nat) (rules : List (String × Nat)) (time : Nat)
  | failedReload
deriving DecidableEq

namespace Entry

/-- Whether a decision of a kind for a reason is recorded. -/
def decides (kind reason : String) : Entry → Bool
  | .decision d => decide (d.kind = kind ∧ d.reason = reason)
  | _ => false

/-- Whether a decision of a kind is recorded with a duration. -/
def times (kind : String) : Entry → Bool
  | .decision d => decide (d.kind = kind ∧ d.duration.isSome)
  | _ => false

def isReload : Entry → Bool
  | .reload _ _ _ => true
  | _ => false

def isFailedReload : Entry → Bool
  | .failedReload => true
  | _ => false

end Entry

def record (m : Metrics) : Entry → Metrics
  | .decision d => m.recordDecision d
  | .reload generation rules time => m.recordReload generation rules time
  | .failedReload => m.recordFailedReload

/-- The metrics after a history, told from its first entry on. -/
def recorded (history : List Entry) : Metrics := history.foldl record new

theorem recorded_append (history later : List Entry) :
    recorded (history ++ later) = later.foldl record (recorded history) :=
  List.foldl_append

/-! ## Counters -/

/-- The counters and the histograms stand in order, each once and none before it has something to
    count, and count the entries of the history. -/
structure Counts (history : List Entry) (m : Metrics) : Prop where
  counters : m.CountersAscend
  counted : ∀ e ∈ m.decisions, 0 < e.2
  decisions : ∀ kind reason,
    m.decisionCount kind reason = history.countP (·.decides kind reason)
  histograms : Ascending.Ordered m.durations
  observed : ∀ e ∈ m.durations, 0 < e.2.count
  durations : ∀ kind, m.durationCount kind = history.countP (·.times kind)
  reloads : m.reloads = history.countP (·.isReload)
  failedReloads : m.failedReloads = history.countP (·.isFailedReload)

theorem counts_new : Counts [] new where
  counters := countersAscend_new
  counted _ he := absurd he List.not_mem_nil
  decisions := decisionCount_new
  histograms := Ascending.ordered_nil
  observed _ he := absurd he List.not_mem_nil
  durations := durationCount_new
  reloads := rfl
  failedReloads := rfl

theorem counted_recordDecision {m : Metrics} (h : ∀ e ∈ m.decisions, 0 < e.2)
    (d : DecisionRecord) : ∀ e ∈ (m.recordDecision d).decisions, 0 < e.2 := by
  intro e he
  rcases Ascending.mem_of_mem_insertBy labelsBefore he with rfl | he
  · exact Nat.succ_pos _
  · exact h e he

theorem histograms_recordDecision {m : Metrics} (h : Ascending.Ordered m.durations)
    (d : DecisionRecord) : Ascending.Ordered (m.recordDecision d).durations := by
  unfold recordDecision
  cases d.duration with
  | none => exact h
  | some x => exact h.alter d.kind fun histogram => (histogram.getD .empty).observe x

theorem observed_recordDecision {m : Metrics} (h : ∀ e ∈ m.durations, 0 < e.2.count)
    (d : DecisionRecord) : ∀ e ∈ (m.recordDecision d).durations, 0 < e.2.count := by
  unfold recordDecision
  cases d.duration with
  | none => exact h
  | some x =>
      intro e he
      rcases Ascending.mem_of_mem_insertBy Ascending.textBefore he with rfl | he
      · exact Nat.succ_pos _
      · exact h e he

/-- Recording one more entry counts it. -/
theorem Counts.record {history : List Entry} {m : Metrics} (h : Counts history m) (entry : Entry) :
    Counts (history ++ [entry]) (m.record entry) := by
  cases entry with
  | decision d =>
      refine ⟨h.counters.recordDecision d, counted_recordDecision h.counted d, ?_,
        histograms_recordDecision h.histograms d, observed_recordDecision h.observed d, ?_, ?_, ?_⟩
      · intro kind reason
        rw [List.countP_append, List.countP_singleton, ← h.decisions]
        simp only [Metrics.record, decisionCount_recordDecision, Entry.decides, decide_eq_true_eq]
      · intro kind
        rw [List.countP_append, List.countP_singleton, ← h.durations]
        simp only [Metrics.record, durationCount_recordDecision, Entry.times, decide_eq_true_eq]
      · exact h.reloads.trans (by simp [Entry.isReload])
      · exact h.failedReloads.trans (by simp [Entry.isFailedReload])
  | reload generation rules time =>
      -- decisions are counted apart from reloads, so only one number moves
      refine ⟨h.counters, h.counted, fun kind reason => ?_, h.histograms, h.observed,
        fun kind => ?_, ?_, ?_⟩
      · exact (h.decisions kind reason).trans (by simp [Entry.decides])
      · exact (h.durations kind).trans (by simp [Entry.times])
      · show m.reloads + 1 = _
        simp [h.reloads, Entry.isReload]
      · exact h.failedReloads.trans (by simp [Entry.isFailedReload])
  | failedReload =>
      refine ⟨h.counters, h.counted, fun kind reason => ?_, h.histograms, h.observed,
        fun kind => ?_, ?_, ?_⟩
      · exact (h.decisions kind reason).trans (by simp [Entry.decides])
      · exact (h.durations kind).trans (by simp [Entry.times])
      · exact h.reloads.trans (by simp [Entry.isReload])
      · show m.failedReloads + 1 = _
        simp [h.failedReloads, Entry.isFailedReload]

theorem counts_recorded (history : List Entry) : Counts history (recorded history) := by
  induction history using List.reverseRecOn with
  | nil => exact counts_new
  | append_singleton history entry ih =>
      rw [recorded_append]
      exact ih.record entry

variable {history : List Entry} {m : Metrics}

/-- There is a counter for the labels that something was recorded under, and it has the count. -/
theorem Counts.mem_decisions_iff (h : Counts history m) (kind reason : String) (n : Nat) :
    ((kind, reason), n) ∈ m.decisions ↔
      0 < n ∧ n = history.countP (·.decides kind reason) := by
  rw [← h.decisions]
  unfold decisionCount
  constructor
  · intro hmem
    have hnodup : (Ascending.keys m.decisions).Nodup :=
      h.counters.imp fun hab => Ascending.ne_of_before labelsBefore hab
    refine ⟨h.counted _ hmem, ?_⟩
    rw [Ascending.get?_of_nodup hnodup hmem, Option.getD_some]
  · rintro ⟨hpos, hn⟩
    cases hget : Ascending.get? (kind, reason) m.decisions with
    | none =>
        rw [hget, Option.getD_none] at hn
        omega
    | some count =>
        rw [hget, Option.getD_some] at hn
        exact hn ▸ Ascending.mem_of_get? hget

/-- There is a histogram for the kinds that a duration was recorded for, and it has the count. -/
theorem Counts.mem_durations_iff (h : Counts history m) (kind : String) (n : Nat) :
    (∃ histogram, (kind, histogram) ∈ m.durations ∧ histogram.count = n) ↔
      0 < n ∧ n = history.countP (·.times kind) := by
  rw [← h.durations, durationCount_eq]
  constructor
  · rintro ⟨histogram, hmem, rfl⟩
    refine ⟨h.observed _ hmem, ?_⟩
    rw [h.histograms.get?_of_mem hmem, Option.map_some, Option.getD_some]
  · rintro ⟨hpos, hn⟩
    cases hget : Ascending.get? kind m.durations with
    | none =>
        rw [hget, Option.map_none, Option.getD_none] at hn
        omega
    | some histogram =>
        rw [hget, Option.map_some, Option.getD_some] at hn
        exact ⟨histogram, Ascending.mem_of_get? hget, hn.symm⟩

/-! ## Gauges -/

/-- Only a successful reload moves the gauges. -/
theorem lastReload_foldl {later : List Entry} (h : ∀ entry ∈ later, entry.isReload = false)
    (m : Metrics) : (later.foldl record m).lastReload = m.lastReload := by
  induction later generalizing m with
  | nil => rfl
  | cons entry later ih =>
      rw [List.foldl_cons, ih fun e he => h e (List.mem_cons_of_mem _ he)]
      cases entry with
      | reload generation rules time => cases h _ List.mem_cons_self
      | decision d => rfl
      | failedReload => rfl

/-- After a reload nothing is left in the gauges of what was there before. -/
theorem lastReload_recorded (earlier : List Entry) (generation : Nat) (rules : List (String × Nat))
    (time : Nat) {later : List Entry} (h : ∀ entry ∈ later, entry.isReload = false) :
    (recorded (earlier ++ .reload generation rules time :: later)).lastReload =
      { generation := gauge generation,
        rules := Ascending.ofList (rules.map fun r => (r.1, gauge r.2)),
        time := gauge time } := by
  rw [recorded_append, List.foldl_cons, lastReload_foldl h]
  rfl

/-- The gauge of a kind shows the last number that is listed for it. -/
theorem mem_ofList_gauge_iff (rules : List (String × Nat)) (kind : String) (shown : Int) :
    (kind, shown) ∈ Ascending.ofList (rules.map fun r => (r.1, gauge r.2)) ↔
      ∃ (n : Nat) (front back : List (String × Nat)),
        rules = front ++ (kind, n) :: back ∧ (∀ r ∈ back, r.1 ≠ kind) ∧ shown = gauge n := by
  have hget : (kind, shown) ∈ Ascending.ofList (rules.map fun r => (r.1, gauge r.2)) ↔
      (rules.map fun r => (r.1, gauge r.2)).reverse.lookup kind = some shown := by
    rw [← Ascending.get?_ofList]
    exact ⟨(Ascending.ordered_ofList _).get?_of_mem, Ascending.mem_of_get?⟩
  rw [hget, ← List.filterMap_eq_map, Ascending.lookup_reverse_filterMap_eq_some_iff]
  constructor
  · rintro ⟨front, ⟨k, n⟩, back, rfl, hr, hback⟩
    cases hr
    refine ⟨n, front, back, rfl, fun r hmem hr => hback r hmem (gauge r.2) ?_, rfl⟩
    exact congrArg (fun key => some (key, gauge r.2)) hr
  · rintro ⟨n, front, back, rfl, hback, rfl⟩
    refine ⟨front, (kind, n), back, rfl, rfl, fun r hr v heq => hback r hr ?_⟩
    exact (Prod.ext_iff.1 (Option.some.inj heq)).1

/-! ## Counters and gauges together -/

/-- **Metrics are determined by what was recorded**, whatever it is. A counter of a kind and a
    reason is there once it has something to count, and counts the decisions with exactly these
    labels; a histogram counts the decisions of its kind that had a duration; the other counters
    count the reloads of the policy that succeeded and those that failed. The gauges show the last
    successful reload: its generation and its time, and of every kind that it lists, and of no
    other, the last number listed for it, all of them up to the limit of a gauge. Before the first
    one they show nothing. -/
theorem recorded_history (history : List Entry) :
    ((∀ kind reason,
        (recorded history).decisionCount kind reason = history.countP (·.decides kind reason)) ∧
      (∀ kind reason n, ((kind, reason), n) ∈ (recorded history).decisions ↔
        0 < n ∧ n = history.countP (·.decides kind reason)) ∧
      (Ascending.keys (recorded history).decisions).Nodup) ∧
    ((∀ kind, (recorded history).durationCount kind = history.countP (·.times kind)) ∧
      (∀ kind n,
        (∃ histogram, (kind, histogram) ∈ (recorded history).durations ∧ histogram.count = n) ↔
          0 < n ∧ n = history.countP (·.times kind)) ∧
      (Ascending.keys (recorded history).durations).Nodup) ∧
    ((recorded history).reloads = history.countP (·.isReload) ∧
      (recorded history).failedReloads = history.countP (·.isFailedReload)) ∧
    (∀ (earlier : List Entry) (generation : Nat) (rules : List (String × Nat)) (time : Nat) later,
      history = earlier ++ .reload generation rules time :: later →
      (∀ entry ∈ later, entry.isReload = false) →
      (recorded history).lastReload.generation = min (generation : Int) (twoTo 63 - 1) ∧
      (recorded history).lastReload.time = min (time : Int) (twoTo 63 - 1) ∧
      (Ascending.keys (recorded history).lastReload.rules).Nodup ∧
      ∀ kind shown, (kind, shown) ∈ (recorded history).lastReload.rules ↔
        ∃ (n : Nat) (front back : List (String × Nat)),
          rules = front ++ (kind, n) :: back ∧ (∀ r ∈ back, r.1 ≠ kind) ∧
            shown = min (n : Int) (twoTo 63 - 1)) ∧
    ((∀ entry ∈ history, entry.isReload = false) →
      (recorded history).lastReload = { generation := 0, rules := [], time := 0 }) := by
  have hcounts := counts_recorded history
  refine ⟨⟨hcounts.decisions, hcounts.mem_decisions_iff, ?_⟩,
    ⟨hcounts.durations, hcounts.mem_durations_iff, ?_⟩,
    ⟨hcounts.reloads, hcounts.failedReloads⟩, ?_, fun h => lastReload_foldl h new⟩
  · exact hcounts.counters.imp fun hab => Ascending.ne_of_before labelsBefore hab
  · exact hcounts.histograms.imp fun hab => hab.ne
  · rintro earlier generation rules time later rfl hlater
    rw [lastReload_recorded earlier generation rules time hlater]
    exact ⟨rfl, rfl, (Ascending.ordered_ofList _).imp fun hab => hab.ne,
      mem_ofList_gauge_iff rules⟩

example :
    (recorded [.reload 1 [("Service", 1)] 5, .failedReload,
      .reload 2 [("Deployment", 1), ("Deployment", 3)] 7, .failedReload]).lastReload =
      { generation := 2, rules := [("Deployment", 3)], time := 7 } := by
  decide +kernel

end AdmissionRules.Metrics
