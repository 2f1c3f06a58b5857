import AdmissionRules.Metrics.Basic
import AdmissionRules.Proofs.Ascending

set_option autoImplicit false

/-! # What is counted of decisions

Metrics that record decisions one after the other hold, for every kind and reason, the number of
decisions recorded under them, and for every kind the number of those that had a duration
(`decisionCount_recordAll`, `durationCount_recordAll`). Nothing is counted twice: the sum over any
set of kinds and reasons is the number of decisions recorded under one of them
(`decisionTotal_recordAll`). -/

namespace AdmissionRules.Metrics

/-! ## The order of the labels -/

theorem labelsBefore_iff (a b : String × String) :
    labelsBefore a b = true ↔ a.1 < b.1 ∨ a.1 = b.1 ∧ a.2 < b.2 := by
  simp [labelsBefore, Text.textBefore_iff]

instance labelsBefore_strictTotal : IsStrictTotalOrder (String × String) (labelsBefore · ·) where
  trichotomous a b hab hba := by
    rw [labelsBefore_iff] at hab hba
    rcases lt_trichotomy a.1 b.1 with hfirst | hfirst | hfirst
    · exact absurd (.inl hfirst) hab
    · rcases lt_trichotomy a.2 b.2 with hsecond | hsecond | hsecond
      · exact absurd (.inr ⟨hfirst, hsecond⟩) hab
      · exact Prod.ext hfirst hsecond
      · exact absurd (.inr ⟨hfirst.symm, hsecond⟩) hba
    · exact absurd (.inl hfirst) hba
  irrefl a h := by
    rw [labelsBefore_iff] at h
    rcases h with h | ⟨-, h⟩
    · exact lt_irrefl _ h
    · exact lt_irrefl _ h
  trans a b c hab hbc := by
    rw [labelsBefore_iff] at hab hbc ⊢
    rcases hab with hab | ⟨hab, hab'⟩
    · rcases hbc with hbc | ⟨hbc, -⟩
      · exact .inl (hab.trans hbc)
      · exact .inl (hbc ▸ hab)
    · rcases hbc with hbc | ⟨hbc, hbc'⟩
      · exact .inl (hab ▸ hbc)
      · exact .inr ⟨hab.trans hbc, hab'.trans hbc'⟩

/-! ## One decision -/

/-- The number of decisions under the kinds and reasons that `p` selects. -/
def decisionTotal (m : Metrics) (p : String × String → Bool) : Nat := Ascending.total p m.decisions

/-- The counters stand in the order of their labels, none of them twice. -/
def CountersAscend (m : Metrics) : Prop :=
  (Ascending.keys m.decisions).Pairwise (labelsBefore · ·)

theorem CountersAscend.recordDecision {m : Metrics} (h : m.CountersAscend) (d : DecisionRecord) :
    (m.recordDecision d).CountersAscend :=
  Ascending.insertBy_keys_pairwise labelsBefore _ _ _ h

theorem decisionCount_recordDecision (m : Metrics) (d : DecisionRecord) (kind reason : String) :
    (m.recordDecision d).decisionCount kind reason =
      m.decisionCount kind reason + (if d.kind = kind ∧ d.reason = reason then 1 else 0) := by
  unfold decisionCount recordDecision
  rw [Ascending.get?_alterBy labelsBefore]
  by_cases hlabels : d.kind = kind ∧ d.reason = reason
  · obtain ⟨rfl, rfl⟩ := hlabels
    simp
  · have hne : (kind, reason) ≠ (d.kind, d.reason) := by
      rintro ⟨⟩
      exact hlabels ⟨rfl, rfl⟩
    rw [if_neg hne, if_neg hlabels, Nat.add_zero]

theorem decisionTotal_recordDecision {m : Metrics} (h : m.CountersAscend) (d : DecisionRecord)
    (p : String × String → Bool) :
    (m.recordDecision d).decisionTotal p =
      m.decisionTotal p + (if p (d.kind, d.reason) then 1 else 0) :=
  Ascending.total_alterBy_succ labelsBefore p (d.kind, d.reason) h

theorem durationCount_eq (m : Metrics) (kind : String) :
    m.durationCount kind = ((Ascending.get? kind m.durations).map (·.count)).getD 0 := by
  unfold durationCount
  cases Ascending.get? kind m.durations <;> rfl

theorem durationCount_recordDecision (m : Metrics) (d : DecisionRecord) (kind : String) :
    (m.recordDecision d).durationCount kind =
      m.durationCount kind + (if d.kind = kind ∧ d.duration.isSome then 1 else 0) := by
  rw [durationCount_eq, durationCount_eq]
  unfold recordDecision
  cases hduration : d.duration with
  | none => simp
  | some x =>
      simp only [Ascending.get?_alter]
      by_cases hkind : d.kind = kind
      · subst hkind
        -- a histogram that is new has counted nothing
        cases Ascending.get? d.kind m.durations <;> simp [Histogram.observe, Histogram.empty]
      · simp [hkind, Ne.symm hkind]

/-! ## Any number of decisions -/

/-- The metrics after decisions were recorded in turn. -/
def recordAll (m : Metrics) (records : List DecisionRecord) : Metrics :=
  records.foldl recordDecision m

theorem decisionCount_recordAll (m : Metrics) (records : List DecisionRecord)
    (kind reason : String) :
    (m.recordAll records).decisionCount kind reason =
      m.decisionCount kind reason
        + records.countP fun d => d.kind = kind ∧ d.reason = reason := by
  induction records generalizing m with
  | nil => rfl
  | cons d rest ih =>
      rw [recordAll, List.foldl_cons, ← recordAll, ih, decisionCount_recordDecision,
        List.countP_cons, Nat.add_assoc, Nat.add_comm (List.countP _ _)]
      simp only [decide_eq_true_eq]

theorem durationCount_recordAll (m : Metrics) (records : List DecisionRecord) (kind : String) :
    (m.recordAll records).durationCount kind =
      m.durationCount kind + records.countP fun d => d.kind = kind ∧ d.duration.isSome := by
  induction records generalizing m with
  | nil => rfl
  | cons d rest ih =>
      rw [recordAll, List.foldl_cons, ← recordAll, ih, durationCount_recordDecision,
        List.countP_cons, Nat.add_assoc, Nat.add_comm (List.countP _ _)]
      simp only [decide_eq_true_eq]

/-- No decision is counted under two labels. -/
theorem decisionTotal_recordAll {m : Metrics} (h : m.CountersAscend)
    (records : List DecisionRecord) (p : String × String → Bool) :
    (m.recordAll records).decisionTotal p =
      m.decisionTotal p + records.countP fun d => p (d.kind, d.reason) := by
  induction records generalizing m with
  | nil => rfl
  | cons d rest ih =>
      rw [recordAll, List.foldl_cons, ← recordAll, ih (h.recordDecision d),
        decisionTotal_recordDecision h, List.countP_cons, Nat.add_assoc,
        Nat.add_comm (List.countP _ _)]

/-! ## From the beginning -/

theorem countersAscend_new : new.CountersAscend := List.Pairwise.nil

theorem decisionCount_new (kind reason : String) : new.decisionCount kind reason = 0 := rfl

theorem durationCount_new (kind : String) : new.durationCount kind = 0 := rfl

theorem decisionTotal_new (p : String × String → Bool) : new.decisionTotal p = 0 := rfl

end AdmissionRules.Metrics
