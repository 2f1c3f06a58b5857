import AdmissionRules.Decision.Budget
import Mathlib.Data.Option.Basic

set_option autoImplicit false

/-! # Budgets shared by clones

A budget can be cloned. A clone has the same deadline, and shares the flag that cancelling sets, so
that it does not matter which of them is cancelled or checked. Here budgets are started, cloned,
cancelled and checked in any order. What a check says is decided by the cancellations of the budget
and its clones so far, by the deadline and by the instant of the check; and a budget that is
exhausted stays so (`Budget.Pool.check_run`). -/

namespace AdmissionRules.Budget

/-! ## Budgets as they are held -/

/-- A budget as it is held: its deadline, and the place of its flag, which tells it from budgets
    that are no clones of it. -/
structure Handle where
  deadline : Option Nat
  place : Nat
deriving DecidableEq

/-- The flags of all budgets, and the budgets and clones held. -/
structure Pool where
  flags : List Bool
  handles : List Handle
deriving DecidableEq

/-- What is done with budgets; those that are held are counted from the first one on. -/
inductive Call where
  | start (started timeout : Nat)
  | clone (i : Nat)
  | cancel (i : Nat)
  | check (i now : Nat)
deriving DecidableEq

namespace Pool

def empty : Pool := { flags := [], handles := [] }

/-- The budget that is held as the `i`th, as it is now. -/
def budget? (p : Pool) (i : Nat) : Option Budget := do
  let handle ← p.handles[i]?
  let cancelled ← p.flags[handle.place]?
  some { deadline := handle.deadline, cancelled }

/-- Holds a budget, for the flag of which there is a new place. -/
def hold (p : Pool) (b : Budget) : Pool :=
  { flags := p.flags ++ [b.cancelled],
    handles := p.handles ++ [{ deadline := b.deadline, place := p.flags.length }] }

def clone? (p : Pool) (i : Nat) : Option Pool := do
  let handle ← p.handles[i]?
  some { p with handles := p.handles ++ [handle] }

/-- Cancels the budget held as the `i`th: its flag is set where it is. -/
def cancel? (p : Pool) (i : Nat) : Option Pool := do
  let handle ← p.handles[i]?
  let b ← p.budget? i
  some { p with flags := p.flags.set handle.place b.cancel.cancelled }

/-- What the check of the budget held as the `i`th says. -/
def check? (p : Pool) (i now : Nat) : Option (Option Exhaustion) :=
  (p.budget? i).map fun b => b.check now

/-- What comes of a call. A budget that is not held cannot be called. -/
def step (clock : Clock) (p : Pool) : Call → Option Pool
  | .start started timeout => some (p.hold (.startingAt clock started timeout))
  | .clone i => p.clone? i
  | .cancel i => p.cancel? i
  | .check i now => (p.check? i now).map fun _ => p

def run (clock : Clock) (p : Pool) (calls : List Call) : Option Pool :=
  calls.foldlM (step clock) p

/-- The place of the flag of the budget held as the `i`th. -/
def place? (p : Pool) (i : Nat) : Option Nat := p.handles[i]?.map (·.place)

end Pool

/-- The starts and the timeouts of the budgets started, in the order of the places of their
    flags. -/
def starts (calls : List Call) : List (Nat × Nat) :=
  calls.filterMap fun
    | .start started timeout => some (started, timeout)
    | _ => none

/-! ## One budget -/

/-- The deadline of a budget is within the range of the clock and has come. -/
def Reached (clock : Clock) (started timeout now : Nat) : Prop :=
  started + timeout ≤ clock.last ∧ started + timeout ≤ now

theorem deadline_startingAt (clock : Clock) (started timeout : Nat) :
    (startingAt clock started timeout).deadline =
      if started + timeout ≤ clock.last then some (started + timeout) else none := by
  unfold startingAt
  split <;> rfl

theorem cancelled_startingAt (clock : Clock) (started timeout : Nat) :
    (startingAt clock started timeout).cancelled = false := by
  unfold startingAt
  split <;> rfl

/-- What a check says, of a budget that is cancelled or not and the deadline of which has come or
    not. -/
structure Says (cancelled reached : Prop) (result : Option Exhaustion) : Prop where
  cancelled_iff : result = some .cancelled ↔ cancelled
  deadlineExceeded_iff : result = some .deadlineExceeded ↔ ¬ cancelled ∧ reached
  none_iff : result = none ↔ ¬ cancelled ∧ ¬ reached

theorem Says.exists_of_mono {cancelled cancelled' reached reached' : Prop}
    {result result' : Option Exhaustion} (h : Says cancelled reached result) (hne : result ≠ none)
    (hcancelled : cancelled → cancelled') (hreached : reached → reached')
    (h' : Says cancelled' reached' result') : ∃ e, result' = some e := by
  rw [← Option.ne_none_iff_exists']
  intro hnone
  obtain ⟨hc, hr⟩ := h'.none_iff.1 hnone
  exact hne (h.none_iff.2 ⟨mt hcancelled hc, mt hreached hr⟩)

theorem says_check {clock : Clock} {started timeout : Nat} {b : Budget}
    (h : b.deadline = (startingAt clock started timeout).deadline) (now : Nat) :
    Says (b.cancelled = true) (Reached clock started timeout now) (b.check now) := by
  unfold check Reached
  rw [h, deadline_startingAt]
  cases b.cancelled with
  | true => constructor <;> simp
  | false =>
      by_cases hrange : started + timeout ≤ clock.last
      · by_cases hnow : started + timeout ≤ now <;> constructor <;> simp [hrange, hnow]
      · constructor <;> simp [hrange]

namespace Pool

variable {clock : Clock} {calls : List Call} {p p' : Pool}

/-! ## One call -/

theorem of_getElem?_concat {α : Type} {xs : List α} {x y : α} {i : Nat}
    (h : (xs ++ [x])[i]? = some y) : xs[i]? = some y ∨ i = xs.length ∧ x = y := by
  rw [List.getElem?_append] at h
  split at h
  · exact .inl h
  · obtain ⟨hi, hy⟩ := List.getElem?_eq_some_iff.1 h
    simp only [List.length_singleton] at hi
    exact .inr ⟨by omega, by simpa using hy⟩

/-- What a call makes of a pool. -/
inductive Becomes (clock : Clock) (p : Pool) : Call → Pool → Prop where
  | start (started timeout : Nat) :
      Becomes clock p (.start started timeout) (p.hold (.startingAt clock started timeout))
  | clone (i : Nat) (handle : Handle) (h : p.handles[i]? = some handle) :
      Becomes clock p (.clone i) { p with handles := p.handles ++ [handle] }
  | cancel (i : Nat) (handle : Handle) (h : p.handles[i]? = some handle)
      (hplace : handle.place < p.flags.length) :
      Becomes clock p (.cancel i) { p with flags := p.flags.set handle.place true }
  | check (i now : Nat) : Becomes clock p (.check i now) p

theorem becomes_of_step {c : Call} (h : step clock p c = some p') : Becomes clock p c p' := by
  cases c with
  | start started timeout =>
      cases h
      exact .start started timeout
  | clone i =>
      obtain ⟨handle, hhandle, hp⟩ := Option.bind_eq_some_iff.1 h
      cases hp
      exact .clone i handle hhandle
  | cancel i =>
      obtain ⟨handle, hhandle, h⟩ := Option.bind_eq_some_iff.1 h
      obtain ⟨b, hb, hp⟩ := Option.bind_eq_some_iff.1 h
      simp only [budget?, hhandle, Option.bind_eq_bind, Option.bind_some] at hb
      obtain ⟨flag, hflag, -⟩ := Option.bind_eq_some_iff.1 hb
      cases hp
      exact .cancel i handle hhandle (List.getElem?_eq_some_iff.1 hflag).1
  | check i now =>
      obtain ⟨_, -, rfl⟩ := Option.map_eq_some_iff.1 h
      exact .check i now

/-- A clone has its flag in the place of the original. -/
theorem place?_of_clone {i : Nat} (h : step clock p (.clone i) = some p') :
    p'.place? p.handles.length = p.place? i := by
  cases becomes_of_step h with
  | clone _ handle hhandle => rw [place?, place?, List.getElem?_concat_length, hhandle]

/-- What is held stays where it is. -/
theorem step_handles {c : Call} (h : step clock p c = some p') : p.handles <+: p'.handles := by
  cases becomes_of_step h with
  | start | clone => exact List.prefix_append _ _
  | cancel | check => exact List.prefix_rfl

theorem place?_of_handles (h : p.handles <+: p'.handles) {i : Nat} (hi : i < p.handles.length) :
    p'.place? i = p.place? i := by
  unfold place?
  rw [List.prefix_iff_getElem?.1 h i hi, List.getElem?_eq_getElem hi]

/-- A budget held under a flag was cancelled. -/
def Cancelled (calls : List Call) (p : Pool) (place : Nat) : Prop :=
  ∃ i, Call.cancel i ∈ calls ∧ p.place? i = some place

/-- A budget is held as it was started. -/
def AsStarted (clock : Clock) (calls : List Call) (handle : Handle) : Prop :=
  ∃ started timeout, (starts calls)[handle.place]? = some (started, timeout) ∧
    handle.deadline = (startingAt clock started timeout).deadline

/-- Every flag tells whether a budget held under it was cancelled, and every budget is held as it was
    started. -/
structure Tracks (clock : Clock) (calls : List Call) (p : Pool) : Prop where
  places : p.flags.length = (starts calls).length
  handles : ∀ (i : Nat) (handle : Handle), p.handles[i]? = some handle →
    AsStarted clock calls handle
  cancels : ∀ i, Call.cancel i ∈ calls → i < p.handles.length
  flags : ∀ (place : Nat) (flag : Bool), p.flags[place]? = some flag →
    (flag = true ↔ Cancelled calls p place)

theorem tracks_empty (clock : Clock) : Tracks clock [] empty where
  places := rfl
  handles i handle h := by simp [empty] at h
  cancels i h := by simp at h
  flags place flag h := by simp [empty] at h

theorem lt_of_cancel {i : Nat} (h : step clock p (.cancel i) = some p') : i < p.handles.length := by
  cases becomes_of_step h with
  | cancel _ handle hhandle => exact (List.getElem?_eq_some_iff.1 hhandle).1

/-- Only a cancellation adds to what is cancelled. -/
theorem Tracks.cancelled_append_iff (h : Tracks clock calls p) {c : Call}
    (hstep : step clock p c = some p') (place : Nat) :
    Cancelled (calls ++ [c]) p' place ↔
      Cancelled calls p place ∨ ∃ i, c = .cancel i ∧ p.place? i = some place := by
  have hsame : ∀ {i}, i < p.handles.length → p'.place? i = p.place? i :=
    place?_of_handles (step_handles hstep)
  constructor
  · rintro ⟨i, hi, hplace⟩
    rcases List.mem_append.1 hi with hi | hi
    · exact .inl ⟨i, hi, by rwa [hsame (h.cancels i hi)] at hplace⟩
    · obtain rfl := List.mem_singleton.1 hi
      exact .inr ⟨i, rfl, by rwa [hsame (lt_of_cancel hstep)] at hplace⟩
  · rintro (⟨i, hi, hplace⟩ | ⟨i, rfl, hplace⟩)
    · exact ⟨i, List.mem_append_left _ hi, by rwa [hsame (h.cancels i hi)]⟩
    · exact ⟨i, List.mem_append_right _ List.mem_cons_self,
        by rwa [hsame (lt_of_cancel hstep)]⟩

/-- No budget is held under a flag that is still to come. -/
theorem Tracks.place_lt (h : Tracks clock calls p) {i place : Nat} (hi : p.place? i = some place) :
    place < p.flags.length := by
  obtain ⟨handle, hhandle, rfl⟩ := Option.map_eq_some_iff.1 hi
  obtain ⟨started, timeout, hstart, -⟩ := h.handles i handle hhandle
  rw [h.places]
  exact (List.getElem?_eq_some_iff.1 hstart).1

/-- A budget that is started has its flag in a place of its own. -/
theorem Tracks.place?_of_start (h : Tracks clock calls p) {started timeout : Nat}
    (hstep : step clock p (.start started timeout) = some p') {i place : Nat}
    (hi : p.place? i = some place) : p'.place? p.handles.length ≠ some place := by
  cases becomes_of_step hstep with
  | start =>
      rw [place?, hold, List.getElem?_concat_length, Option.map_some]
      intro hplace
      exact Nat.lt_irrefl _ (Option.some.inj hplace ▸ h.place_lt hi)

theorem starts_append (calls later : List Call) :
    starts (calls ++ later) = starts calls ++ starts later :=
  List.filterMap_append

theorem starts_getElem?_append {place : Nat} {s : Nat × Nat}
    (h : (starts calls)[place]? = some s) (later : List Call) :
    (starts (calls ++ later))[place]? = some s := by
  rw [starts_append, List.getElem?_append_left (List.getElem?_eq_some_iff.1 h).1, h]

theorem Tracks.cancels_step (h : Tracks clock calls p) {c : Call}
    (hstep : step clock p c = some p') (i : Nat) (hi : Call.cancel i ∈ calls ++ [c]) :
    i < p'.handles.length := by
  have hle := (step_handles hstep).length_le
  rcases List.mem_append.1 hi with hi | hi
  · exact Nat.lt_of_lt_of_le (h.cancels i hi) hle
  · obtain rfl := List.mem_singleton.1 hi
    exact Nat.lt_of_lt_of_le (lt_of_cancel hstep) hle

theorem Tracks.flags_step (h : Tracks clock calls p) {c : Call}
    (hstep : step clock p c = some p') (place : Nat) (flag : Bool)
    (hflag : p'.flags[place]? = some flag) :
    flag = true ↔ Cancelled (calls ++ [c]) p' place := by
  rw [h.cancelled_append_iff hstep]
  cases becomes_of_step hstep with
  | start started timeout =>
      have hother : ¬ ∃ i, Call.start started timeout = .cancel i ∧ p.place? i = some place := by
        simp
      rw [or_iff_left hother]
      rcases of_getElem?_concat hflag with hflag | ⟨rfl, rfl⟩
      · exact h.flags place flag hflag
      · -- the flag is new, so nothing that was cancelled can be held under it
        refine iff_of_false (by rw [cancelled_startingAt]; decide) ?_
        rintro ⟨i, -, hplace⟩
        exact Nat.lt_irrefl _ (h.place_lt hplace)
  | cancel i handle hhandle hlt =>
      have hi : p.place? i = some handle.place := by rw [place?, hhandle, Option.map_some]
      rw [List.getElem?_set] at hflag
      split at hflag
      · rename_i hplace
        exact iff_of_true (Option.some.inj hflag).symm (.inr ⟨i, rfl, hplace ▸ hi⟩)
      · rename_i hplace
        have hother : ¬ ∃ j, Call.cancel i = .cancel j ∧ p.place? j = some place := by
          rintro ⟨j, hj, hplace'⟩
          cases hj
          exact hplace (Option.some.inj (hi.symm.trans hplace'))
        rw [or_iff_left hother]
        exact h.flags place flag hflag
  | clone | check => simp [h.flags place flag hflag]

theorem Tracks.places_step (h : Tracks clock calls p) {c : Call}
    (hstep : step clock p c = some p') : p'.flags.length = (starts (calls ++ [c])).length := by
  rw [starts_append, List.length_append, ← h.places]
  cases becomes_of_step hstep with
  | start => exact List.length_append
  | cancel => exact List.length_set
  | clone | check => rfl

theorem AsStarted.append {handle : Handle} (h : AsStarted clock calls handle) (later : List Call) :
    AsStarted clock (calls ++ later) handle := by
  obtain ⟨started, timeout, hstart, hdeadline⟩ := h
  exact ⟨started, timeout, starts_getElem?_append hstart later, hdeadline⟩

/-- A handle that is new is that of a budget just started, or like the one that is cloned. -/
theorem Tracks.handles_step (h : Tracks clock calls p) {c : Call}
    (hstep : step clock p c = some p') (i : Nat) (handle : Handle)
    (hhandle : p'.handles[i]? = some handle) : AsStarted clock (calls ++ [c]) handle := by
  cases becomes_of_step hstep with
  | start started timeout =>
      rcases of_getElem?_concat hhandle with hhandle | ⟨-, rfl⟩
      · exact (h.handles i handle hhandle).append _
      · refine ⟨started, timeout, ?_, rfl⟩
        rw [starts_append, h.places]
        exact List.getElem?_concat_length
  | clone j original horiginal =>
      rcases of_getElem?_concat hhandle with hhandle | ⟨-, rfl⟩
      · exact (h.handles i handle hhandle).append _
      · exact (h.handles j original horiginal).append _
  | cancel | check => exact (h.handles i handle hhandle).append _

/-- Every call keeps track. -/
theorem Tracks.step (h : Tracks clock calls p) {c : Call} (hstep : step clock p c = some p') :
    Tracks clock (calls ++ [c]) p' where
  places := h.places_step hstep
  handles := h.handles_step hstep
  cancels := h.cancels_step hstep
  flags := h.flags_step hstep

/-! ## Any calls -/

/-- A run keeps track from the first call on. -/
theorem Tracks.run {later : List Call} (h : Tracks clock calls p)
    (hrun : run clock p later = some p') :
    Tracks clock (calls ++ later) p' ∧ p.handles <+: p'.handles := by
  induction later generalizing calls p with
  | nil =>
      cases hrun
      rw [List.append_nil]
      exact ⟨h, List.prefix_rfl⟩
  | cons c later ih =>
      obtain ⟨next, hstep, hrun⟩ := Option.bind_eq_some_iff.1 hrun
      obtain ⟨htracks, hhandles⟩ := ih (h.step hstep) hrun
      rw [List.append_assoc] at htracks
      exact ⟨htracks, (step_handles hstep).trans hhandles⟩

/-- What is cancelled stays cancelled. -/
theorem Cancelled.mono {place : Nat} (h : Cancelled calls p place)
    (hhandles : p.handles <+: p'.handles) (later : List Call) :
    Cancelled (calls ++ later) p' place := by
  obtain ⟨i, hi, hplace⟩ := h
  obtain ⟨handle, hhandle, -⟩ := Option.map_eq_some_iff.1 hplace
  refine ⟨i, List.mem_append_left _ hi, ?_⟩
  rwa [place?_of_handles hhandles (List.getElem?_eq_some_iff.1 hhandle).1]

theorem Tracks.check (h : Tracks clock calls p) {i : Nat} {handle : Handle}
    (hi : p.handles[i]? = some handle) :
    ∃ started timeout, (starts calls)[handle.place]? = some (started, timeout) ∧
      ∀ now, ∃ result, p.check? i now = some result ∧
        Says (Cancelled calls p handle.place) (Reached clock started timeout now) result := by
  obtain ⟨started, timeout, hstart, hdeadline⟩ := h.handles i handle hi
  have hplace : p.place? i = some handle.place := by rw [place?, hi, Option.map_some]
  obtain ⟨flag, hflag⟩ : ∃ flag, p.flags[handle.place]? = some flag :=
    ⟨_, List.getElem?_eq_getElem (h.place_lt hplace)⟩
  refine ⟨started, timeout, hstart, fun now =>
    ⟨Budget.check { deadline := handle.deadline, cancelled := flag } now, ?_, ?_⟩⟩
  · simp only [check?, budget?, hi, hflag, Option.bind_eq_bind, Option.bind_some, Option.map_some]
  · rw [← h.flags handle.place flag hflag]
    exact says_check (b := { deadline := handle.deadline, cancelled := flag }) hdeadline now

/-- **Budgets expire at their deadlines, and stay exhausted.** Budgets are started, cloned, cancelled
    and checked in any order. A clone has its flag where the original has it, and a budget that is
    started has it elsewhere, so those with a flag in one place are one budget and its clones. A
    check of any of them says that it is cancelled exactly if one of them was. Otherwise the
    deadline is exceeded exactly if the start and the timeout add up to an instant that the clock
    can tell, and it has come; a timeout that leads past the range of the clock is no deadline. So
    if a check finds one of them exhausted, every later check of any of them does, whatever was
    called in between. -/
theorem check_run (h : run clock empty calls = some p) {i : Nat} {handle : Handle}
    (hi : p.handles[i]? = some handle) :
    ((∀ p', step clock p (.clone i) = some p' →
        p'.place? p.handles.length = some handle.place) ∧
      ∀ started timeout p', step clock p (.start started timeout) = some p' →
        p'.place? p.handles.length ≠ some handle.place) ∧
    ∃ started timeout, (starts calls)[handle.place]? = some (started, timeout) ∧
      (∀ now, ∃ result, p.check? i now = some result ∧
        Says (Cancelled calls p handle.place) (Reached clock started timeout now) result) ∧
      ∀ now, p.check? i now ≠ some none →
        ∀ later p', run clock p later = some p' → ∀ j, p'.place? j = some handle.place →
          ∀ now', now ≤ now' → ∃ e, p'.check? j now' = some (some e) := by
  have htracks := ((tracks_empty clock).run h).1
  rw [List.nil_append] at htracks
  have hplace : p.place? i = some handle.place := by rw [place?, hi, Option.map_some]
  obtain ⟨started, timeout, hstart, hcheck⟩ := htracks.check hi
  refine ⟨⟨fun p' hclone => (place?_of_clone hclone).trans hplace,
    fun _ _ p' hnew => htracks.place?_of_start hnew hplace⟩, started, timeout, hstart, hcheck, ?_⟩
  intro now hexhausted later p' hlater j hj now' hnow
  obtain ⟨result, hresult, hsays⟩ := hcheck now
  obtain ⟨htracks', hhandles⟩ := htracks.run hlater
  obtain ⟨handle', hhandle', hplace'⟩ := Option.map_eq_some_iff.1 hj
  obtain ⟨started', timeout', hstart', hcheck'⟩ := htracks'.check hhandle'
  rw [hplace'] at hstart' hcheck'
  -- one place stands for one start
  cases (starts_getElem?_append hstart later).symm.trans hstart'
  obtain ⟨result', hresult', hsays'⟩ := hcheck' now'
  have hne : result ≠ none := by
    rintro rfl
    exact hexhausted hresult
  obtain ⟨e, rfl⟩ := hsays.exists_of_mono hne (fun hc => hc.mono hhandles later)
    (fun hr => ⟨hr.1, Nat.le_trans hr.2 hnow⟩) hsays'
  exact ⟨e, hresult'⟩

/-- A budget that ends at 15, a clone of it, and a budget that would end past the range of the
    clock. -/
def sharedCalls : List Call := [.start 10 5, .clone 0, .start 50 60, .check 1 12]

def sharedPool : Pool :=
  { flags := [false, false],
    handles := [{ deadline := some 15, place := 0 }, { deadline := some 15, place := 0 },
      { deadline := none, place := 1 }] }

/-- The pool after the last budget was cancelled and the first one cloned again. -/
def laterPool : Pool :=
  { flags := [false, true], handles := sharedPool.handles ++ [{ deadline := some 15, place := 0 }] }

/-- At 15 the clone is at its deadline, and from then on so is every other one. -/
theorem check_run_shared :
    run { last := 100 } empty sharedCalls = some sharedPool ∧
    sharedPool.handles[1]? = some { deadline := some 15, place := 0 } ∧
    sharedPool.check? 1 15 = some (some .deadlineExceeded) ∧
    run { last := 100 } sharedPool [.cancel 2, .clone 0] = some laterPool ∧
    ∃ e, laterPool.check? 3 20 = some (some e) := by
  have hrun : run { last := 100 } empty sharedCalls = some sharedPool := rfl
  have hlater : run { last := 100 } sharedPool [.cancel 2, .clone 0] = some laterPool := rfl
  have hi : sharedPool.handles[1]? = some { deadline := some 15, place := 0 } := rfl
  obtain ⟨-, started, timeout, hstart, hcheck, hstays⟩ := check_run hrun hi
  have hfirst : (starts sharedCalls)[0]? = some (10, 5) := rfl
  cases hfirst.symm.trans hstart
  have hcancelled : ¬ Cancelled sharedCalls sharedPool 0 := by
    rintro ⟨i, hmem, -⟩
    simp [sharedCalls] at hmem
  obtain ⟨result, hresult, hsays⟩ := hcheck 15
  obtain rfl := hsays.deadlineExceeded_iff.2 ⟨hcancelled, by decide, by decide⟩
  refine ⟨hrun, hi, hresult, hlater, hstays 15 ?_ _ laterPool hlater 3 rfl 20 (by decide)⟩
  rw [hresult]
  decide

end Pool

end AdmissionRules.Budget
