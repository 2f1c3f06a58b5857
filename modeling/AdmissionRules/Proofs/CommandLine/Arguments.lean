import AdmissionRules.CommandLine.Arguments
import AdmissionRules.Proofs.CommandLine.Options
import AdmissionRules.Proofs.Except

set_option autoImplicit false

/-! # What arguments give

Arguments give options with their values (`Gives`), and this in one way only (`Gives.unique`).
Reading them takes these values one after the other (`Gives.readAll_eq`). Each argument that is
taken gives an option, begins one or is the value of the one before it (`stepped_of_step`), so
arguments that are read to their end do give options (`continues_of_readAll`). -/

namespace AdmissionRules

/-! ## Arguments -/

namespace OptionKey

/-- The argument that gives an option with its value. -/
def joined (key : OptionKey) (value : String) : String := "--" ++ key.name ++ "=" ++ value

/-- The argument that gives an option whose value is the next argument. -/
def flag (key : OptionKey) : String := "--" ++ key.name

variable (key : OptionKey) (value : String)

theorem toList_joined :
    (key.joined value).toList = '-' :: '-' :: (key.name.toList ++ '=' :: value.toList) := by
  simp [joined]

theorem toList_flag : key.flag.toList = '-' :: '-' :: key.name.toList := by
  simp [flag]

theorem equals_not_mem_name : '=' ∉ key.name.toList := by
  cases key <;> decide

theorem ofName?_name : ofName? key.name = some key := by
  cases key <;> decide

theorem name_inj {key key' : OptionKey} (h : key.name = key'.name) : key = key' := by
  have hkey := key.ofName?_name
  rw [h, key'.ofName?_name] at hkey
  exact (Option.some.inj hkey).symm

theorem name_of_ofName? {s : String} {key : OptionKey} (h : ofName? s = some key) :
    key.name = s := by
  simpa using List.find?_some h

theorem mem_all : key ∈ all := by
  cases key <;> decide

theorem nodup_all : all.Nodup := by
  decide

end OptionKey

/-- An argument that does not look like an option: it begins with no dash, or is just a dash. -/
def IsPlain (s : String) : Prop := s = "-" ∨ s.toList.head? ≠ some '-'

instance : DecidablePred IsPlain := fun s =>
  inferInstanceAs (Decidable (s = "-" ∨ s.toList.head? ≠ some '-'))

theorem isPlain_iff (s : String) : IsPlain s ↔ ∀ c cs, s.toList ≠ '-' :: c :: cs := by
  rw [IsPlain, ← String.toList_inj]
  rcases s.toList with _ | ⟨c, _ | ⟨d, cs⟩⟩
  · simp
  · simp [em]
  · simp

/-- What arguments give: options with their values, in the order in which they stand. -/
inductive Gives : List String → List (OptionKey × String) → Prop where
  | done : Gives [] []
  /-- Two dashes may end the options. -/
  | dashes : Gives ["--"] []
  | joined (key : OptionKey) (value : String) {rest : List String}
      {given : List (OptionKey × String)} (h : Gives rest given) :
      Gives (key.joined value :: rest) ((key, value) :: given)
  | apart (key : OptionKey) {value : String} (hvalue : IsPlain value) {rest : List String}
      {given : List (OptionKey × String)} (h : Gives rest given) :
      Gives (key.flag :: value :: rest) ((key, value) :: given)

/-! ## Arguments give options in one way only -/

namespace OptionKey

variable {key key' : OptionKey} {value value' : String}

theorem joined_ne_dashes (key : OptionKey) (value : String) : key.joined value ≠ "--" := by
  rw [ne_eq, ← String.toList_inj, key.toList_joined]
  simp

theorem flag_ne_dashes (key : OptionKey) : key.flag ≠ "--" := by
  cases key <;> decide

theorem flag_ne_joined : key.flag ≠ key'.joined value := by
  rw [ne_eq, ← String.toList_inj, toList_flag, toList_joined]
  intro h
  have hmem : '=' ∈ key.name.toList := by
    rw [(List.cons.inj (List.cons.inj h).2).2]
    simp
  exact key.equals_not_mem_name hmem

theorem flag_inj (h : key.flag = key'.flag) : key = key' := by
  rw [← String.toList_inj, toList_flag, toList_flag] at h
  exact name_inj (String.toList_inj.1 (List.cons.inj (List.cons.inj h).2).2)

theorem joined_inj (h : key.joined value = key'.joined value') : key = key' ∧ value = value' := by
  rw [← String.toList_inj, toList_joined, toList_joined] at h
  obtain ⟨hname, hvalue⟩ := Text.append_cons_inj key.equals_not_mem_name key'.equals_not_mem_name
    (List.cons.inj (List.cons.inj h).2).2
  exact ⟨name_inj (String.toList_inj.1 hname), String.toList_inj.1 hvalue⟩

end OptionKey

open OptionKey in
/-- **Arguments give options in one way only**: the first one tells what it gives. -/
theorem Gives.unique {arguments : List String} {given given' : List (OptionKey × String)}
    (h : Gives arguments given) (h' : Gives arguments given') : given = given' := by
  -- the first argument decides between the forms, and tells the option and the value
  induction h generalizing given' with
  | done =>
      cases h'
      rfl
  | dashes =>
      generalize harguments : ["--"] = arguments at h'
      cases h' with
      | done => rfl
      | dashes => rfl
      | joined key' value' _ =>
          exact absurd (List.cons.inj harguments).1.symm (joined_ne_dashes _ _)
      | apart key' _ _ => exact absurd (List.cons.inj harguments).1.symm (flag_ne_dashes _)
  | joined key value h ih =>
      generalize harguments : key.joined value :: _ = arguments at h'
      cases h' with
      | done => cases harguments
      | dashes => exact absurd (List.cons.inj harguments).1 (joined_ne_dashes _ _)
      | joined key' value' h' =>
          obtain ⟨hhead, rfl⟩ := List.cons.inj harguments
          obtain ⟨rfl, rfl⟩ := joined_inj hhead
          rw [ih h']
      | apart key' _ _ => exact absurd (List.cons.inj harguments).1.symm flag_ne_joined
  | @apart key value _ _ _ h ih =>
      generalize harguments : key.flag :: value :: _ = arguments at h'
      cases h' with
      | done => cases harguments
      | dashes => exact absurd (List.cons.inj harguments).1 (flag_ne_dashes _)
      | joined key' value' _ => exact absurd (List.cons.inj harguments).1 flag_ne_joined
      | apart key' _ h' =>
          obtain ⟨hhead, htail⟩ := List.cons.inj harguments
          obtain rfl := flag_inj hhead
          obtain ⟨rfl, rfl⟩ := List.cons.inj htail
          rw [ih h']

namespace ArgumentState

variable {state final : ArgumentState} {key : OptionKey} {value argument : String}

/-! ## One argument -/

theorem splitValue_joined (key : OptionKey) (value : String) :
    splitValue (key.name.toList ++ '=' :: value.toList) = (key.name, some value) := by
  simp only [splitValue, Text.takeWhile_append_cons key.equals_not_mem_name,
    Text.dropWhile_append_cons key.equals_not_mem_name, String.ofList_toList]

theorem splitValue_flag (key : OptionKey) : splitValue key.name.toList = (key.name, none) := by
  simp only [splitValue, Text.takeWhile_of_not_mem key.equals_not_mem_name,
    Text.dropWhile_of_not_mem key.equals_not_mem_name, String.ofList_toList]

theorem of_splitValue {cs : List Char} {name : String} {value? : Option String}
    (h : splitValue cs = (name, value?)) :
    cs = name.toList ++ (value?.map fun value => '=' :: value.toList).getD [] := by
  by_cases hmem : '=' ∈ cs
  · obtain ⟨before, after, rfl, hbefore⟩ := List.eq_append_cons_of_mem hmem
    simp only [splitValue, Text.takeWhile_append_cons hbefore,
      Text.dropWhile_append_cons hbefore] at h
    cases h
    simp
  · simp only [splitValue, Text.takeWhile_of_not_mem hmem, Text.dropWhile_of_not_mem hmem] at h
    cases h
    simp

theorem long_joined {cs : List Char} (h : splitValue cs = (key.name, some value)) :
    state.long argument cs = state.settle >>= fun settled => settled.assign key value := by
  rw [long, h]
  cases key <;> rfl

theorem long_flag {cs : List Char} (h : splitValue cs = (key.name, none)) :
    state.long argument cs =
      state.settle >>= fun settled => .ok { settled with pending := some (key, none) } := by
  rw [long, h]
  cases key <;> rfl

theorem step_joined (state : ArgumentState) (key : OptionKey) (value : String) :
    state.step (key.joined value) = state.settle >>= fun settled => settled.assign key value := by
  simp only [step, key.toList_joined, long_joined (splitValue_joined key value)]

theorem step_flag (state : ArgumentState) (key : OptionKey) :
    state.step key.flag =
      state.settle >>= fun settled => .ok { settled with pending := some (key, none) } := by
  simp only [step, key.toList_flag, long_flag (splitValue_flag key)]

theorem step_plain (state : ArgumentState) (h : IsPlain argument) :
    state.step argument = state.plain argument := by
  rw [isPlain_iff] at h
  unfold step
  split
  · rename_i hlist
    exact absurd hlist (h _ _)
  · rename_i hlist
    exact absurd hlist (h _ _)
  · rfl

/-- What an argument can do: give an option with its value, begin an option, or be the value of the
    option before it. -/
inductive Stepped (state : ArgumentState) : String → ArgumentState → Prop where
  | joined (key : OptionKey) (value : String) {settled final : ArgumentState}
      (hsettle : state.settle = .ok settled) (hassign : settled.assign key value = .ok final) :
      Stepped state (key.joined value) final
  | flag (key : OptionKey) {settled : ArgumentState} (hsettle : state.settle = .ok settled) :
      Stepped state key.flag { settled with pending := some (key, none) }
  | plain (key : OptionKey) {argument : String} (hplain : IsPlain argument)
      (hpending : state.pending = some (key, none)) :
      Stepped state argument { state with pending := some (key, some argument) }

theorem stopWith_ne_ok (stop : ArgumentStop) : state.stopWith stop ≠ .ok final := by
  intro h
  obtain ⟨_, _, h⟩ := (bind_eq_ok_iff _ _ _).1 h
  cases h

theorem long_ne_ok {cs : List Char} {name : String} {value? : Option String}
    (hsplit : splitValue cs = (name, value?)) (hname : OptionKey.ofName? name = none) :
    state.long argument cs ≠ .ok final := by
  intro h
  rw [long, hsplit] at h
  split at h
  · exact stopWith_ne_ok _ h
  · exact stopWith_ne_ok _ h
  · rename_i heq
    cases heq
    rw [hname] at h
    split at h <;> cases h

theorem stepped_of_long {cs : List Char} (hlist : argument.toList = '-' :: '-' :: cs)
    (h : state.long argument cs = .ok final) : Stepped state argument final := by
  obtain ⟨name, value?, hsplit⟩ : ∃ name value?, splitValue cs = (name, value?) := ⟨_, _, rfl⟩
  rw [of_splitValue hsplit] at hlist
  cases hname : OptionKey.ofName? name with
  | none => exact absurd h (long_ne_ok hsplit hname)
  | some key =>
      obtain rfl := OptionKey.name_of_ofName? hname
      cases value? with
      | none =>
          rw [long_flag hsplit] at h
          obtain ⟨settled, hsettle, hfinal⟩ := (bind_eq_ok_iff _ _ _).1 h
          cases hfinal
          obtain rfl : argument = key.flag := by
            rw [← String.toList_inj, key.toList_flag, hlist]
            simp
          exact .flag key hsettle
      | some value =>
          rw [long_joined hsplit] at h
          obtain ⟨settled, hsettle, hassign⟩ := (bind_eq_ok_iff _ _ _).1 h
          obtain rfl : argument = key.joined value := by
            rw [← String.toList_inj, key.toList_joined, hlist]
            simp
          exact .joined key value hsettle hassign

theorem short_ne_ok {letter : Char} : state.short argument letter ≠ .ok final := by
  intro h
  unfold short at h
  split at h
  · exact stopWith_ne_ok _ h
  · split at h
    · exact stopWith_ne_ok _ h
    · cases h

/-- **One argument** that is taken does one of these. -/
theorem stepped_of_step (h : state.step argument = .ok final) : Stepped state argument final := by
  by_cases hplain : IsPlain argument
  · rw [step_plain state hplain, plain] at h
    split at h
    · rename_i key hpending
      cases h
      exact .plain key hplain hpending
    · cases h
  · unfold step at h
    split at h
    · rename_i hlist
      exact stepped_of_long hlist h
    · exact absurd h short_ne_ok
    · rename_i hlong hshort
      exact absurd ((isPlain_iff _).2 hshort) hplain

/-! ## Taking values -/

theorem assign_eq_ok_iff (state : ArgumentState) (key : OptionKey) (value : String)
    (final : ArgumentState) :
    state.assign key value = .ok final ↔
      key ∉ state.given ∧ ∃ x, key.read? value = some x ∧
        { state with options := state.options.set key x, given := key :: state.given } = final := by
  unfold assign
  split
  · rename_i hmem
    exact iff_of_false (by simp) fun h => h.1 hmem
  · rename_i hmem
    cases htake : state.options.take key value with
    | ok options =>
        obtain ⟨x, hread, hset⟩ := (Options.take_eq_ok_iff _ _).1 htake
        simp [hmem, hread, hset]
    | error problem =>
        refine iff_of_false (by simp) ?_
        rintro ⟨-, x, hread, -⟩
        rw [(Options.take_eq_ok_iff _ _).2 ⟨x, hread, rfl⟩] at htake
        cases htake

theorem pending_of_assign (h : state.assign key value = .ok final) :
    final.pending = state.pending := by
  obtain ⟨-, x, -, rfl⟩ := (assign_eq_ok_iff _ _ _ _).1 h
  rfl

/-- Takes the values of options in order. -/
def assignAll (state : ArgumentState) (given : List (OptionKey × String)) :
    Except ArgumentStop ArgumentState :=
  given.foldlM (fun state g => state.assign g.1 g.2) state

theorem assignAll_cons (state : ArgumentState) (g : OptionKey × String)
    (given : List (OptionKey × String)) :
    state.assignAll (g :: given) =
      state.assign g.1 g.2 >>= fun assigned => assigned.assignAll given := by
  rw [assignAll, List.foldlM_cons]
  rfl

theorem assignAll_append (state : ArgumentState) (given more : List (OptionKey × String)) :
    state.assignAll (given ++ more) =
      state.assignAll given >>= fun assigned => assigned.assignAll more := by
  rw [assignAll, List.foldlM_append]
  rfl

/-! ## All arguments -/

theorem settle_of_pending_none (h : state.pending = none) : state.settle = .ok state := by
  rw [settle, h]

theorem pending_of_settle (h : state.settle = .ok final) : final.pending = none := by
  unfold settle at h
  split at h
  · rename_i hpending
    cases h
    exact hpending
  · cases h
  · exact pending_of_assign h

/-- No option is waiting for its value. -/
def Settles (state : ArgumentState) : Prop := ∀ key, state.pending ≠ some (key, none)

theorem settles_of_pending_none (h : state.pending = none) : state.Settles := by
  intro key hpending
  rw [h] at hpending
  cases hpending

/-- An option that has its value waits for none. -/
theorem settles_valued (state : ArgumentState) (key : OptionKey) (value : String) :
    ({ state with pending := some (key, some value) } : ArgumentState).Settles := by
  rintro _ ⟨⟩

theorem settles_of_settle (h : state.settle = .ok final) : state.Settles := by
  intro key hpending
  rw [settle, hpending] at h
  cases h

theorem ne_dashes_of_isPlain (h : IsPlain argument) : argument ≠ "--" := by
  rintro rfl
  exact absurd h (by decide)

theorem readAll_cons (state : ArgumentState) (h : argument ≠ "--") (rest : List String) :
    state.readAll (argument :: rest) =
      state.step argument >>= fun stepped => stepped.readAll rest := by
  rw [readAll.eq_def]
  exact if_neg h

end ArgumentState

open ArgumentState

/-- **Reading arguments** takes the values that they give, in order, after that of an option that is
    still to be looked at. -/
theorem Gives.readAll_eq {arguments : List String} {given : List (OptionKey × String)}
    (h : Gives arguments given) {state : ArgumentState} (hsettles : state.Settles) :
    state.readAll arguments = state.settle >>= fun settled => settled.assignAll given := by
  -- on the grammar: behind each option the state settles again, so `ih` applies to what follows
  induction h generalizing state with
  | done => exact (bind_pure _).symm
  | dashes => exact (bind_pure _).symm
  | joined key value h ih =>
      rw [readAll_cons state (key.joined_ne_dashes value), step_joined]
      cases hsettle : state.settle with
      | error stop => rfl
      | ok settled =>
          show (settled.assign key value >>= _) = settled.assignAll _
          rw [assignAll_cons]
          cases hassign : settled.assign key value with
          | error stop => rfl
          | ok assigned =>
              have hpending : assigned.pending = none :=
                (pending_of_assign hassign).trans (pending_of_settle hsettle)
              show assigned.readAll _ = assigned.assignAll _
              rw [ih (settles_of_pending_none hpending), settle_of_pending_none hpending]
              rfl
  | @apart key value hvalue rest given h ih =>
      rw [readAll_cons state key.flag_ne_dashes, step_flag]
      cases hsettle : state.settle with
      | error stop => rfl
      | ok settled =>
          have hpending := pending_of_settle hsettle
          show ({ settled with pending := some (key, none) } : ArgumentState).readAll _ =
            settled.assignAll _
          rw [readAll_cons _ (ne_dashes_of_isPlain hvalue), step_plain _ hvalue, assignAll_cons]
          -- the value is only kept here: what follows takes it before anything else
          show ({ settled with pending := some (key, some value) } : ArgumentState).readAll _ = _
          rw [ih (settles_valued settled key value)]
          show ({ settled with pending := none } : ArgumentState).assign key value >>= _ = _
          rw [← hpending]

/-- Arguments that may follow in a state: what gives options, behind the value of the option that is
    waiting for one. -/
inductive Continues (state : ArgumentState) : List String → Prop where
  | settled (hsettles : state.Settles) {arguments : List String}
      {given : List (OptionKey × String)} (hgives : Gives arguments given) :
      Continues state arguments
  | waiting (key : OptionKey) (hpending : state.pending = some (key, none)) {value : String}
      (hvalue : IsPlain value) {rest : List String} {given : List (OptionKey × String)}
      (hgives : Gives rest given) : Continues state (value :: rest)

theorem Continues.exists_gives {state : ArgumentState} {arguments : List String}
    (h : Continues state arguments) (hsettles : state.Settles) :
    ∃ given, Gives arguments given := by
  cases h with
  | settled _ hgives => exact ⟨_, hgives⟩
  | waiting key hpending _ _ => exact absurd hpending (hsettles key)

/-- What one argument does is continued by arguments that it stands before. -/
theorem ArgumentState.Stepped.continues {state stepped : ArgumentState} {argument : String}
    (h : Stepped state argument stepped) {rest : List String} (hrest : Continues stepped rest) :
    Continues state (argument :: rest) := by
  cases h with
  | joined key value hsettle hassign =>
      have hpending : stepped.pending = none :=
        (pending_of_assign hassign).trans (pending_of_settle hsettle)
      obtain ⟨given, hgives⟩ := hrest.exists_gives (settles_of_pending_none hpending)
      exact .settled (settles_of_settle hsettle) (.joined key value hgives)
  | flag key hsettle =>
      cases hrest with
      | settled hsettles _ => exact absurd rfl (hsettles key)
      | waiting _ _ hvalue hgives =>
          exact .settled (settles_of_settle hsettle) (.apart key hvalue hgives)
  | plain key hplain hpending =>
      obtain ⟨given, hgives⟩ := hrest.exists_gives (settles_valued state key argument)
      exact .waiting key hpending hplain hgives

theorem continues_of_readAll {arguments : List String} {state final : ArgumentState}
    (h : state.readAll arguments = .ok final) : Continues state arguments := by
  induction arguments generalizing state with
  | nil => exact .settled (settles_of_settle h) .done
  | cons argument rest ih =>
      by_cases hdashes : argument = "--"
      · subst hdashes
        cases rest with
        | nil => exact .settled (settles_of_settle h) .dashes
        | cons next _ => cases h
      · rw [readAll_cons _ hdashes] at h
        obtain ⟨stepped, hstep, hrest⟩ := (bind_eq_ok_iff _ _ _).1 h
        exact (stepped_of_step hstep).continues (ih hrest)

theorem readAll_start_eq_ok_iff (arguments : List String) (final : ArgumentState) :
    start.readAll arguments = .ok final ↔
      ∃ given, Gives arguments given ∧ start.assignAll given = .ok final := by
  have hsettles : start.Settles := settles_of_pending_none rfl
  have hread : ∀ given, Gives arguments given →
      start.readAll arguments = start.assignAll given := by
    intro given hgives
    rw [hgives.readAll_eq hsettles, settle_of_pending_none rfl]
    rfl
  constructor
  · intro h
    obtain ⟨given, hgives⟩ := (continues_of_readAll h).exists_gives hsettles
    exact ⟨given, hgives, (hread given hgives).symm.trans h⟩
  · rintro ⟨given, hgives, h⟩
    exact (hread given hgives).trans h

end AdmissionRules
