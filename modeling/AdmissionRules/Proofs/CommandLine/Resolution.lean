import AdmissionRules.Proofs.Ascending
import AdmissionRules.Proofs.CommandLine.Arguments

set_option autoImplicit false

/-! # Where the values of options come from

Taking values in order succeeds if no option is given two and every value can be read
(`assignAll_eq_ok_iff`). The environment is taken like further arguments for the options that no
argument has given (`readVariables_eq`). So the program accepts arguments exactly if they give
options, none of them twice, and the text in effect for each option (`textInEffect`) can be read;
where there is no text the default stands (`Options.parse_iff`). Hence all values are valid
(`Options.valid_of_parse`). -/

namespace AdmissionRules

open ArgumentState

/-! ## The values taken -/

/-- The value of an option by a text, or one to fall back on where there is none. -/
def OptionKey.resolve? (key : OptionKey) (text? : Option String) (fallback : key.Value) :
    Option key.Value :=
  match text? with
  | some s => key.read? s
  | none => some fallback

/-- To resolve with one more text is to put in its value first. -/
theorem resolve?_cons_iff {key : OptionKey} {given : List (OptionKey × String)}
    (hkey : key ∉ given.map (·.1)) (value : String) (o final : Options) :
    (∀ other, OptionKey.resolve? other (((key, value) :: given).lookup other) (o.value other) =
        some (final.value other)) ↔
      ∃ x, key.read? value = some x ∧
        ∀ other, OptionKey.resolve? other (given.lookup other) ((o.set key x).value other) =
          some (final.value other) := by
  have hnone : given.lookup key = none := (Ascending.lookup_eq_none_iff given key).2 hkey
  -- neither the value put in nor the text behind it is looked at for another option
  have hother : ∀ other, other ≠ key → ∀ x,
      (OptionKey.resolve? other (((key, value) :: given).lookup other) (o.value other) =
          some (final.value other) ↔
        OptionKey.resolve? other (given.lookup other) ((o.set key x).value other) =
          some (final.value other)) := by
    intro other h x
    rw [o.value_set_of_ne x h, List.lookup_cons, beq_false_of_ne h]
  constructor
  · intro h
    have hread := h key
    rw [List.lookup_cons_self] at hread
    refine ⟨_, hread, fun other => ?_⟩
    by_cases heq : other = key
    · subst heq
      rw [hnone, o.value_set]
      rfl
    · exact (hother other heq _).1 (h other)
  · rintro ⟨x, hread, h⟩ other
    by_cases heq : other = key
    · subst heq
      have hx := h other
      rw [hnone, o.value_set] at hx
      rw [List.lookup_cons_self]
      exact hread.trans hx
    · exact (hother other heq x).2 (h other)

/-- **Taking values in order** succeeds if no option has a value already or is given two, and every
    value can be read. Then the options given have their values, and the others keep theirs. -/
theorem assignAll_eq_ok_iff (given : List (OptionKey × String)) (state final : ArgumentState) :
    state.assignAll given = .ok final ↔
      (given.map (·.1)).Nodup ∧ (∀ g ∈ given, g.1 ∉ state.given) ∧
      final.given = (given.map (·.1)).reverse ++ state.given ∧ final.pending = state.pending ∧
      ∀ key, key.resolve? (given.lookup key) (state.options.value key) =
        some (final.options.value key) := by
  induction given generalizing state with
  | nil =>
      constructor
      · rintro ⟨⟩
        exact ⟨List.nodup_nil, List.forall_mem_nil _, rfl, rfl, fun _ => rfl⟩
      · rintro ⟨-, -, hgiven, hpending, hvalues⟩
        have hoptions : state.options = final.options :=
          Options.eq_of_value_eq fun key => Option.some.inj (hvalues key)
        obtain ⟨options, given, pending⟩ := final
        cases hgiven
        cases hpending
        cases hoptions
        rfl
  | cons g rest ih =>
      obtain ⟨key, value⟩ := g
      rw [assignAll_cons, bind_eq_ok_iff, List.map_cons, List.nodup_cons, List.forall_mem_cons]
      have hreverse : (key :: rest.map (·.1)).reverse ++ state.given =
          (rest.map (·.1)).reverse ++ key :: state.given := by
        simp
      constructor
      · rintro ⟨assigned, hassign, hrest⟩
        -- the rest is taken where `key` is given already, so it does not give it again
        obtain ⟨hfree, x, hread, rfl⟩ := (assign_eq_ok_iff _ _ _ _).1 hassign
        obtain ⟨hnodup, hapart, hgiven, hpending, hvalues⟩ := (ih _).1 hrest
        have hkey : key ∉ rest.map (·.1) := by
          rw [List.mem_map]
          rintro ⟨g, hg, rfl⟩
          exact hapart g hg List.mem_cons_self
        exact ⟨⟨hkey, hnodup⟩, ⟨hfree, fun g hg => List.not_mem_of_not_mem_cons (hapart g hg)⟩,
          hgiven.trans hreverse.symm, hpending,
          (resolve?_cons_iff hkey _ _ _).2 ⟨x, hread, hvalues⟩⟩
      · rintro ⟨⟨hkey, hnodup⟩, ⟨hfree, hapart⟩, hgiven, hpending, hvalues⟩
        obtain ⟨x, hread, hvalues⟩ := (resolve?_cons_iff hkey _ _ _).1 hvalues
        refine ⟨_, (assign_eq_ok_iff _ _ _ _).2 ⟨hfree, x, hread, rfl⟩, (ih _).2
          ⟨hnodup, fun g hg => ?_, hgiven.trans hreverse, hpending, hvalues⟩⟩
        rw [List.mem_cons, not_or]
        exact ⟨fun heq => hkey (heq ▸ List.mem_map_of_mem hg), hapart g hg⟩

/-! ## The environment -/

/-- What the environment gives for options that have not been given yet. -/
def remaining (given : List OptionKey) (lookup? : String → Option String)
    (keys : List OptionKey) : List (OptionKey × String) :=
  keys.filterMap fun key =>
    if key ∈ given then none else (lookup? key.variableName).map (key, ·)

variable (given : List OptionKey) (lookup? : String → Option String)

theorem keys_remaining (keys : List OptionKey) :
    (remaining given lookup? keys).map (·.1) =
      keys.filter fun key => key ∉ given ∧ (lookup? key.variableName).isSome := by
  induction keys with
  | nil => rfl
  | cons key rest ih =>
      rw [remaining] at ih ⊢
      rw [List.filterMap_cons, List.filter_cons]
      by_cases hmem : key ∈ given
      · simpa [hmem] using ih
      · cases hvalue : lookup? key.variableName with
        | none => simpa [hmem] using ih
        | some value => simpa [hmem] using ih

theorem lookup_remaining {key : OptionKey} {keys : List OptionKey} (hkey : key ∈ keys)
    (hfree : key ∉ given) :
    (remaining given lookup? keys).lookup key = lookup? key.variableName := by
  cases hvalue : lookup? key.variableName with
  | none =>
      rw [Ascending.lookup_eq_none_iff, keys_remaining, List.mem_filter]
      simp [hvalue]
  | some value =>
      induction keys with
      | nil => cases hkey
      | cons other rest ih =>
          rw [remaining] at ih ⊢
          by_cases heq : key = other
          · subst heq
            simp [hfree, hvalue]
          · have ih := ih ((List.mem_cons.1 hkey).resolve_left heq)
            by_cases hmem : other ∈ given
            · simpa [hmem] using ih
            · cases hother : lookup? other.variableName with
              | none => simpa [hmem, hother] using ih
              | some _ => simpa [hmem, hother, List.lookup_cons, beq_false_of_ne heq] using ih

theorem remaining_cons_of_not_mem {key : OptionKey} {keys : List OptionKey} (h : key ∉ keys) :
    remaining (key :: given) lookup? keys = remaining given lookup? keys := by
  refine List.filterMap_congr fun other hother => ?_
  have hne : other ≠ key := fun heq => h (heq ▸ hother)
  simp only [List.mem_cons, hne, false_or]

/-- **Reading the environment** takes what it gives for the options that no argument has given. -/
theorem readVariables_eq {keys : List OptionKey} (hkeys : keys.Nodup) (state : ArgumentState) :
    state.readVariables lookup? keys = state.assignAll (remaining state.given lookup? keys) := by
  induction keys generalizing state with
  | nil => rfl
  | cons key rest ih =>
      obtain ⟨hkey, hrest⟩ := List.nodup_cons.1 hkeys
      rw [readVariables, remaining, List.filterMap_cons]
      by_cases hmem : key ∈ state.given
      · simp only [hmem, if_true]
        exact ih hrest state
      · simp only [hmem, if_false]
        cases lookup? key.variableName with
        | none => exact ih hrest state
        | some value =>
            show (state.assign key value >>= _) = state.assignAll ((key, value) :: _)
            rw [assignAll_cons]
            cases hassign : state.assign key value with
            | error stop => rfl
            | ok assigned =>
                -- `key` is given now, but it does not come again among the rest
                obtain ⟨-, x, -, rfl⟩ := (assign_eq_ok_iff _ _ _ _).1 hassign
                refine (ih hrest _).trans ?_
                rw [remaining_cons_of_not_mem _ _ hkey]
                rfl

/-! ## Parsing -/

/-- The text in effect for an option: what arguments give, or else what the environment gives. -/
def textInEffect (given : List (OptionKey × String)) (lookup? : String → Option String)
    (key : OptionKey) : Option String :=
  (given.lookup key).or (lookup? key.variableName)

theorem given_of_assignAll {given : List (OptionKey × String)} {read : ArgumentState}
    (h : start.assignAll given = .ok read) : read.given = (given.map (·.1)).reverse := by
  obtain ⟨-, -, hgiven, -, -⟩ := (assignAll_eq_ok_iff _ _ _).1 h
  exact hgiven.trans (List.append_nil _)

theorem lookup_append_remaining (given : List (OptionKey × String)) (key : OptionKey) :
    (given ++ remaining (given.map (·.1)).reverse lookup? OptionKey.all).lookup key =
      textInEffect given lookup? key := by
  rw [List.lookup_append, textInEffect]
  cases hgiven : given.lookup key with
  | some value => rfl
  | none =>
      have hfree : key ∉ (given.map (·.1)).reverse := by
        rw [List.mem_reverse]
        exact (Ascending.lookup_eq_none_iff given key).1 hgiven
      rw [lookup_remaining _ _ key.mem_all hfree]

theorem nodup_append_remaining {given : List (OptionKey × String)}
    (h : (given.map (·.1)).Nodup) :
    ((given ++ remaining (given.map (·.1)).reverse lookup? OptionKey.all).map (·.1)).Nodup := by
  rw [List.map_append, keys_remaining]
  refine List.nodup_append.2 ⟨h, OptionKey.nodup_all.filter _, ?_⟩
  rintro key hkey _ hremaining rfl
  simp only [List.mem_filter, List.mem_reverse] at hremaining
  simp [hkey] at hremaining

/-- Arguments and environment are taken like one list of values. -/
theorem Options.parse_eq_ok_iff_assignAll (arguments : List String) (o : Options) :
    Options.parse arguments lookup? = .ok o ↔
      ∃ given final, Gives arguments given ∧ start.assignAll
        (given ++ remaining (given.map (·.1)).reverse lookup? OptionKey.all) = .ok final ∧
          final.options = o := by
  simp only [Options.parse, bind_eq_ok_iff, readAll_start_eq_ok_iff, assignAll_append,
    readVariables_eq lookup? OptionKey.nodup_all]
  constructor
  · rintro ⟨read, ⟨given, hgives, hread⟩, final, hfinal, ⟨⟩⟩
    rw [given_of_assignAll hread] at hfinal
    exact ⟨given, final, hgives, ⟨read, hread, hfinal⟩, rfl⟩
  · rintro ⟨given, final, hgives, ⟨read, hread, hfinal⟩, rfl⟩
    rw [← given_of_assignAll hread] at hfinal
    exact ⟨read, ⟨given, hgives, hread⟩, final, hfinal, rfl⟩

/-- **The program accepts arguments** exactly if they give options, none of them twice, and the text
    in effect for each option can be read. Then every option has the value by the text in effect,
    or its default where there is none. -/
theorem Options.parse_iff (arguments : List String) (o : Options) :
    Options.parse arguments lookup? = .ok o ↔
      ∃ given, Gives arguments given ∧ (given.map (·.1)).Nodup ∧
        ∀ key, key.resolve? (textInEffect given lookup? key) (Options.default.value key) =
          some (o.value key) := by
  rw [Options.parse_eq_ok_iff_assignAll]
  simp only [assignAll_eq_ok_iff, lookup_append_remaining]
  constructor
  · rintro ⟨given, final, hgives, ⟨hnodup, -, -, -, hvalues⟩, rfl⟩
    rw [List.map_append] at hnodup
    exact ⟨given, hgives, hnodup.of_append_left, hvalues⟩
  · rintro ⟨given, hgives, hnodup, hvalues⟩
    exact ⟨given, { options := o, given := _, pending := none }, hgives,
      ⟨nodup_append_remaining lookup? hnodup, fun _ _ => List.not_mem_nil, rfl, rfl, hvalues⟩, rfl⟩

theorem OptionKey.valid_of_resolve? {key : OptionKey} {text? : Option String}
    {fallback x : key.Value} (hfallback : key.Valid fallback)
    (h : key.resolve? text? fallback = some x) : key.Valid x := by
  cases text? with
  | some s => exact valid_of_read? h
  | none =>
      cases h
      exact hfallback

/-- **All values are valid** when the program accepts its arguments. -/
theorem Options.valid_of_parse {arguments : List String} {o : Options}
    (h : Options.parse arguments lookup? = .ok o) (key : OptionKey) : key.Valid (o.value key) := by
  obtain ⟨given, -, -, hvalues⟩ := (Options.parse_iff _ _ _).1 h
  exact OptionKey.valid_of_resolve? key.valid_default (hvalues key)

end AdmissionRules
