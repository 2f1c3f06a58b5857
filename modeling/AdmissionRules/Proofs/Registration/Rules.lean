import AdmissionRules.Proofs.Registration.Configuration
import AdmissionRules.Proofs.Text.Separated
import Mathlib.Data.Prod.Lex

set_option autoImplicit false

/-! # The resources that the webhook is asked about

An entry of a policy calls for a resource that serves its kind: in the version that was found if
the entry names no API version, and otherwise in the version that it names, if the resource is of
the group that it names (`KindRules.Calls`). The main statement (`webhookRules_exact`) says that
the rules of the webhook are for exactly the targets called for, in strictly ascending order, each
with the scope that was called for last, and that an entry that calls for nothing changes
nothing. -/

namespace AdmissionRules

/-! ## API versions -/

/-- The text is the API version of a group and a version of it: the first slash stands between
    them, and a text without a slash is a version of the core group. -/
inductive NamesVersion : (apiVersion group version : String) → Prop where
  | core (version : String) (h : '/' ∉ version.toList) : NamesVersion version "" version
  | group (group version : String) (h : '/' ∉ group.toList) :
      NamesVersion (group ++ "/" ++ version) group version

theorem splitApiVersion_of_not_mem {s : String} (h : '/' ∉ s.toList) :
    splitApiVersion s = ("", s) := by
  simp only [splitApiVersion, Text.dropWhile_of_not_mem h]

theorem splitApiVersion_of_append {group : String} (version : String) (h : '/' ∉ group.toList) :
    splitApiVersion (group ++ "/" ++ version) = (group, version) := by
  have htext : (group ++ "/" ++ version).toList = group.toList ++ '/' :: version.toList := by
    simp
  simp only [splitApiVersion, htext, Text.dropWhile_append_cons h, Text.takeWhile_append_cons h,
    String.ofList_toList]

/-- **An API version is split at its first slash.** -/
theorem splitApiVersion_eq_iff (s group version : String) :
    splitApiVersion s = (group, version) ↔ NamesVersion s group version := by
  constructor
  · intro h
    by_cases hslash : '/' ∈ s.toList
    · obtain ⟨before, after, hs, hbefore⟩ := List.eq_append_cons_of_mem hslash
      have htext : s = String.ofList before ++ "/" ++ String.ofList after := by
        rw [← String.toList_inj, hs]
        simp
      have hgroup : '/' ∉ (String.ofList before).toList := by simpa using hbefore
      rw [htext, splitApiVersion_of_append _ hgroup] at h
      cases h
      rw [htext]
      exact .group _ _ hgroup
    · rw [splitApiVersion_of_not_mem hslash] at h
      cases h
      exact .core s hslash
  · intro h
    cases h with
    | core _ h => exact splitApiVersion_of_not_mem h
    | group _ _ h => exact splitApiVersion_of_append version h

/-! ## The order of targets -/

/-- Targets are compared by their groups, then by their versions, then by their names. -/
def WebhookTarget.key (t : WebhookTarget) : String ×ₗ String ×ₗ String :=
  toLex (t.group, toLex (t.version, t.plural))

namespace WebhookTarget

theorem key_injective : Function.Injective key := by
  rintro ⟨group, version, plural⟩ ⟨group', version', plural'⟩ h
  simp only [key, EmbeddingLike.apply_eq_iff_eq, Prod.mk.injEq] at h
  obtain ⟨rfl, rfl, rfl⟩ := h
  rfl

theorem before_iff (a b : WebhookTarget) : before a b = true ↔ a.key < b.key := by
  simp only [before, key, Prod.Lex.toLex_lt_toLex]
  split_ifs with hgroup hversion <;> simp_all [Text.textBefore_iff]

instance before_strictTotal : IsStrictTotalOrder WebhookTarget (before · ·) where
  trichotomous a b hab hba := by
    rw [before_iff] at hab hba
    exact key_injective (le_antisymm (not_lt.1 hba) (not_lt.1 hab))
  irrefl a h := lt_irrefl a.key ((before_iff a a).1 h)
  trans a b c hab hbc := by
    rw [before_iff] at hab hbc ⊢
    exact hab.trans hbc

end WebhookTarget

/-! ## What was found -/

theorem ServedResources.forKind_foldl_insert (found : List (String × ServedResource))
    (served : ServedResources) (kind : String) :
    forKind (found.foldl (fun served f => insert f.1 f.2 served) served) kind =
      served.forKind kind ++ (found.filter (·.1 = kind)).map (·.2) := by
  induction found generalizing served with
  | nil => simp
  | cons f rest ih =>
      have hinsert : (insert f.1 f.2 served).forKind kind =
          served.forKind kind ++ if f.1 = kind then [f.2] else [] := by
        unfold insert forKind
        rw [Ascending.get?_alter]
        by_cases hkind : f.1 = kind
        · simp [hkind]
        · simp [hkind, Ne.symm hkind]
      rw [List.foldl_cons, ih, hinsert]
      by_cases hkind : f.1 = kind <;> simp [hkind]

/-- The resources of a kind are those found for it, in their order. -/
theorem ServedResources.forKind_ofList (found : List (String × ServedResource)) (kind : String) :
    (ofList found).forKind kind = (found.filter (·.1 = kind)).map (·.2) :=
  forKind_foldl_insert found empty kind

/-! ## What entries call for -/

namespace KindRules

/-- An entry calls for a target because of a resource that serves its kind. -/
inductive Calls (entry : KindRules) (r : ServedResource) : WebhookTarget → Prop where
  | asFound (h : entry.apiVersion = none) :
      Calls entry r { group := r.group, version := r.version, plural := r.plural }
  | asNamed (apiVersion version : String) (h : entry.apiVersion = some apiVersion)
      (hnames : NamesVersion apiVersion r.group version) :
      Calls entry r { group := r.group, version, plural := r.plural }

/-- What an entry calls for because of a resource, if it does, with the scope of the resource. -/
def call? (entry : KindRules) (r : ServedResource) : Option (WebhookTarget × Bool) :=
  match entry.apiVersion with
  | some apiVersion =>
    let (group, version) := splitApiVersion apiVersion
    if r.group = group then some ((r.rule version).target, r.namespaced) else none
  | none => some ((r.rule r.version).target, r.namespaced)

theorem call?_eq_some_iff (entry : KindRules) (r : ServedResource) (target : WebhookTarget)
    (namespaced : Bool) :
    entry.call? r = some (target, namespaced) ↔
      entry.Calls r target ∧ r.namespaced = namespaced := by
  unfold call?
  cases hversion : entry.apiVersion with
  | none =>
      constructor
      · intro h
        cases h
        exact ⟨.asFound hversion, rfl⟩
      · rintro ⟨hcalls, rfl⟩
        cases hcalls with
        | asFound _ => rfl
        | asNamed _ _ h _ => exact absurd (hversion.symm.trans h) (by simp)
  | some apiVersion =>
      rcases hsplit : splitApiVersion apiVersion with ⟨group, version⟩
      simp only [hsplit, Option.ite_none_right_eq_some, Option.some.injEq, Prod.mk.injEq]
      constructor
      · rintro ⟨rfl, rfl, hscope⟩
        exact ⟨.asNamed apiVersion version hversion ((splitApiVersion_eq_iff _ _ _).1 hsplit),
          hscope⟩
      · rintro ⟨hcalls, hscope⟩
        cases hcalls with
        | asFound h => exact absurd (hversion.symm.trans h) (by simp)
        | asNamed apiVersion' version' h hnames =>
            obtain rfl := Option.some.inj (hversion.symm.trans h)
            rw [(splitApiVersion_eq_iff _ _ _).2 hnames] at hsplit
            cases hsplit
            exact ⟨rfl, rfl, hscope⟩

/-- The resources that serve the kinds of entries, each with its entry: entry after entry, and for
    each entry in the order in which they were found. -/
def servings (entries : List KindRules) (found : List (String × ServedResource)) :
    List (KindRules × ServedResource) :=
  entries.flatMap fun entry => (found.filter (·.1 = entry.kind)).map fun f => (entry, f.2)

theorem mem_servings (entries : List KindRules) (found : List (String × ServedResource))
    (entry : KindRules) (r : ServedResource) :
    (entry, r) ∈ servings entries found ↔ entry ∈ entries ∧ (entry.kind, r) ∈ found := by
  simp only [servings, List.mem_flatMap, List.mem_map, List.mem_filter, decide_eq_true_eq,
    Prod.mk.injEq]
  constructor
  · rintro ⟨entry, hentry, ⟨kind, r⟩, ⟨hfound, rfl⟩, rfl, rfl⟩
    exact ⟨hentry, hfound⟩
  · rintro ⟨hentry, hfound⟩
    exact ⟨entry, hentry, (entry.kind, r), ⟨hfound, rfl⟩, rfl, rfl⟩

theorem map_webhookRules (entry : KindRules) (served : ServedResources) :
    (entry.webhookRules served).map (fun r => (r.target, r.namespaced)) =
      (served.forKind entry.kind).filterMap entry.call? := by
  unfold webhookRules call?
  cases entry.apiVersion with
  | none =>
      rw [List.filterMap_eq_map', List.map_map]
      rfl
  | some apiVersion =>
      rcases hsplit : splitApiVersion apiVersion with ⟨group, version⟩
      simp only [hsplit]
      rw [List.map_map, ← List.filterMap_eq_map, List.filterMap_filter]
      congr 1
      funext r
      by_cases hgroup : r.group = group <;> simp [hgroup, ServedResource.rule]

theorem flatMap_webhookRules (entries : List KindRules)
    (found : List (String × ServedResource)) :
    (entries.flatMap (webhookRules (.ofList found))).map (fun r => (r.target, r.namespaced)) =
      (servings entries found).filterMap fun s => s.1.call? s.2 := by
  unfold servings
  rw [List.map_flatMap, List.filterMap_flatMap]
  congr 1
  funext entry
  rw [map_webhookRules, ServedResources.forKind_ofList, List.filterMap_map, List.filterMap_map]
  rfl

end KindRules

/-! ## The rules of the webhook -/

theorem WebhookRule.get?_toJson_operations (r : WebhookRule) :
    r.toJson.get? "operations" = some (.ofStrings ["CREATE", "UPDATE"]) := by
  rw [toJson, Json.get?_ofMembers]
  rfl

section Rules

open KindRules

variable (entries : List KindRules) (found : List (String × ServedResource))

/-- The scopes by target, from which the rules are made. -/
def targetScopes : List (WebhookTarget × Bool) :=
  ((servings entries found).filterMap fun s => s.1.call? s.2).foldl
    (fun acc e => Ascending.insertBy WebhookTarget.before e.1 e.2 acc) []

theorem webhookRules_eq :
    webhookRules entries (.ofList found) =
      (targetScopes entries found).map fun e => { target := e.1, namespaced := e.2 } := by
  unfold webhookRules targetScopes
  rw [← flatMap_webhookRules, List.foldl_map]

theorem targetScopes_pairwise :
    (Ascending.keys (targetScopes entries found)).Pairwise (WebhookTarget.before · ·) :=
  Ascending.foldl_insertBy_keys_pairwise WebhookTarget.before _ List.Pairwise.nil

theorem mem_keys_targetScopes (target : WebhookTarget) :
    target ∈ Ascending.keys (targetScopes entries found) ↔
      ∃ entry ∈ entries, ∃ r, (entry.kind, r) ∈ found ∧ entry.Calls r target := by
  have hnil : target ∉ Ascending.keys ([] : List (WebhookTarget × Bool)) := List.not_mem_nil
  unfold targetScopes
  rw [Ascending.mem_keys_foldl_insertBy, or_iff_left hnil]
  simp only [Ascending.keys, List.mem_map, List.mem_filterMap]
  constructor
  · rintro ⟨⟨target, namespaced⟩, ⟨⟨entry, r⟩, hs, hcall⟩, rfl⟩
    obtain ⟨hentry, hr⟩ := (mem_servings _ _ _ _).1 hs
    exact ⟨entry, hentry, r, hr, ((call?_eq_some_iff _ _ _ _).1 hcall).1⟩
  · rintro ⟨entry, hentry, r, hr, hcalls⟩
    exact ⟨(target, r.namespaced), ⟨(entry, r), (mem_servings _ _ _ _).2 ⟨hentry, hr⟩,
      (call?_eq_some_iff _ _ _ _).2 ⟨hcalls, rfl⟩⟩, rfl⟩

theorem mem_targetScopes (target : WebhookTarget) (namespaced : Bool) :
    (target, namespaced) ∈ targetScopes entries found ↔
      ∃ before s after, servings entries found = before ++ s :: after ∧
        (s.1.Calls s.2 target ∧ s.2.namespaced = namespaced) ∧
        ∀ later ∈ after, ¬ later.1.Calls later.2 target := by
  have hnodup : (Ascending.keys (targetScopes entries found)).Nodup :=
    (targetScopes_pairwise entries found).imp fun h => Ascending.ne_of_before _ h
  have hget : Ascending.get? target (targetScopes entries found) =
      ((servings entries found).filterMap fun s => s.1.call? s.2).reverse.lookup target :=
    (Ascending.get?_foldl_insertBy WebhookTarget.before _ [] target).trans Option.or_none
  have hsome : (target, namespaced) ∈ targetScopes entries found ↔
      Ascending.get? target (targetScopes entries found) = some namespaced :=
    ⟨Ascending.get?_of_nodup hnodup, Ascending.mem_of_get?⟩
  rw [hsome, hget, Ascending.lookup_reverse_filterMap_eq_some_iff]
  simp only [call?_eq_some_iff, ne_eq, not_and, forall_eq', imp_not_comm]

/-- An entry calls for nothing if no resource serves its kind, or none of the group that it
    names. -/
inductive KindRules.Unserved (entry : KindRules) : Prop where
  | kind (h : ∀ r, (entry.kind, r) ∉ found) : Unserved entry
  | group (apiVersion group version : String) (hversion : entry.apiVersion = some apiVersion)
      (hnames : NamesVersion apiVersion group version)
      (h : ∀ r, (entry.kind, r) ∈ found → r.group ≠ group) : Unserved entry

theorem KindRules.Unserved.not_calls {found : List (String × ServedResource)} {entry : KindRules}
    (h : Unserved found entry) {r : ServedResource} (hr : (entry.kind, r) ∈ found)
    (target : WebhookTarget) : ¬ entry.Calls r target := by
  intro hcalls
  cases h with
  | kind h => exact h r hr
  | group apiVersion group version hversion hnames h =>
      cases hcalls with
      | asFound hnone => exact absurd (hversion.symm.trans hnone) (by simp)
      | asNamed apiVersion' version' hversion' hnames' =>
          obtain rfl := Option.some.inj (hversion.symm.trans hversion')
          have hsplit := (splitApiVersion_eq_iff _ _ _).2 hnames
          rw [(splitApiVersion_eq_iff _ _ _).2 hnames'] at hsplit
          exact h r hr (Prod.mk.inj hsplit).1

/-- What calls for nothing can be left out. -/
theorem targetScopes_of_unserved {before after : List KindRules} {entry : KindRules}
    (h : Unserved found entry) :
    targetScopes (before ++ entry :: after) found = targetScopes (before ++ after) found := by
  have hsilent : (servings [entry] found).filterMap (fun s => s.1.call? s.2) = [] := by
    rw [List.filterMap_eq_nil_iff]
    rintro ⟨entry', r⟩ hs
    obtain ⟨hentry, hr⟩ := (mem_servings _ _ _ _).1 hs
    obtain rfl := List.mem_singleton.1 hentry
    rw [Option.eq_none_iff_forall_ne_some]
    rintro ⟨target, namespaced⟩ hcall
    exact h.not_calls hr target ((call?_eq_some_iff _ _ _ _).1 hcall).1
  have happend : ∀ xs ys, servings (xs ++ ys) found = servings xs found ++ servings ys found :=
    fun xs ys => List.flatMap_append
  unfold targetScopes
  rw [List.append_cons, happend, happend, happend, List.filterMap_append, List.filterMap_append,
    hsilent, List.append_nil, List.filterMap_append]

/-- **The webhook asks about exactly the resources that the policy calls for**, whatever entries it
    has and whatever was found. Its rules stand in strictly ascending order of group, version and
    name, so no target stands twice, and each is for what is created and updated. There is a rule
    for a target if and only if some entry calls for it because of a resource found for its kind;
    its scope is that of the last such pair in the order of the entries, then in the order in which
    the resources were found. An entry whose kind no resource serves, or none of the group that it
    names, could as well not be there. -/
theorem webhookRules_exact :
    ((webhookRules entries (.ofList found)).map (·.target.key)).Pairwise (· < ·) ∧
    (∀ r ∈ webhookRules entries (.ofList found),
      r.toJson.get? "operations" = some (.ofStrings ["CREATE", "UPDATE"]) ∧
      r.toJson.get? "apiGroups" = some (.ofStrings [r.target.group]) ∧
      r.toJson.get? "apiVersions" = some (.ofStrings [r.target.version]) ∧
      r.toJson.get? "resources" = some (.ofStrings [r.target.plural]) ∧
      r.toJson.get? "scope" = some (.string (if r.namespaced then "Namespaced" else "Cluster"))) ∧
    (∀ target, target ∈ (webhookRules entries (.ofList found)).map (·.target) ↔
      ∃ entry ∈ entries, ∃ r, (entry.kind, r) ∈ found ∧ entry.Calls r target) ∧
    (∀ target namespaced, { target, namespaced } ∈ webhookRules entries (.ofList found) ↔
      ∃ before s after, servings entries found = before ++ s :: after ∧
        (s.1.Calls s.2 target ∧ s.2.namespaced = namespaced) ∧
        ∀ later ∈ after, ¬ later.1.Calls later.2 target) ∧
    (∀ before entry after, entries = before ++ entry :: after → Unserved found entry →
      webhookRules entries (.ofList found) = webhookRules (before ++ after) (.ofList found)) := by
  -- all of it is about one ascending map from targets to scopes
  have htargets : (webhookRules entries (.ofList found)).map (·.target) =
      Ascending.keys (targetScopes entries found) := by
    simp [webhookRules_eq, Ascending.keys]
  refine ⟨?_, ?_, ?_, ?_, ?_⟩
  · have hkeys : (webhookRules entries (.ofList found)).map (·.target.key) =
        ((webhookRules entries (.ofList found)).map (·.target)).map WebhookTarget.key := by
      rw [List.map_map]
      rfl
    rw [hkeys, htargets, List.pairwise_map]
    exact (targetScopes_pairwise entries found).imp fun h => (WebhookTarget.before_iff _ _).1 h
  · intro r _
    exact ⟨r.get?_toJson_operations, r.get?_toJson⟩
  · intro target
    rw [htargets, mem_keys_targetScopes]
  · intro target namespaced
    have hmem : { target, namespaced } ∈ webhookRules entries (.ofList found) ↔
        (target, namespaced) ∈ targetScopes entries found := by
      simp [webhookRules_eq]
    rw [hmem, mem_targetScopes]
  · rintro before entry after rfl hentry
    rw [webhookRules_eq, webhookRules_eq, targetScopes_of_unserved found hentry]

-- a kind that two groups serve, and an entry that names one of them
example :
    webhookRules [{ apiVersion := some "events.k8s.io/v2", kind := "Event", rules := [] },
        { apiVersion := none, kind := "Event", rules := [] }]
      (.ofList [("Event", ⟨"events.k8s.io", "v1", "events", true⟩),
        ("Event", ⟨"", "v1", "events", true⟩)]) =
      [⟨⟨"", "v1", "events"⟩, true⟩, ⟨⟨"events.k8s.io", "v1", "events"⟩, true⟩,
        ⟨⟨"events.k8s.io", "v2", "events"⟩, true⟩] := by
  decide +kernel

end Rules

end AdmissionRules
