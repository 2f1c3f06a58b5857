import AdmissionRules.Kubernetes.Reference
import AdmissionRules.Proofs.Text.Separated
import Mathlib.Data.List.Count

set_option autoImplicit false

/-! # References are read as they are written

A text is a reference if it has one slash with something on both sides of it (`IsReference`). These
are the texts of the references whose parts are there and have no slash in them
(`WellFormed`, `exists_text_iff`), and reading such a text gives back the reference
(`parse_ok_iff`). So reading and writing are inverse to each other, and any other text comes back in
the error (`parse_exact`). -/

namespace AdmissionRules.NamespacedName

/-- A part of a reference is there, and has no slash in it. -/
def IsPart (s : String) : Prop := s ≠ "" ∧ '/' ∉ s.toList

instance : DecidablePred IsPart := fun s => inferInstanceAs (Decidable (s ≠ "" ∧ '/' ∉ s.toList))

/-- Both parts of a reference are there, and none has a slash in it. -/
def WellFormed (r : NamespacedName) : Prop := IsPart r.namespace ∧ IsPart r.name

instance : DecidablePred WellFormed :=
  fun r => inferInstanceAs (Decidable (IsPart r.namespace ∧ IsPart r.name))

/-- A text with exactly one slash, which has something before it and something behind. -/
def IsReference (s : String) : Prop :=
  s.toList.count '/' = 1 ∧ s.toList.head? ≠ some '/' ∧ s.toList.getLast? ≠ some '/'

instance : DecidablePred IsReference := fun s =>
  inferInstanceAs (Decidable
    (s.toList.count '/' = 1 ∧ s.toList.head? ≠ some '/' ∧ s.toList.getLast? ≠ some '/'))

variable {r : NamespacedName} {s : String}

theorem isPart_iff (s : String) : IsPart s ↔ s.toList ≠ [] ∧ '/' ∉ s.toList := by
  rw [IsPart, ne_eq, ne_eq, String.toList_eq_nil_iff]

theorem toList_text (r : NamespacedName) :
    r.text.toList = r.namespace.toList ++ '/' :: r.name.toList := by
  simp [text]

/-! ## Texts of references -/

theorem WellFormed.isReference (h : r.WellFormed) : IsReference r.text := by
  obtain ⟨hnamespace, hbefore⟩ := (isPart_iff _).1 h.1
  obtain ⟨hname, hafter⟩ := (isPart_iff _).1 h.2
  rw [IsReference, toList_text]
  refine ⟨?_, ?_, ?_⟩
  · rw [List.count_append, List.count_cons_self, List.count_eq_zero.2 hbefore,
      List.count_eq_zero.2 hafter]
  · rw [List.head?_append_of_ne_nil _ hnamespace]
    exact fun hhead => hbefore (List.mem_of_head? hhead)
  · rw [List.getLast?_append_of_ne_nil _ (List.cons_ne_nil _ _),
      List.getLast?_cons_of_ne_nil hname]
    exact fun hlast => hafter (List.mem_of_getLast? hlast)

theorem exists_text_iff (s : String) : (∃ r : NamespacedName, r.WellFormed ∧ r.text = s) ↔
    IsReference s := by
  constructor
  · rintro ⟨r, hr, rfl⟩
    exact hr.isReference
  · rintro ⟨hcount, hhead, hlast⟩
    have hmem : '/' ∈ s.toList := List.count_pos_iff.1 (by omega)
    obtain ⟨before, after, hs, hbefore⟩ := List.eq_append_cons_of_mem hmem
    rw [hs] at hcount hhead hlast
    have hafter : '/' ∉ after := by
      rw [← List.count_eq_zero]
      rw [List.count_append, List.count_cons_self] at hcount
      omega
    have hnamespace : before ≠ [] := by
      rintro rfl
      exact hhead rfl
    have hname : after ≠ [] := by
      rintro rfl
      exact hlast (by simp)
    refine ⟨{ «namespace» := .ofList before, name := .ofList after }, ⟨?_, ?_⟩, ?_⟩
    · simpa [isPart_iff] using And.intro hnamespace hbefore
    · simpa [isPart_iff] using And.intro hname hafter
    · rw [← String.toList_inj, toList_text, hs]
      simp

/-! ## Reading -/

theorem ofChars?_text (h : r.WellFormed) : ofChars? r.text.toList = some r := by
  obtain ⟨hnamespace, hbefore⟩ := (isPart_iff _).1 h.1
  obtain ⟨hname, hafter⟩ := (isPart_iff _).1 h.2
  simp only [ofChars?, toList_text, Text.dropWhile_append_cons hbefore,
    Text.takeWhile_append_cons hbefore, String.ofList_toList]
  rw [if_neg]
  simp [hnamespace, hname, hafter]

theorem wellFormed_of_ofChars? {cs : List Char} (h : ofChars? cs = some r) :
    r.WellFormed ∧ r.text.toList = cs := by
  by_cases hmem : '/' ∈ cs
  · obtain ⟨before, after, rfl, hbefore⟩ := List.eq_append_cons_of_mem hmem
    simp only [ofChars?, Text.dropWhile_append_cons hbefore,
      Text.takeWhile_append_cons hbefore] at h
    split at h
    · cases h
    · rename_i hparts
      cases h
      simp only [Bool.or_eq_true, List.isEmpty_iff, List.contains_iff_mem, not_or] at hparts
      obtain ⟨⟨hnamespace, hname⟩, hafter⟩ := hparts
      refine ⟨⟨?_, ?_⟩, ?_⟩
      · simpa [isPart_iff] using And.intro hnamespace hbefore
      · simpa [isPart_iff] using And.intro hname hafter
      · simp [toList_text]
  · simp only [ofChars?, Text.dropWhile_of_not_mem hmem] at h
    cases h

/-- **A reference is read from its text** and from no other. -/
theorem ofChars?_eq_some_iff (s : String) (r : NamespacedName) :
    ofChars? s.toList = some r ↔ r.WellFormed ∧ r.text = s := by
  constructor
  · intro h
    obtain ⟨hr, htext⟩ := wellFormed_of_ofChars? h
    exact ⟨hr, String.toList_inj.1 htext⟩
  · rintro ⟨hr, rfl⟩
    exact ofChars?_text hr

theorem parse_ok_iff (s : String) (r : NamespacedName) :
    parse s = .ok r ↔ r.WellFormed ∧ r.text = s := by
  rw [← ofChars?_eq_some_iff, parse]
  cases ofChars? s.toList <;> simp

theorem parse_error_iff (s : String) (e : Invalid) :
    parse s = .error e ↔ ¬ IsReference s ∧ e = { text := s } := by
  rw [← exists_text_iff]
  simp only [← ofChars?_eq_some_iff]
  rw [parse]
  cases ofChars? s.toList <;> simp [eq_comm]

/-- **Reading and writing of references are inverse to each other.** For every text, reading
    succeeds exactly if it has one slash with something on both sides of it, and the reference that
    is read then has this text; for every namespace and name, what is written for them is read as
    just these exactly if both are there and have no slash in them; and a text that is refused is
    in the error as it is. -/
theorem parse_exact (s : String) (r : NamespacedName) :
    ((∃ parsed, parse s = .ok parsed) ↔ IsReference s) ∧
    (parse s = .ok r ↔ r.WellFormed ∧ r.text = s) ∧
    (parse r.text = .ok r ↔ r.WellFormed) ∧
    ∀ e, parse s = .error e ↔ ¬ IsReference s ∧ e = { text := s } := by
  refine ⟨?_, parse_ok_iff s r, ?_, parse_error_iff s⟩
  · simp only [parse_ok_iff, exists_text_iff]
  · simp only [parse_ok_iff, and_true]

example : parse "a/b/c" = .error { text := "a/b/c" } := by
  decide

end AdmissionRules.NamespacedName
