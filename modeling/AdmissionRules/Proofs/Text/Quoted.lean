import AdmissionRules.Proofs.Text.Separated
import AdmissionRules.Text.Quoted

set_option autoImplicit false

/-! # Quoted texts can be told apart

A character inside quotes is written as itself, as a backslash and a letter, or by its code
(`Written`). None of these is the beginning of another, and none begins with a quote, so what is
quoted can be told whatever follows (`quotedChars_append_inj`), and so can a list of texts
(`quotedList_inj`).

Where such a text ends is told by going through it: `Quoting.after` says whether some characters end
inside quotes or outside of them, where only brackets, commas and blanks may stand. The same
characters cannot end outside both from within quotes and from outside of them
(`Quoting.not_outside_of_inside`). -/

namespace AdmissionRules.Text

/-! ## Codes -/

theorem exists_digitChar_of_mem_toDigits {n : Nat} {c : Char} (h : c ∈ Nat.toDigits 16 n) :
    ∃ k, c = Nat.digitChar k := by
  induction n using Nat.strongRecOn with
  | ind n ih =>
      rw [Nat.toDigits_eq_if (by decide)] at h
      split at h
      · exact ⟨n, List.mem_singleton.1 h⟩
      · rename_i hn
        rcases List.mem_append.1 h with h | h
        · exact ih (n / 16) (by omega) h
        · exact ⟨n % 16, List.mem_singleton.1 h⟩

theorem digitChar_inj {m n : Nat} (hm : m < 16) (hn : n < 16)
    (h : Nat.digitChar m = Nat.digitChar n) : m = n := by
  have hall : ∀ i < 16, ∀ j < 16, Nat.digitChar i = Nat.digitChar j → i = j := by decide
  exact hall m hm n hn h

theorem toDigits_inj {m n : Nat} (h : Nat.toDigits 16 m = Nat.toDigits 16 n) : m = n := by
  induction m using Nat.strongRecOn generalizing n with
  | ind m ih =>
      rw [Nat.toDigits_eq_if (by decide), Nat.toDigits_eq_if (n := n) (by decide)] at h
      split at h
      · rename_i hm
        split at h
        · rename_i hn
          exact digitChar_inj hm hn (List.singleton_inj.1 h)
        · have happend : [] ++ [Nat.digitChar m] = Nat.toDigits 16 (n / 16) ++ [_] := h
          exact absurd (List.append_inj' happend rfl).1.symm Nat.toDigits_ne_nil
      · rename_i hm
        split at h
        · have happend : Nat.toDigits 16 (m / 16) ++ [_] = [] ++ [Nat.digitChar n] := h
          exact absurd (List.append_inj' happend rfl).1 Nat.toDigits_ne_nil
        · rename_i hn
          obtain ⟨hhigh, hlow⟩ := List.append_inj' h rfl
          have hhigh := ih (m / 16) (by omega) hhigh
          have hlow := digitChar_inj (Nat.mod_lt _ (by decide)) (Nat.mod_lt _ (by decide))
            (List.singleton_inj.1 hlow)
          omega

theorem hexCode_inj {c d : Char} (h : hexCode c = hexCode d) : c = d :=
  Char.toNat_inj.1 (toDigits_inj h)

/-- A code holds neither a quote nor a backslash nor a brace. -/
theorem ne_of_mem_hexCode {c d : Char} (h : d ∈ hexCode c) : d ≠ '"' ∧ d ≠ '\\' ∧ d ≠ '\x7d' := by
  obtain ⟨k, rfl⟩ := exists_digitChar_of_mem_toDigits h
  exact ⟨Nat.digitChar_ne '"' (by decide), Nat.digitChar_ne '\\' (by decide),
    Nat.digitChar_ne '\x7d' (by decide)⟩

/-! ## Characters inside quotes -/

/-- The characters that are written by a letter, with the letter. -/
def letters : List (Char × Char) :=
  [('"', '"'), ('\\', '\\'), ('\x00', '0'), ('\t', 't'), ('\r', 'r'), ('\n', 'n')]

/-- How a character is written inside quotes. -/
inductive Written (c : Char) : List Char → Prop where
  | plain (hquote : c ≠ '"') (hbackslash : c ≠ '\\') : Written c [c]
  | letter (l : Char) (h : (c, l) ∈ letters) : Written c ['\\', l]
  | code : Written c ('\\' :: 'u' :: '\x7b' :: (hexCode c ++ ['\x7d']))

theorem quotedChar_written (c : Char) : Written c (quotedChar c) := by
  unfold quotedChar
  have hletter : ∀ p ∈ letters, c = p.1 → Written c ['\\', p.2] := by
    rintro ⟨d, l⟩ hp rfl
    exact .letter l hp
  split_ifs with hquote hbackslash hnull htab hreturn hnewline hunprinted
  · exact hletter ('"', '"') (by decide) hquote
  · exact hletter ('\\', '\\') (by decide) hbackslash
  · exact hletter ('\x00', '0') (by decide) hnull
  · exact hletter ('\t', 't') (by decide) htab
  · exact hletter ('\r', 'r') (by decide) hreturn
  · exact hletter ('\n', 'n') (by decide) hnewline
  · exact .code
  · exact .plain hquote hbackslash

theorem letter_inj {c d l : Char} (hc : (c, l) ∈ letters) (hd : (d, l) ∈ letters) : c = d := by
  have hall : ∀ p ∈ letters, ∀ q ∈ letters, p.2 = q.2 → p.1 = q.1 := by decide
  exact hall _ hc _ hd rfl

/-- No letter stands for a code. -/
theorem letter_ne_u {c l : Char} (h : (c, l) ∈ letters) : l ≠ 'u' := by
  have hall : ∀ p ∈ letters, p.2 ≠ 'u' := by decide
  exact hall _ h

variable {c d : Char} {cs ds xs ys : List Char}

theorem Written.ne_quote (h : Written c cs) (xs : List Char) : cs ++ xs ≠ '"' :: ys := by
  intro heq
  cases h with
  | plain hquote _ => exact hquote (List.cons.inj heq).1
  | letter l _ => exact absurd (List.cons.inj heq).1 (by decide)
  | code => exact absurd (List.cons.inj heq).1 (by decide)

/-- **What is written inside quotes** tells the character, whatever follows. -/
theorem Written.append_inj (hc : Written c cs) (hd : Written d ds) (h : cs ++ xs = ds ++ ys) :
    c = d ∧ xs = ys := by
  cases hc with
  | plain _ hbackslash =>
      cases hd with
      | plain _ _ => exact List.cons.inj h
      | letter _ _ => exact absurd (List.cons.inj h).1 hbackslash
      | code => exact absurd (List.cons.inj h).1 hbackslash
  | letter l hl =>
      cases hd with
      | plain _ hbackslash => exact absurd (List.cons.inj h).1.symm hbackslash
      | letter l' hl' =>
          obtain ⟨rfl, hrest⟩ := List.cons.inj (List.cons.inj h).2
          exact ⟨letter_inj hl hl', hrest⟩
      | code => exact absurd (List.cons.inj (List.cons.inj h).2).1 (letter_ne_u hl)
  | code =>
      cases hd with
      | plain _ hbackslash => exact absurd (List.cons.inj h).1.symm hbackslash
      | letter l hl => exact absurd (List.cons.inj (List.cons.inj h).2).1.symm (letter_ne_u hl)
      | code =>
          have hcodes : hexCode c ++ '\x7d' :: xs = hexCode d ++ '\x7d' :: ys := by
            simpa using h
          -- codes differ in length, but the brace that ends one is no digit
          have hend : ∀ c, '\x7d' ∉ hexCode c := fun c hmem => (ne_of_mem_hexCode hmem).2.2 rfl
          obtain ⟨hcode, hrest⟩ := append_cons_inj (hend c) (hend d) hcodes
          exact ⟨hexCode_inj hcode, hrest⟩

/-! ## Texts in quotes -/

theorem flatMap_quotedChar_inj {s t : List Char}
    (h : s.flatMap quotedChar ++ '"' :: xs = t.flatMap quotedChar ++ '"' :: ys) :
    s = t ∧ xs = ys := by
  induction s generalizing t with
  | nil =>
      cases t with
      | nil => exact ⟨rfl, (List.cons.inj h).2⟩
      | cons d t =>
          rw [List.flatMap_cons, List.append_assoc] at h
          exact absurd h.symm ((quotedChar_written d).ne_quote _)
  | cons c s ih =>
      cases t with
      | nil =>
          rw [List.flatMap_cons, List.append_assoc] at h
          exact absurd h ((quotedChar_written c).ne_quote _)
      | cons d t =>
          rw [List.flatMap_cons, List.flatMap_cons, List.append_assoc, List.append_assoc] at h
          obtain ⟨rfl, hrest⟩ := (quotedChar_written c).append_inj (quotedChar_written d) h
          obtain ⟨rfl, hsame⟩ := ih hrest
          exact ⟨rfl, hsame⟩

theorem quotedChars_append (s xs : List Char) :
    quotedChars s ++ xs = '"' :: (s.flatMap quotedChar ++ '"' :: xs) := by
  simp [quotedChars]

/-- **A text in quotes** can be told, whatever follows. -/
theorem quotedChars_append_inj {s t : List Char}
    (h : quotedChars s ++ xs = quotedChars t ++ ys) : s = t ∧ xs = ys := by
  rw [quotedChars_append, quotedChars_append] at h
  exact flatMap_quotedChar_inj (List.cons.inj h).2

theorem quoted_toList (s : String) : (quoted s).toList = quotedChars s.toList :=
  String.toList_ofList

theorem quoted_inj {s t : String} (h : quoted s = quoted t) : s = t := by
  have hchars := congrArg String.toList h
  rw [quoted_toList, quoted_toList] at hchars
  exact String.toList_inj.1 (quotedChars_append_inj (congrArg (· ++ []) hchars)).1

/-! ## Lists of texts -/

/-- What stands behind the first text of a list, the closing bracket included. -/
def listRest : List String → List Char
  | [] => [']']
  | s :: rest => ',' :: ' ' :: (quotedChars s.toList ++ listRest rest)

/-- A list of texts as it is written. -/
def listChars : List String → List Char
  | [] => ['[', ']']
  | s :: rest => '[' :: (quotedChars s.toList ++ listRest rest)

theorem intercalate_quoted (s : String) (rest : List String) :
    (", ".intercalate ((s :: rest).map quoted)).toList ++ [']'] =
      quotedChars s.toList ++ listRest rest := by
  induction rest generalizing s with
  | nil => simp [listRest, quoted_toList]
  | cons t rest ih =>
      rw [List.map_cons, List.map_cons, String.intercalate_cons_cons, ← List.map_cons,
        String.toList_append, List.append_assoc, ih, String.toList_append, quoted_toList]
      simp [listRest]

theorem quotedList_toList (items : List String) :
    (quotedList items).toList = listChars items := by
  cases items with
  | nil => rfl
  | cons s rest =>
      rw [quotedList, String.toList_append, String.toList_append, List.append_assoc]
      exact congrArg ('[' :: ·) (intercalate_quoted s rest)

theorem listRest_inj {items items' : List String} (h : listRest items = listRest items') :
    items = items' := by
  induction items generalizing items' with
  | nil =>
      cases items' with
      | nil => rfl
      | cons t rest' => exact absurd (List.cons.inj h).1 (by decide)
  | cons s rest ih =>
      cases items' with
      | nil => exact absurd (List.cons.inj h).1 (by decide)
      | cons t rest' =>
          obtain ⟨hfirst, hrest⟩ := quotedChars_append_inj (List.cons.inj (List.cons.inj h).2).2
          rw [String.toList_inj.1 hfirst, ih hrest]

theorem quotedList_inj {items items' : List String} (h : quotedList items = quotedList items') :
    items = items' := by
  have hchars := congrArg String.toList h
  rw [quotedList_toList, quotedList_toList] at hchars
  cases items with
  | nil =>
      cases items' with
      | nil => rfl
      | cons t rest' => exact absurd (List.cons.inj (List.cons.inj hchars).2).1 (by decide)
  | cons s rest =>
      cases items' with
      | nil => exact absurd (List.cons.inj (List.cons.inj hchars).2).1 (by decide)
      | cons t rest' =>
          obtain ⟨hfirst, hrest⟩ := quotedChars_append_inj (List.cons.inj hchars).2
          rw [String.toList_inj.1 hfirst, listRest_inj hrest]

/-! ## Inside and outside of quotes -/

/-- Where one is in a text: outside of quotes, inside, or behind a backslash inside, unless
    something stands outside that is not taken there. -/
inductive Quoting where
  | outside
  | inside
  | escaped
  | broken
deriving DecidableEq

namespace Quoting

/-- What may stand between the texts of a list. -/
def between : List Char := ['[', ']', ',', ' ']

def step : Quoting → Char → Quoting
  | .outside, c => if c = '"' then .inside else if c ∈ between then .outside else .broken
  | .inside, c => if c = '"' then .outside else if c = '\\' then .escaped else .inside
  | .escaped, _ => .inside
  | .broken, _ => .broken

/-- Where some characters lead. -/
def after (q : Quoting) (cs : List Char) : Quoting := cs.foldl step q

variable (q : Quoting)

theorem after_append (cs ds : List Char) : q.after (cs ++ ds) = (q.after cs).after ds :=
  List.foldl_append

theorem after_broken (cs : List Char) : broken.after cs = .broken := by
  induction cs with
  | nil => rfl
  | cons c cs ih => exact ih

theorem after_outside_quote (cs : List Char) : outside.after ('"' :: cs) = inside.after cs := rfl

theorem after_inside_quote (cs : List Char) : inside.after ('"' :: cs) = outside.after cs := rfl

variable {c : Char} {cs ds : List Char}

theorem after_inside_cons (hquote : c ≠ '"') (hbackslash : c ≠ '\\') :
    inside.after (c :: cs) = inside.after cs := by
  show (inside.step c).after cs = _
  rw [step, if_neg hquote, if_neg hbackslash]

theorem after_inside_of_forall (h : ∀ c ∈ cs, c ≠ '"' ∧ c ≠ '\\') : inside.after cs = .inside := by
  induction cs with
  | nil => rfl
  | cons c cs ih =>
      obtain ⟨hc, hcs⟩ := List.forall_mem_cons.1 h
      rw [after_inside_cons hc.1 hc.2]
      exact ih hcs

/-! ### What is quoted -/

/-- A character written inside quotes leads nowhere else. -/
theorem after_written (h : Written c cs) : inside.after cs = .inside := by
  cases h with
  | plain hquote hbackslash => exact after_inside_cons hquote hbackslash
  | letter l _ => rfl
  | code =>
      show inside.after ('\x7b' :: (hexCode c ++ ['\x7d'])) = .inside
      refine after_inside_of_forall fun d hd => ?_
      rcases List.mem_cons.1 hd with rfl | hd
      · decide
      · rcases List.mem_append.1 hd with hd | hd
        · exact ⟨(ne_of_mem_hexCode hd).1, (ne_of_mem_hexCode hd).2.1⟩
        · rw [List.mem_singleton.1 hd]
          decide

theorem after_flatMap_quotedChar (s : List Char) :
    inside.after (s.flatMap quotedChar) = .inside := by
  induction s with
  | nil => rfl
  | cons c s ih => rw [List.flatMap_cons, after_append, after_written (quotedChar_written c), ih]

theorem after_quotedChars (s cs : List Char) :
    outside.after (quotedChars s ++ cs) = outside.after cs := by
  rw [quotedChars_append, after_outside_quote, after_append, after_flatMap_quotedChar,
    after_inside_quote]

theorem after_listRest (items : List String) : outside.after (listRest items) = .outside := by
  induction items with
  | nil => rfl
  | cons s rest ih => exact (after_quotedChars s.toList (listRest rest)).trans ih

theorem after_listChars (items : List String) : outside.after (listChars items) = .outside := by
  cases items with
  | nil => rfl
  | cons s rest => exact (after_quotedChars s.toList _).trans (after_listRest rest)

/-! ### Two ways through a text -/

/-- Without a quote, what begins inside stays there. -/
theorem after_ne_outside (h : '"' ∉ cs) {q : Quoting} (hq : q ≠ .outside) :
    q.after cs ≠ .outside := by
  induction cs generalizing q with
  | nil => exact hq
  | cons c cs ih =>
      have hc := List.ne_of_not_mem_cons h
      have hcs := List.not_mem_of_not_mem_cons h
      refine ih hcs ?_
      cases q with
      | outside => exact absurd rfl hq
      | inside =>
          rw [step, if_neg (Ne.symm hc)]
          split <;> decide
      | escaped => exact Quoting.noConfusion
      | broken => exact Quoting.noConfusion

/-- **Inside and outside cannot be mistaken** for each other: no characters end outside of quotes
    both from within and from outside. -/
theorem not_outside_of_inside (cs : List Char) :
    ¬ (inside.after cs = .outside ∧ outside.after cs = .outside) := by
  induction cs with
  | nil =>
      rintro ⟨h, -⟩
      cases h
  | cons c cs ih =>
      rintro ⟨hinside, houtside⟩
      by_cases hquote : c = '"'
      · -- a quote makes each of the two ways the other
        subst hquote
        exact ih ⟨houtside, hinside⟩
      · by_cases hbetween : c ∈ between
        · have hbackslash : c ≠ '\\' := by
            rintro rfl
            exact absurd hbetween (by decide)
          refine ih ⟨(after_inside_cons hquote hbackslash).symm.trans hinside, ?_⟩
          rwa [show outside.after (c :: cs) = (outside.step c).after cs from rfl, step,
            if_neg hquote, if_pos hbetween] at houtside
        · rw [show outside.after (c :: cs) = (outside.step c).after cs from rfl, step,
            if_neg hquote, if_neg hbetween, after_broken] at houtside
          cases houtside

end Quoting

end AdmissionRules.Text
