import Mathlib.Data.List.TakeWhile
import ScanFlow.Cwe
import ScanFlow.Proofs.Number.Digits

/-!
Trimmed texts, and the spellings of weaknesses.

A text is cut at its first and its last character that is no blank. An identifier that has
letters, separators and digits in this order names a number, and all identifiers of one number
have one normal form. Every other identifier is a word, and has the normal form of those words
that differ from it only in letter case and in the blanks around them.
-/

namespace ScanFlow

namespace Text

/-- What is left of a text without the blanks at its ends. -/
def Trimmed (cs core : List Char) : Prop :=
  ∃ front back, cs = front ++ core ++ back ∧
    (∀ c ∈ front, isBlank c = true) ∧ (∀ c ∈ back, isBlank c = true) ∧
    (∀ c ∈ core.head?, isBlank c = false) ∧ ∀ c ∈ core.getLast?, isBlank c = false

section Runs

variable {α : Type} {p : α → Bool} {cs front rest : List α}

/-- A run is dropped to its end, and no further. -/
theorem dropWhile_exact (hfront : ∀ a ∈ front, p a = true)
    (hrest : ∀ a ∈ rest.head?, p a = false) : (front ++ rest).dropWhile p = rest := by
  rw [List.dropWhile_append_of_pos hfront]
  cases rest with
  | nil => rfl
  | cons a more => exact List.dropWhile_cons_of_neg (by simp [hrest a rfl])

theorem head?_dropWhile : ∀ a ∈ (cs.dropWhile p).head?, p a = false := by
  intro a ha
  have hhead := List.head?_dropWhile_not p cs
  rw [Option.mem_def.mp ha] at hhead
  simpa using hhead

end Runs

theorem trimChars_iff {cs core : List Char} : trimChars cs = core ↔ Trimmed cs core := by
  constructor
  · rintro rfl
    have hcut : cs.dropWhile isBlank = trimChars cs ++
        ((cs.dropWhile isBlank).reverse.takeWhile isBlank).reverse := by
      rw [trimChars, ← List.reverse_append, List.takeWhile_append_dropWhile, List.reverse_reverse]
    refine ⟨cs.takeWhile isBlank, ((cs.dropWhile isBlank).reverse.takeWhile isBlank).reverse,
      ?_, ?_, ?_, ?_, ?_⟩
    · rw [List.append_assoc, ← hcut, List.takeWhile_append_dropWhile]
    · exact fun c hc => List.mem_takeWhile_imp hc
    · exact fun c hc => List.mem_takeWhile_imp (List.mem_reverse.mp hc)
    · intro c hc
      have hfirst : c ∈ (cs.dropWhile isBlank).head? := by
        rw [hcut, List.head?_append, Option.mem_def.mp hc]
        rfl
      exact head?_dropWhile c hfirst
    · intro c hc
      rw [trimChars, List.getLast?_reverse] at hc
      exact head?_dropWhile c hc
  · rintro ⟨front, back, rfl, hfront, hback, hhead, hlast⟩
    have hopened : (front ++ core ++ back).dropWhile isBlank =
        (core ++ back).dropWhile isBlank := by
      rw [List.append_assoc, List.dropWhile_append_of_pos hfront]
    rw [trimChars, hopened]
    cases core with
    | nil =>
      have hnone : back.dropWhile isBlank = [] := by
        rw [List.dropWhile_eq_nil_iff]
        exact hback
      rw [List.nil_append, hnone]
      rfl
    | cons c more =>
      have hstart : (c :: more ++ back).dropWhile isBlank = c :: more ++ back :=
        List.dropWhile_cons_of_neg (by simp [hhead c rfl])
      rw [hstart, List.reverse_append, dropWhile_exact, List.reverse_reverse]
      · exact fun d hd => hback d (List.mem_reverse.mp hd)
      · rw [List.head?_reverse]
        exact hlast

/-- A character in upper case has a partner in lower case; every other one stays. -/
theorem lowerChar_cases (c : Char) :
    lowerChar c = c ∨ ∃ n < 26, c = Char.ofNat (65 + n) ∧ lowerChar c = Char.ofNat (97 + n) := by
  unfold lowerChar
  split
  · rename_i hupper
    right
    simp only [Char.le_def, UInt32.le_iff_toNat_le, Bool.and_eq_true, decide_eq_true_eq] at hupper
    have hcode : c.val.toNat = c.toNat := rfl
    have hfirst : 'A'.val.toNat = 65 := rfl
    have hlast : 'Z'.val.toNat = 90 := rfl
    refine ⟨c.toNat - 65, by omega, ?_, ?_⟩
    · have hsame : 65 + (c.toNat - 65) = c.toNat := by omega
      rw [hsame, Char.ofNat_toNat]
    · have hsame : 97 + (c.toNat - 65) = c.toNat + 32 := by omega
      rw [hsame]
  · exact Or.inl rfl

theorem isBlank_lowerChar (c : Char) : isBlank (lowerChar c) = isBlank c := by
  rcases lowerChar_cases c with hsame | ⟨n, hn, hupper, hlower⟩
  · rw [hsame]
  · have hletters : ∀ n < 26, isBlank (Char.ofNat (97 + n)) = isBlank (Char.ofNat (65 + n)) := by
      decide
    rw [hlower, hletters n hn, ← hupper]

theorem lowerChar_lowerChar (c : Char) : lowerChar (lowerChar c) = lowerChar c := by
  rcases lowerChar_cases c with hsame | ⟨n, hn, _, hlower⟩
  · rw [hsame, hsame]
  · have hletters : ∀ n < 26, lowerChar (Char.ofNat (97 + n)) = Char.ofNat (97 + n) := by decide
    rw [hlower, hletters n hn]

/-- A trimmed text in lower case is trimmed and in lower case. -/
theorem Trimmed.lower {cs core : List Char} (h : Trimmed cs core) :
    Trimmed (core.map lowerChar) (core.map lowerChar) := by
  obtain ⟨_, _, _, _, _, hhead, hlast⟩ := h
  refine ⟨[], [], by simp, by simp, by simp, ?_, ?_⟩
  · intro c hc
    rw [List.head?_map, Option.mem_def, Option.map_eq_some_iff] at hc
    obtain ⟨d, hd, rfl⟩ := hc
    rw [isBlank_lowerChar, hhead d hd]
  · intro c hc
    rw [List.getLast?_map, Option.mem_def, Option.map_eq_some_iff] at hc
    obtain ⟨d, hd, rfl⟩ := hc
    rw [isBlank_lowerChar, hlast d hd]

end Text

namespace Cwe

open Digits

variable {raw : String} {n : Nat}

/-- The text of an identifier between its blanks, in lower case. -/
def Folded (raw : String) (folded : List Char) : Prop :=
  ∃ core, Text.Trimmed raw.toList core ∧ folded = core.map Text.lowerChar

/-- An identifier that is a number, with or without the letters and separators before it. -/
def Spells (raw : String) (n : Nat) : Prop :=
  ∃ letters separators digits, Folded raw (letters ++ separators ++ digits) ∧
    (letters = [] ∨ letters = ['c', 'w', 'e']) ∧
    (∀ c ∈ separators, c = '-' ∨ c = '_' ∨ c = ' ') ∧
    digits ≠ [] ∧ (∀ c ∈ digits, '0' ≤ c ∧ c ≤ '9') ∧ value digits = n

theorem folded_iff {folded : List Char} : Folded raw folded ↔ fold raw = folded := by
  constructor
  · rintro ⟨core, htrimmed, rfl⟩
    rw [fold, Text.trimChars_iff.mpr htrimmed]
  · rintro rfl
    exact ⟨_, Text.trimChars_iff.mp rfl, rfl⟩

theorem folded_fold (raw : String) : Folded raw (fold raw) := folded_iff.mpr rfl

/-! ### The number part -/

theorem dropLetters_cases (cs : List Char) :
    cs = ['c', 'w', 'e'] ++ dropLetters cs ∨ cs = dropLetters cs := by
  fun_cases dropLetters cs with
  | case1 rest => exact Or.inl rfl
  | case2 => exact Or.inr rfl

theorem dropLetters_of_head {cs : List Char} (h : cs.head? ≠ some 'c') : dropLetters cs = cs := by
  fun_cases dropLetters cs with
  | case1 rest => exact absurd rfl h
  | case2 => rfl

theorem isSeparator_iff {c : Char} : isSeparator c = true ↔ c = '-' ∨ c = '_' ∨ c = ' ' := by
  simp [isSeparator, or_assoc]

theorem isSeparator_of_isDigit {c : Char} (h : isDigit c = true) : isSeparator c = false := by
  rw [Bool.eq_false_iff, ne_eq, isSeparator_iff]
  rintro (rfl | rfl | rfl) <;> exact absurd h (by decide)

theorem digits?_eq_some_iff {cs digits : List Char} :
    digits? cs = some digits ↔ ∃ letters separators, cs = letters ++ separators ++ digits ∧
      (letters = [] ∨ letters = ['c', 'w', 'e']) ∧
      (∀ c ∈ separators, isSeparator c = true) ∧
      digits ≠ [] ∧ ∀ c ∈ digits, isDigit c = true := by
  have hdigits : digits? cs = some digits ↔
      (dropLetters cs).dropWhile isSeparator = digits ∧
        digits ≠ [] ∧ ∀ c ∈ digits, isDigit c = true := by
    unfold digits?
    generalize (dropLetters cs).dropWhile isSeparator = rest
    simp only [Option.ite_none_left_eq_some, Option.some.injEq, Bool.or_eq_true, not_or,
      List.isEmpty_iff, Bool.not_eq_true', Bool.not_eq_false, List.all_eq_true]
    constructor
    · rintro ⟨haccepted, rfl⟩
      exact ⟨rfl, haccepted⟩
    · rintro ⟨rfl, haccepted⟩
      exact ⟨haccepted, rfl⟩
  rw [hdigits]
  constructor
  · rintro ⟨hrest, hne, hall⟩
    have hcut : dropLetters cs = (dropLetters cs).takeWhile isSeparator ++ digits := by
      rw [← hrest, List.takeWhile_append_dropWhile]
    have hseparators : ∀ c ∈ (dropLetters cs).takeWhile isSeparator, isSeparator c = true :=
      fun c hc => List.mem_takeWhile_imp hc
    rcases dropLetters_cases cs with hletters | hletters
    · refine ⟨['c', 'w', 'e'], _, ?_, Or.inr rfl, hseparators, hne, hall⟩
      rw [List.append_assoc, ← hcut, ← hletters]
    · refine ⟨[], _, ?_, Or.inl rfl, hseparators, hne, hall⟩
      rw [List.nil_append, ← hcut, ← hletters]
  · rintro ⟨letters, separators, rfl, hletters, hseparators, hne, hall⟩
    refine ⟨?_, hne, hall⟩
    have hdropped : dropLetters (letters ++ separators ++ digits) = separators ++ digits := by
      rcases hletters with rfl | rfl
      · apply dropLetters_of_head
        intro hhead
        rcases List.mem_append.mp (List.mem_of_mem_head? hhead) with hc | hc
        · exact absurd (hseparators _ hc) (by decide)
        · exact absurd (hall _ hc) (by decide)
      · rfl
    rw [hdropped]
    apply Text.dropWhile_exact hseparators
    exact fun c hc => isSeparator_of_isDigit (hall c (List.mem_of_mem_head? hc))

/-- An identifier has the number that its digits stand for. -/
theorem spells_iff :
    Spells raw n ↔ ∃ digits, digits? (fold raw) = some digits ∧ value digits = n := by
  simp only [Spells, folded_iff, digits?_eq_some_iff, isSeparator_iff, isDigit_iff]
  constructor
  · rintro ⟨letters, separators, digits, hfold, hletters, hseparators, hne, hall, hvalue⟩
    exact ⟨digits, ⟨letters, separators, hfold, hletters, hseparators, hne, hall⟩, hvalue⟩
  · rintro ⟨digits, ⟨letters, separators, hfold, hletters, hseparators, hne, hall⟩, hvalue⟩
    exact ⟨letters, separators, digits, hfold, hletters, hseparators, hne, hall, hvalue⟩

theorem spells_congr {other : String} (h : fold raw = fold other) :
    Spells raw n ↔ Spells other n := by
  rw [spells_iff, spells_iff, h]

/-- Digits alone are an identifier. -/
theorem spells_of_chars (h : fold raw = chars n) : Spells raw n := by
  rw [spells_iff, h]
  have hdigits : digits? (chars n) = some (chars n) := by
    refine digits?_eq_some_iff.mpr ⟨[], [], rfl, Or.inl rfl, by simp, ?_, ?_⟩
    · exact charsBefore_ne_nil n []
    · exact fun c hc => isDigit_of_mem_chars hc
  exact ⟨chars n, hdigits, value_chars n⟩

/-! ### Normal forms -/

/-- Without leading zeros, digits are those of the number that they stand for. -/
theorem stripZeros_eq {digits : List Char} (hne : digits ≠ [])
    (hall : ∀ c ∈ digits, isDigit c = true) : stripZeros digits = chars (value digits) := by
  induction digits with
  | nil => exact absurd rfl hne
  | cons c rest ih =>
    by_cases hzero : c = '0'
    · subst hzero
      cases rest with
      | nil =>
        have hchars : chars 0 = ['0'] := by rw [chars, charsBefore, if_pos (by omega)]; rfl
        exact hchars.symm
      | cons d more =>
        exact ih (List.cons_ne_nil d more) fun e he => hall e (List.mem_cons_of_mem _ he)
    · rw [chars_value hzero hall, stripZeros, List.dropWhile_cons_of_neg (by simpa using hzero)]

theorem normalize_of_spells (h : Spells raw n) : normalize raw = render n := by
  obtain ⟨digits, hdigits, rfl⟩ := spells_iff.mp h
  obtain ⟨_, _, _, _, _, hne, hall⟩ := digits?_eq_some_iff.mp hdigits
  rw [normalize, hdigits, render, ← stripZeros_eq hne hall]

theorem normalize_of_word (h : ∀ n, ¬ Spells raw n) : normalize raw = String.ofList (fold raw) := by
  have hnone : digits? (fold raw) = none := by
    rw [Option.eq_none_iff_forall_ne_some]
    intro digits hdigits
    exact h (value digits) (spells_iff.mpr ⟨digits, hdigits, rfl⟩)
  rw [normalize, hnone]

/-- Only spellings of a number have its digits as their normal form. -/
theorem spells_of_normalize (h : normalize raw = render n) : Spells raw n := by
  by_cases hnumber : ∃ m, Spells raw m
  · obtain ⟨m, hm⟩ := hnumber
    rw [normalize_of_spells hm] at h
    have hchars : chars m = chars n := String.ofList_injective h
    rwa [← value_chars n, ← hchars, value_chars]
  · rw [normalize_of_word (not_exists.mp hnumber)] at h
    exact spells_of_chars (String.ofList_injective h)

theorem fold_render (n : Nat) : fold (render n) = chars n := by
  have hplain : ∀ c, isDigit c = true → Text.isBlank c = false ∧ Text.lowerChar c = c := by
    intro c hc
    obtain ⟨hdigit, hchar⟩ := char_of_isDigit hc
    have hdigits : ∀ d < 10, Text.isBlank (char d) = false ∧ Text.lowerChar (char d) = char d := by
      decide
    rw [← hchar]
    exact hdigits _ hdigit
  rw [← folded_iff, Folded, render, String.toList_ofList]
  refine ⟨chars n, ⟨[], [], by simp, by simp, by simp, ?_, ?_⟩, ?_⟩
  · exact fun c hc => (hplain c (isDigit_of_mem_chars (List.mem_of_mem_head? hc))).1
  · exact fun c hc => (hplain c (isDigit_of_mem_chars (List.mem_of_getLast? hc))).1
  · rw [List.map_congr_left fun c hc => (hplain c (isDigit_of_mem_chars hc)).2, List.map_id']

theorem fold_ofList_fold (raw : String) : fold (String.ofList (fold raw)) = fold raw := by
  obtain ⟨core, htrimmed, hfold⟩ := folded_fold raw
  rw [← folded_iff, Folded, String.toList_ofList, hfold]
  refine ⟨core.map Text.lowerChar, htrimmed.lower, ?_⟩
  rw [List.map_map]
  exact List.map_congr_left fun c _ => (Text.lowerChar_lowerChar c).symm

/-- **Normal forms identify the spellings of one weakness.** Two identifiers have the same normal
form exactly if they spell the same number, or spell none and differ only in the case of ASCII
letters and in the blanks around them. A normal form is its own normal form. -/
theorem normalize_eq_iff (a b : String) :
    (normalize a = normalize b ↔
      (∃ n, Spells a n ∧ Spells b n) ∨ (∀ n, ¬ Spells a n) ∧ (∀ n, ¬ Spells b n) ∧
        ∃ folded, Folded a folded ∧ Folded b folded) ∧
    normalize (normalize a) = normalize a := by
  constructor
  · constructor
    · intro h
      by_cases hnumber : ∃ n, Spells a n
      · obtain ⟨n, ha⟩ := hnumber
        exact Or.inl ⟨n, ha, spells_of_normalize (h.symm.trans (normalize_of_spells ha))⟩
      · have ha : ∀ n, ¬ Spells a n := not_exists.mp hnumber
        have hb : ∀ n, ¬ Spells b n := fun n hn =>
          ha n (spells_of_normalize (h.trans (normalize_of_spells hn)))
        rw [normalize_of_word ha, normalize_of_word hb] at h
        refine Or.inr ⟨ha, hb, fold a, folded_fold a, ?_⟩
        exact folded_iff.mpr (String.ofList_injective h).symm
    · rintro (⟨n, ha, hb⟩ | ⟨ha, hb, folded, hfoldedA, hfoldedB⟩)
      · rw [normalize_of_spells ha, normalize_of_spells hb]
      · rw [normalize_of_word ha, normalize_of_word hb, folded_iff.mp hfoldedA,
          folded_iff.mp hfoldedB]
  · by_cases hnumber : ∃ n, Spells a n
    · obtain ⟨n, ha⟩ := hnumber
      rw [normalize_of_spells ha, normalize_of_spells (spells_of_chars (fold_render n))]
    · have ha : ∀ n, ¬ Spells a n := not_exists.mp hnumber
      have hfold := fold_ofList_fold a
      have hfolded : ∀ n, ¬ Spells (String.ofList (fold a)) n := fun n hn =>
        ha n ((spells_congr hfold).mp hn)
      rw [normalize_of_word ha, normalize_of_word hfolded, hfold]

example : normalize " CWE-089\t" = "89" ∧ normalize "cwe_ 000" = "0" ∧ normalize "-78" = "78" ∧
    normalize "CWE-" = "cwe-" ∧ normalize "cwecwe78" = "cwecwe78" := by
  decide

end Cwe

end ScanFlow
