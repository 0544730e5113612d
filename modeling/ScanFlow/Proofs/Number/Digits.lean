import ScanFlow.Number.Digits

/-!
Numbers and the runs of digits that stand for them.

A number is read back from its digits, and a run of digits without a leading zero is how its
number is written.
-/

namespace ScanFlow.Digits

theorem isDigit_iff (c : Char) : isDigit c = true ↔ '0' ≤ c ∧ c ≤ '9' := by
  simp [isDigit]

theorem char_toNat (n : Nat) : (char n).toNat = 48 + n % 10 := by
  have hdigit : ∀ d < 10, (Char.ofNat (48 + d)).toNat = 48 + d := by decide
  exact hdigit (n % 10) (Nat.mod_lt n (by omega))

theorem isDigit_char (n : Nat) : isDigit (char n) = true := by
  have hdigit : ∀ d < 10, isDigit (Char.ofNat (48 + d)) = true := by decide
  exact hdigit (n % 10) (Nat.mod_lt n (by omega))

theorem valueFrom_charsBefore (n : Nat) (tail : List Char) :
    valueFrom 0 (charsBefore n tail) = valueFrom n tail := by
  induction n using Nat.strongRecOn generalizing tail with
  | ind n ih =>
    have hchar := char_toNat n
    unfold charsBefore
    split
    · have hstep : 0 * 10 + ((char n).toNat - 48) = n := by omega
      change valueFrom (0 * 10 + ((char n).toNat - 48)) tail = _
      rw [hstep]
    · have hstep : n / 10 * 10 + ((char n).toNat - 48) = n := by omega
      rw [ih (n / 10) (by omega)]
      change valueFrom (n / 10 * 10 + ((char n).toNat - 48)) tail = _
      rw [hstep]

theorem all_isDigit_charsBefore (n : Nat) {tail : List Char} (h : tail.all isDigit = true) :
    (charsBefore n tail).all isDigit = true := by
  induction n using Nat.strongRecOn generalizing tail with
  | ind n ih =>
    unfold charsBefore
    split
    · simp [isDigit_char, h]
    · apply ih (n / 10) (by omega)
      simp [isDigit_char, h]

theorem charsBefore_ne_nil (n : Nat) (tail : List Char) : charsBefore n tail ≠ [] := by
  induction n using Nat.strongRecOn generalizing tail with
  | ind n ih =>
    unfold charsBefore
    split
    · nofun
    · exact ih (n / 10) (by omega) _

theorem isDigit_of_mem_chars {n : Nat} {c : Char} (h : c ∈ chars n) : isDigit c = true :=
  List.all_eq_true.mp (all_isDigit_charsBefore n rfl) c h

theorem value_chars (n : Nat) : value (chars n) = n := valueFrom_charsBefore n []

/-- A digit is the character of the number that it stands for. -/
theorem char_of_isDigit {c : Char} (h : isDigit c = true) :
    c.toNat - 48 < 10 ∧ char (c.toNat - 48) = c := by
  simp only [isDigit, Char.le_def, UInt32.le_iff_toNat_le, Bool.and_eq_true,
    decide_eq_true_eq] at h
  have hcode : c.val.toNat = c.toNat := rfl
  have hzero : '0'.val.toNat = 48 := rfl
  have hnine : '9'.val.toNat = 57 := rfl
  have hdigit : c.toNat - 48 < 10 := by omega
  refine ⟨hdigit, ?_⟩
  have hsame : 48 + (c.toNat - 48) % 10 = c.toNat := by omega
  rw [char, hsame, Char.ofNat_toNat]

theorem charsBefore_eq (n : Nat) (tail : List Char) : charsBefore n tail = chars n ++ tail := by
  induction n using Nat.strongRecOn generalizing tail with
  | ind n ih =>
    unfold chars charsBefore
    split
    · rfl
    · rw [ih (n / 10) (by omega) (char n :: tail), ih (n / 10) (by omega) [char n],
        List.append_assoc, List.singleton_append]

/-- One more digit behind a number that is not zero. -/
theorem chars_append_digit {n d : Nat} (hn : 0 < n) (hd : d < 10) :
    chars (n * 10 + d) = chars n ++ [char d] := by
  have hfront : (n * 10 + d) / 10 = n := by omega
  have hlast : char (n * 10 + d) = char d := by
    have hmod : (n * 10 + d) % 10 = d % 10 := by omega
    rw [char, hmod, char]
  rw [chars, charsBefore, if_neg (by omega), hfront, hlast, charsBefore_eq]

/-- A run of digits behind a number that is not zero. -/
theorem chars_valueFrom {start : Nat} {cs : List Char} (hstart : 0 < start)
    (hall : ∀ c ∈ cs, isDigit c = true) : chars (valueFrom start cs) = chars start ++ cs := by
  induction cs generalizing start with
  | nil => simp [valueFrom]
  | cons c rest ih =>
    obtain ⟨hdigit, hchar⟩ := char_of_isDigit (hall c List.mem_cons_self)
    have hrest : chars (valueFrom (start * 10 + (c.toNat - 48)) rest) =
        chars (start * 10 + (c.toNat - 48)) ++ rest :=
      ih (by omega) fun d hd => hall d (List.mem_cons_of_mem c hd)
    have hstep : valueFrom start (c :: rest) = valueFrom (start * 10 + (c.toNat - 48)) rest := rfl
    rw [hstep, hrest, chars_append_digit hstart hdigit, hchar, List.append_assoc,
      List.singleton_append]

/-- A run of digits without a leading zero is how its number is written. -/
theorem chars_value {c : Char} {rest : List Char} (hne : c ≠ '0')
    (hall : ∀ d ∈ c :: rest, isDigit d = true) : chars (value (c :: rest)) = c :: rest := by
  obtain ⟨hdigit, hchar⟩ := char_of_isDigit (hall c List.mem_cons_self)
  have hpos : 0 < c.toNat - 48 := by
    apply Nat.pos_of_ne_zero
    intro hzero
    rw [hzero] at hchar
    exact hne hchar.symm
  have hstep : value (c :: rest) = valueFrom (c.toNat - 48) rest := by
    simp [value, valueFrom]
  have hsingle : chars (c.toNat - 48) = [c] := by
    rw [chars, charsBefore, if_pos hdigit, hchar]
  rw [hstep, chars_valueFrom hpos fun d hd => hall d (List.mem_cons_of_mem c hd), hsingle,
    List.singleton_append]

/-! ### Reading -/

theorem ofChars?_eq_some_iff {limit n : Nat} {cs : List Char} :
    ofChars? limit cs = some n ↔
      cs ≠ [] ∧ (∀ c ∈ cs, isDigit c = true) ∧ value cs ≤ limit ∧ value cs = n := by
  unfold ofChars?
  split
  · rename_i hrefused
    simp only [Bool.or_eq_true, List.isEmpty_iff, Bool.not_eq_true', List.all_eq_false] at hrefused
    constructor
    · nofun
    · rintro ⟨hne, hall, -⟩
      rcases hrefused with hempty | ⟨c, member, hc⟩
      · exact absurd hempty hne
      · exact absurd (hall c member) hc
  · rename_i haccepted
    simp only [Bool.or_eq_true, List.isEmpty_iff, Bool.not_eq_true', not_or,
      Bool.not_eq_false, List.all_eq_true] at haccepted
    obtain ⟨hne, hall⟩ := haccepted
    split
    · rename_i hwithin
      constructor
      · intro h
        exact ⟨hne, hall, hwithin, Option.some.inj h⟩
      · rintro ⟨-, -, -, rfl⟩
        rfl
    · rename_i hbeyond
      constructor
      · nofun
      · rintro ⟨-, -, hwithin, -⟩
        exact absurd hwithin hbeyond

/-- A number is read from its digits, with or without a plus sign. -/
theorem parse?_eq_some_iff {limit n : Nat} {text : String} :
    parse? limit text = some n ↔
      ∃ sign digits, text.toList = sign ++ digits ∧ (sign = [] ∨ sign = ['+']) ∧
        ofChars? limit digits = some n := by
  unfold parse?
  constructor
  · intro h
    split at h
    · rename_i digits hplus
      exact ⟨['+'], digits, hplus, .inr rfl, h⟩
    · exact ⟨[], text.toList, rfl, .inl rfl, h⟩
  · rintro ⟨sign, digits, htext, rfl | rfl, hdigits⟩
    · rw [htext]
      split
      · rename_i cs hplus
        obtain ⟨-, hall, -⟩ := ofChars?_eq_some_iff.mp hdigits
        rw [List.nil_append] at hplus
        simp [hplus, isDigit] at hall
      · exact hdigits
    · rw [htext]
      exact hdigits

theorem ofChars?_chars {limit n : Nat} (h : n ≤ limit) : ofChars? limit (chars n) = some n := by
  rw [ofChars?_eq_some_iff, value_chars]
  exact ⟨charsBefore_ne_nil n [], fun c hc => isDigit_of_mem_chars hc, h, rfl⟩

/-- A number within the limit is read back from its digits. -/
theorem parse?_chars {limit n : Nat} (h : n ≤ limit) :
    parse? limit (String.ofList (chars n)) = some n := by
  unfold parse?
  rw [String.toList_ofList]
  split
  · rename_i cs hplus
    have hdigit := isDigit_of_mem_chars (hplus ▸ List.mem_cons_self : '+' ∈ chars n)
    exact absurd hdigit (by decide)
  · exact ofChars?_chars h

end ScanFlow.Digits
