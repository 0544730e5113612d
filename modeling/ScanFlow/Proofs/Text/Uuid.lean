import ScanFlow.Uuid

/-!
Identifiers as text.

However an identifier was spelt, it is a number below `2 ^ 128`, and every such number is read
back from its own text.
-/

namespace ScanFlow.Uuid

/-! ### Hexadecimal digits -/

def addDigit (n : Nat) (c : Char) : Option Nat := (hexValue? c).map (n * 16 + ·)

theorem ofHex?_eq (cs : List Char) : ofHex? cs = cs.foldlM addDigit 0 := rfl

theorem hexValue?_hexChar (n : Nat) : hexValue? (hexChar n) = some (n % 16) := by
  have hdigits : ∀ d < 16, hexValue? (hexChar d) = some d := by decide
  have hlast : hexChar n = hexChar (n % 16) := by simp [hexChar]
  rw [hlast, hdigits _ (Nat.mod_lt n (by decide))]

theorem hexValue?_lt {c : Char} {d : Nat} (h : hexValue? c = some d) : d < 16 := by
  unfold hexValue? at h
  simp only [Char.le_def, UInt32.le_iff_toNat_le, Bool.and_eq_true, decide_eq_true_eq] at h
  have hcode : c.val.toNat = c.toNat := rfl
  split at h
  · rename_i hrange
    cases h
    have hnine : '9'.val.toNat = 57 := rfl
    omega
  · split at h
    · rename_i hrange
      cases h
      have hf : 'f'.val.toNat = 102 := rfl
      omega
    · split at h
      · rename_i hrange
        cases h
        have hf : 'F'.val.toNat = 70 := rfl
        omega
      · cases h

theorem length_hexDigits (n count : Nat) : (hexDigits n count).length = count := by
  induction count generalizing n with
  | zero => rfl
  | succ count ih => simp [hexDigits, ih]

/-- Two runs of digits side by side. -/
theorem hexDigits_append (n front back : Nat) :
    hexDigits (n / 16 ^ back) front ++ hexDigits n back = hexDigits n (front + back) := by
  induction back generalizing n with
  | zero => simp [hexDigits]
  | succ back ih =>
    have hshift : n / 16 ^ (back + 1) = n / 16 / 16 ^ back := by
      rw [Nat.pow_succ', Nat.div_div_eq_div_mul]
    rw [hshift, hexDigits, ← List.append_assoc, ih, ← Nat.add_assoc, hexDigits]

theorem foldlM_hexDigits (n count start : Nat) :
    (hexDigits n count).foldlM addDigit start = some (start * 16 ^ count + n % 16 ^ count) := by
  induction count generalizing n with
  | zero => simp [hexDigits, Nat.mod_one]
  | succ count ih =>
    have hmod : n % 16 ^ (count + 1) = n % 16 + 16 * (n / 16 % 16 ^ count) := by
      rw [Nat.pow_succ', Nat.mod_mul]
    have hpow : start * 16 ^ (count + 1) = start * 16 ^ count * 16 := by
      rw [Nat.pow_succ, Nat.mul_assoc]
    rw [hexDigits, List.foldlM_append, ih]
    simp only [List.foldlM_cons, List.foldlM_nil, addDigit, hexValue?_hexChar, Option.map_some,
      Option.bind_eq_bind, Option.bind_some, Option.pure_def, Option.some.injEq]
    omega

theorem foldlM_addDigit_lt {cs : List Char} {start n : Nat}
    (h : cs.foldlM addDigit start = some n) : n < (start + 1) * 16 ^ cs.length := by
  induction cs generalizing start with
  | nil =>
    cases h
    simp
  | cons c rest ih =>
    obtain ⟨next, hnext, hrest⟩ := Option.bind_eq_some_iff.mp h
    obtain ⟨d, hd, rfl⟩ := Option.map_eq_some_iff.mp hnext
    have hlt := hexValue?_lt hd
    calc n < (start * 16 + d + 1) * 16 ^ rest.length := ih hrest
      _ ≤ (start + 1) * 16 * 16 ^ rest.length := Nat.mul_le_mul_right _ (by omega)
      _ = (start + 1) * 16 ^ (c :: rest).length := by
        rw [List.length_cons, Nat.pow_succ', Nat.mul_assoc]

theorem ofHex?_lt {cs : List Char} {n : Nat} (h : ofHex? cs = some n)
    (hlength : cs.length = 32) : n < 2 ^ 128 := by
  have hlt := foldlM_addDigit_lt h
  rw [hlength] at hlt
  exact hlt

/-! ### Whole identifiers -/

/-- The hyphens separate five groups, which are read as if they were one. -/
theorem ofHyphenated?_groups {a b c d e : List Char} (ha : a.length = 8) (hb : b.length = 4)
    (hc : c.length = 4) (hd : d.length = 4) (he : e.length = 12) :
    ofHyphenated? (a ++ '-' :: b ++ '-' :: c ++ '-' :: d ++ '-' :: e) =
      (ofHex? (a ++ b ++ c ++ d ++ e)).map Uuid.mk := by
  simp [ofHyphenated?, ha, hb, hc, hd, he, List.drop_append, List.drop_of_length_le]

theorem ofHyphenated?_lt {cs : List Char} {id : Uuid} (h : ofHyphenated? cs = some id) :
    id.value < 2 ^ 128 := by
  unfold ofHyphenated? at h
  split at h
  · rename_i hmarks
    have hlength : cs.length = 36 := by simp_all
    obtain ⟨n, hn, rfl⟩ := Option.map_eq_some_iff.mp h
    exact ofHex?_lt hn (by simp [hlength])
  · cases h

theorem parse?_lt {text : String} {id : Uuid} (h : parse? text = some id) :
    id.value < 2 ^ 128 := by
  unfold parse? ofChars? at h
  split at h
  · rename_i hlength
    obtain ⟨n, hn, rfl⟩ := Option.map_eq_some_iff.mp h
    exact ofHex?_lt hn hlength
  · split at h
    · exact ofHyphenated?_lt h
    · split at h
      · split at h
        · exact ofHyphenated?_lt h
        · cases h
      · split at h
        · exact ofHyphenated?_lt h
        · cases h

/-- An identifier of 128 bits is read back from its text. -/
theorem parse?_toString {id : Uuid} (h : id.value < 2 ^ 128) : parse? id.toString = some id := by
  have hdigits : ofHex? (hexDigits id.value 32) = some id.value := by
    rw [ofHex?_eq, foldlM_hexDigits]
    simp [Nat.mod_eq_of_lt h]
  have hgroups : hexDigits (id.value / 2 ^ 96) 8 ++ hexDigits (id.value / 2 ^ 80) 4 ++
      hexDigits (id.value / 2 ^ 64) 4 ++ hexDigits (id.value / 2 ^ 48) 4 ++
        hexDigits id.value 12 = hexDigits id.value 32 := by
    rw [← hexDigits_append id.value 20 12, ← hexDigits_append (id.value / 16 ^ 12) 16 4,
      ← hexDigits_append (id.value / 16 ^ 12 / 16 ^ 4) 12 4,
      ← hexDigits_append (id.value / 16 ^ 12 / 16 ^ 4 / 16 ^ 4) 8 4]
    simp only [Nat.div_div_eq_div_mul]
  have hlength : (toString id).toList.length = 36 := by
    simp [toString, length_hexDigits]
  unfold parse? ofChars?
  rw [if_neg (by omega), if_pos hlength]
  unfold toString
  rw [String.toList_ofList, ofHyphenated?_groups (length_hexDigits _ _) (length_hexDigits _ _)
    (length_hexDigits _ _) (length_hexDigits _ _) (length_hexDigits _ _), hgroups, hdigits]
  rfl

end ScanFlow.Uuid
