import MultiMarketPrices.Core.Text

/-!
# Numbers as text

`std::to_string`, and `std::stoull` and `atoi` that read it back.  Both read
more texts than `to_string` writes: they skip leading blanks, take a sign, and
ignore what follows the digits; where there is no digit `stoull` throws and
`atoi` reads zero.
-/

namespace MultiMarketPrices.Text

/-- `std::to_string` -/
def ofUInt64 (value : UInt64) : String := value.toNat.repr

/-- What `stoull` reads after the sign; the exceptions are known by their
`what()`. -/
def stoullDigits (negative : Bool) (text : List Char) : Except String UInt64 :=
  if text.takeWhile Char.isDigit = [] then .error "stoull"
  else if digitsValue text < UInt64.size then
    let value := UInt64.ofNat (digitsValue text)
    .ok (if negative then -value else value)
  else .error "stoull"

/-- `std::stoull` -/
def stoull (text : String) : Except String UInt64 :=
  match text.toList.dropWhile isSpace with
  | '-' :: digits => stoullDigits true digits
  | '+' :: digits => stoullDigits false digits
  | digits => stoullDigits false digits

/-- What follows the blanks and the sign. -/
def unsigned (text : String) : List Char :=
  match text.toList.dropWhile isSpace with
  | '-' :: digits => digits
  | '+' :: digits => digits
  | digits => digits

/-- There is no digit after the blanks and the sign, or the digits denote a
number that does not fit. -/
def NoNumber (text : String) : Prop :=
  (unsigned text).takeWhile Char.isDigit = [] ∨
    UInt64.size ≤ digitsValue (unsigned text)

theorem isDigit_of_mem_repr {value : ℕ} {digit : Char}
    (hdigit : digit ∈ value.repr.toList) : digit.isDigit = true := by
  rw [Nat.toList_repr] at hdigit
  exact Nat.isDigit_of_mem_toDigits (by decide) (by decide) hdigit

theorem takeWhile_repr (value : ℕ) :
    value.repr.toList.takeWhile Char.isDigit = value.repr.toList :=
  List.takeWhile_eq_self_iff.mpr fun _ hdigit => isDigit_of_mem_repr hdigit

theorem repr_ne_nil (value : ℕ) : value.repr.toList ≠ [] := by
  rw [Nat.toList_repr]
  exact Nat.toDigits_ne_nil

/-- The digits of a number denote it. -/
theorem digitsValue_repr (value : ℕ) :
    digitsValue value.repr.toList = value := by
  rw [digitsValue, takeWhile_repr, Nat.toList_repr]
  have hvalue := @Nat.ofDigitChars_ten_toDigits value
  rwa [Nat.ofDigitChars_eq_foldl] at hvalue

theorem isDigit_of_mem_ofUInt64 {value : UInt64} {digit : Char}
    (hdigit : digit ∈ (ofUInt64 value).toList) : digit.isDigit = true :=
  isDigit_of_mem_repr hdigit

theorem stoullDigits_ofUInt64 (value : UInt64) :
    stoullDigits false (ofUInt64 value).toList = .ok value := by
  have hfits : value.toNat < UInt64.size := value.toNat_lt_size
  rw [stoullDigits, ofUInt64, takeWhile_repr, if_neg (repr_ne_nil _),
    digitsValue_repr, if_pos hfits]
  simp

theorem not_isSpace_of_isDigit {digit : Char}
    (hdigit : digit.isDigit = true) : isSpace digit = false := by
  have hlow : 48 ≤ digit.toNat := by
    simp only [Char.isDigit, Bool.and_eq_true, decide_eq_true_eq] at hdigit
    exact hdigit.1
  have hblank : digit ≠ ' ' := by
    rintro rfl
    exact absurd hlow (by decide)
  simp only [isSpace, hblank, decide_false, Bool.false_or]
  simp only [Bool.and_eq_false_iff, decide_eq_false_iff_not]
  omega

/-- A number begins with a digit: with no blank and no sign. -/
theorem repr_eq_cons (value : ℕ) :
    ∃ first rest, value.repr.toList = first :: rest ∧
      isSpace first = false ∧ first ≠ '-' ∧ first ≠ '+' := by
  obtain ⟨first, rest, heq⟩ := List.exists_cons_of_ne_nil (repr_ne_nil value)
  have hfirst : first.isDigit = true := by
    apply @isDigit_of_mem_repr value
    rw [heq]
    exact List.mem_cons_self
  refine ⟨first, rest, heq, not_isSpace_of_isDigit hfirst, ?_, ?_⟩
  · rintro rfl
    exact absurd hfirst (by decide)
  · rintro rfl
    exact absurd hfirst (by decide)

/-- What `to_string` writes `stoull` reads. -/
theorem stoull_ofUInt64 (value : UInt64) :
    stoull (ofUInt64 value) = .ok value := by
  have hread := stoullDigits_ofUInt64 value
  obtain ⟨first, rest, heq, hblank, hminus, hplus⟩ :=
    repr_eq_cons value.toNat
  rw [ofUInt64, heq] at hread
  rw [stoull, ofUInt64, heq, List.dropWhile_cons_of_neg (by simp [hblank])]
  split
  · next hsign => exact absurd (List.cons.inj hsign).1 hminus
  · next hsign => exact absurd (List.cons.inj hsign).1 hplus
  · exact hread

/-- `strtol` reads the numbers that fit a `long`. -/
theorem strtol_toString {value : ℤ} (hlow : -2 ^ 63 ≤ value)
    (hhigh : value ≤ 2 ^ 63 - 1) : strtol (toString value) = value := by
  rw [Int.toString_eq_repr, Int.repr_eq_if, strtol]
  by_cases hsign : 0 ≤ value
  · obtain ⟨first, rest, heq, hblank, hminus, hplus⟩ :=
      repr_eq_cons value.toNat
    have hvalue := digitsValue_repr value.toNat
    rw [heq] at hvalue
    rw [if_pos hsign, heq, List.dropWhile_cons_of_neg (by simp [hblank])]
    split
    · next hsame => exact absurd (List.cons.inj hsame).1 hminus
    · next hsame => exact absurd (List.cons.inj hsame).1 hplus
    · rw [hvalue]
      omega
  · have htext : ("-" ++ (-value).toNat.repr).toList =
        '-' :: (-value).toNat.repr.toList := by
      simp [String.toList_append]
    rw [if_neg hsign, htext, List.dropWhile_cons_of_neg (by decide)]
    simp only [digitsValue_repr]
    omega

/-- What `to_string` writes of an `int32_t` `atoi` reads. -/
theorem atoi_toString {value : ℤ} (hlow : -2 ^ 31 ≤ value)
    (hhigh : value < 2 ^ 31) : atoi (toString value) = value := by
  rw [atoi, strtol_toString (by omega) (by omega)]
  exact Int.bmod_eq_of_le (by omega) (by omega)

/-- A number is written without a separator that is no sign and no digit. -/
theorem not_mem_toString {separator : Char} (hsign : separator ≠ '-')
    (hdigit : separator.isDigit = false) (value : ℤ) :
    separator ∉ (toString value).toList := by
  have hfree : ∀ digits : ℕ, separator ∉ digits.repr.toList := by
    intro digits hmem
    rw [isDigit_of_mem_repr hmem] at hdigit
    exact absurd hdigit (by simp)
  rw [Int.toString_eq_repr, Int.repr_eq_if]
  split
  · exact hfree _
  · rw [String.toList_append, List.mem_append, not_or]
    exact ⟨by simpa using hsign, hfree _⟩

theorem stoullDigits_eq_ok {negative : Bool} {text : List Char} :
    (∃ value, stoullDigits negative text = .ok value) ↔
      text.takeWhile Char.isDigit ≠ [] ∧
        digitsValue text < UInt64.size := by
  rw [stoullDigits]
  split
  · next hnone => simp [hnone]
  · next hdigits =>
      split
      · next hfits => simp [hdigits, hfits]
      · next hlarge => simp [hlarge]

/-- `stoull` throws for the texts without a number. -/
theorem stoull_eq_ok (text : String) :
    (∃ value, stoull text = .ok value) ↔ ¬ NoNumber text := by
  rw [NoNumber, not_or, not_le, stoull, unsigned]
  split <;> exact stoullDigits_eq_ok

end MultiMarketPrices.Text
