import Dialogue.Number.Decimal
/-!
# Decimal digits and exact doubles

The digits of a number spell this number, and begin with a zero only if they are nothing but that.
A natural number of at most 53 bits is a double, so rounding one to the nearest double and cutting
off its fraction gives it back.  Greater words may be rounded to another one.
-/

namespace Dialogue

/-! ### Digits -/

theorem isDigit_of_mem_decimalDigits {n : Nat} {c : Char} (member : c ∈ decimalDigits n) :
    c.isDigit = true :=
  Nat.isDigit_of_mem_toDigits (by decide) (by decide) member

theorem decimalDigits_ne_nil (n : Nat) : decimalDigits n ≠ [] :=
  Nat.toDigits_ne_nil

/-- The digits of a number spell it. -/
theorem digitsValue_decimalDigits (n : Nat) : digitsValue 0 (decimalDigits n) = n := by
  have same := Nat.ofDigitChars_ten_toDigits (n := n)
  rwa [Nat.ofDigitChars_eq_foldl] at same

/-- The digits of a positive number do not begin with a zero. -/
theorem head?_decimalDigits {n : Nat} (positive : 0 < n) : (decimalDigits n).head? ≠ some '0' := by
  have single : ∀ digit < 10, 0 < digit → digit.digitChar ≠ '0' := by decide
  induction n using Nat.strongRecOn with
  | ind n inductionHypothesis =>
      rw [decimalDigits, Nat.toDigits_eq_if (by decide)]
      by_cases small : n < 10
      · rw [if_pos small]
        simpa using single n small positive
      · rw [if_neg small]
        have shorter := inductionHypothesis (n / 10) (by omega) (by omega)
        rw [decimalDigits] at shorter
        cases digits : Nat.toDigits 10 (n / 10) with
        | nil => exact absurd digits Nat.toDigits_ne_nil
        | cons first rest => simpa [digits] using shorter

/-- What a digit is worth is a digit again. -/
theorem decimalDigits_digitValue {c : Char} (digital : c.isDigit = true) :
    digitValue c < 10 ∧ decimalDigits (digitValue c) = [c] := by
  have least : '0'.toNat ≤ c.toNat := (Char.isDigit_iff_toNat.mp digital).1
  have greatest : c.toNat ≤ '9'.toNat := (Char.isDigit_iff_toNat.mp digital).2
  have small : digitValue c < 10 := by
    rw [digitValue]
    exact Nat.sub_lt_left_of_lt_add least (Nat.lt_succ_of_le greatest)
  refine ⟨small, ?_⟩
  rw [decimalDigits, Nat.toDigits_of_lt_base small, List.singleton_inj]
  apply Char.toNat_inj.mp
  rw [Nat.toNat_digitChar_of_lt_ten small, digitValue]
  exact Nat.add_sub_of_le least

/-- Further digits behind those of a positive number spell a greater number. -/
theorem decimalDigits_append {start : Nat} {digits : List Char} (positive : 0 < start)
    (digital : ∀ c ∈ digits, c.isDigit = true) :
    decimalDigits start ++ digits = decimalDigits (digitsValue start digits) := by
  induction digits generalizing start with
  | nil => rw [List.append_nil, digitsValue, List.foldl_nil]
  | cons c rest inductionHypothesis =>
      obtain ⟨first, others⟩ := List.forall_mem_cons.mp digital
      obtain ⟨small, single⟩ := decimalDigits_digitValue first
      have longer : decimalDigits start ++ [c] = decimalDigits (10 * start + digitValue c) := by
        rw [← single]
        exact Nat.toDigits_append_toDigits (by decide) positive small
      calc decimalDigits start ++ c :: rest
        _ = (decimalDigits start ++ [c]) ++ rest := by rw [List.append_assoc, List.singleton_append]
        _ = decimalDigits (10 * start + digitValue c) ++ rest := by rw [longer]
        _ = decimalDigits (digitsValue (10 * start + digitValue c) rest) :=
            inductionHypothesis (by omega) others

/-- Digits are zeros, any number of them, and then the digits of the number that they spell. -/
theorem exists_zeros_append {digits : List Char} (digital : ∀ c ∈ digits, c.isDigit = true)
    (nonempty : digits ≠ []) :
    ∃ zeros, digits = List.replicate zeros '0' ++ decimalDigits (digitsValue 0 digits) := by
  induction digits with
  | nil => exact absurd rfl nonempty
  | cons c rest inductionHypothesis =>
      obtain ⟨first, others⟩ := List.forall_mem_cons.mp digital
      obtain ⟨_, single⟩ := decimalDigits_digitValue first
      have value : digitsValue 0 (c :: rest) = digitsValue (digitValue c) rest := by
        rw [digitsValue, List.foldl_cons, Nat.mul_zero, Nat.zero_add, digitsValue]
      rw [value]
      by_cases zero : digitValue c = 0
      · have isZero : c = '0' := by
          rw [zero] at single
          exact (List.singleton_inj.mp single).symm
        rw [zero, isZero]
        by_cases last : rest = []
        · exact ⟨0, by rw [last]; rfl⟩
        · obtain ⟨zeros, spelled⟩ := inductionHypothesis others last
          exact ⟨zeros + 1, by rw [List.replicate_succ, List.cons_append, ← spelled]⟩
      · have behind := decimalDigits_append (Nat.pos_of_ne_zero zero) others
        rw [single] at behind
        exact ⟨0, behind⟩

/-- A word has at most twenty digits. -/
theorem length_decimalDigits_le (value : UInt64) : (decimalDigits value.toNat).length ≤ 20 := by
  rw [decimalDigits, Nat.length_toDigits_le_iff (by decide) (by decide)]
  have bounded : value.toNat < UInt64.size := value.toNat_lt_size
  exact Nat.lt_trans bounded (by decide)

/-! ### Words that are doubles -/

/-- A word that is rounded to itself. -/
def ExactWord (value : UInt64) : Prop :=
  (Double.ofRatio? false value.toNat 1).map Double.toWord = some value

instance (value : UInt64) : Decidable (ExactWord value) :=
  inferInstanceAs (Decidable (_ = _))

/-- The decimal of a word is read as the double nearest to the word. -/
theorem toDouble?_word (value : UInt64) :
    Decimal.toDouble? false ⟨value.toNat, 0⟩ = Double.ofRatio? false value.toNat 1 := by
  rw [Decimal.toDouble?]
  by_cases zero : value.toNat = 0
  · simp [zero, Double.ofRatio?]
  · have length := length_decimalDigits_le value
    have small : ¬(Decimal.mk value.toNat 0).order < -400 := by
      simp only [Decimal.order]
      omega
    have notLarge : ¬400 < (Decimal.mk value.toNat 0).order := by
      simp only [Decimal.order]
      omega
    simp [zero, small, notLarge]

theorem twoTo_add (m n : Nat) : twoTo (m + n) = twoTo m * twoTo n :=
  Nat.pow_add 2 m n

theorem twoTo_pos (n : Nat) : 0 < twoTo n :=
  Nat.two_pow_pos n

/-- A quotient by one is its numerator. -/
theorem nearestEven_one (n : Nat) : Double.nearestEven n 1 = n := by
  simp [Double.nearestEven, Nat.mod_one]

/-- A number of fewer than 53 bits is scaled up until it has 53. -/
theorem scaled_bounds {n shift : Nat} (positive : n ≠ 0) (bits : n.log2 + shift = 52) :
    twoTo 52 ≤ n * twoTo shift ∧ n * twoTo shift < twoTo 53 := by
  have lower : twoTo n.log2 ≤ n := Nat.log2_self_le positive
  have upper : n < twoTo (n.log2 + 1) := Nat.lt_log2_self
  have total : n.log2 + 1 + shift = 53 := by omega
  rw [← bits, ← total, twoTo_add, twoTo_add]
  exact ⟨Nat.mul_le_mul_right _ lower, Nat.mul_lt_mul_of_pos_right upper (twoTo_pos shift)⟩

/-- Dividing by a power of two with a negative exponent is multiplying. -/
theorem unscale_neg (n shift : Nat) : Double.unscale n 1 (-shift) = (n * twoTo shift, 1) := by
  rw [Double.unscale, Int.neg_neg, Int.toNat_natCast, Int.toNat_neg_natCast]
  rfl

/-- The double nearest to a number of at most 53 bits has its bits. -/
theorem ofRatio?_of_bits {n shift : Nat} (positive : n ≠ 0) (bits : n.log2 + shift = 52) :
    Double.ofRatio? false n 1 = Double.ofParts? false (n * twoTo shift) (-shift) := by
  obtain ⟨enough, notMore⟩ := scaled_bounds positive bits
  have one : (1 : Nat).log2 = 0 := by decide
  have low : max ((n.log2 : Int) - ((1 : Nat).log2 : Int) - 53) (-1074) =
      -((shift + 1 : Nat) : Int) := by
    rw [one]
    omega
  have exponent : -((shift + 1 : Nat) : Int) + 1 = -shift := by omega
  -- With one bit more the number has 54 bits.
  have wide : ¬n * twoTo (shift + 1) < twoTo 53 := by
    rw [twoTo_add, ← Nat.mul_assoc]
    exact Nat.not_lt.mpr (Nat.mul_le_mul_right (twoTo 1) enough)
  have notZero : (n == 0) = false := by simpa using positive
  have notNext : (n * twoTo shift == twoTo 53) = false := by simpa using Nat.ne_of_lt notMore
  simp only [Double.ofRatio?, notZero, low, unscale_neg, Nat.div_one, if_neg wide, exponent,
    nearestEven_one, notNext, Bool.false_eq_true, if_false]

/-- The whole part of a number that was scaled up is the number. -/
theorem whole_of_scaled {x : Double} {n shift : Nat} (significand : x.significand = n * twoTo shift)
    (exponent : x.exponent = -shift) : x.whole = n := by
  rw [Double.whole, Double.ratio, significand, exponent, Int.neg_neg, Int.toNat_natCast,
    Int.toNat_neg_natCast]
  simp only [Nat.pow_eq, Nat.pow_zero, Nat.mul_one]
  exact Nat.mul_div_cancel n (twoTo_pos shift)

/-- A word of at most 53 bits is a double. -/
theorem exactWord_of_lt {value : UInt64} (small : value.toNat < twoTo 53) : ExactWord value := by
  rw [ExactWord]
  by_cases zero : value.toNat = 0
  · have same : value = 0 := UInt64.toNat_inj.mp zero
    have whole : (Double.zero false).whole = 0 := by
      simp only [Double.whole, Double.ratio, Double.zero, Nat.zero_mul, Nat.zero_div]
    have nearest : Double.ofRatio? false (0 : UInt64).toNat 1 = some (Double.zero false) := rfl
    rw [same, nearest, Option.map_some, Double.toWord, whole]
    rfl
  · obtain ⟨shift, bits⟩ : ∃ shift, value.toNat.log2 + shift = 52 := by
      have fits := (Nat.log2_lt zero).mpr small
      exact ⟨52 - value.toNat.log2, by omega⟩
    obtain ⟨enough, notMore⟩ := scaled_bounds zero bits
    have canonical : Double.Canonical (value.toNat * twoTo shift) (-shift) :=
      ⟨notMore, by omega, by omega, .inl enough⟩
    have bounded : value.toNat ≤ UInt64.size - 1 := Nat.le_pred_of_lt value.toNat_lt_size
    rw [ofRatio?_of_bits zero bits, Double.ofParts?, dif_pos canonical, Option.map_some,
      Double.toWord, whole_of_scaled rfl rfl, Nat.min_eq_left bounded]
    simp

end Dialogue
