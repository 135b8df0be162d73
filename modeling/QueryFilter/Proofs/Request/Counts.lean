import QueryFilter.Proofs.Number.Value
import QueryFilter.Request.Fields

/-!
# Counts by exact value

A count depends on nothing but the exact value of the number that states it, be it written as an integer or
as a binary64 value. A value below zero is rejected, and any other is rounded down to the next word, which is
the largest word for all values beyond it.
-/

namespace QueryFilter
namespace Request

/-- The largest word that is not greater than a natural number. -/
def saturated (magnitude : Nat) : UInt64 :=
  UInt64.ofNat (min magnitude largestCount)

theorem toNat_saturated (magnitude : Nat) :
    (saturated magnitude).toNat = min magnitude (UInt64.size - 1) := by
  have fits : min magnitude largestCount < UInt64.size :=
    Nat.lt_of_le_of_lt (Nat.min_le_right _ _) (by decide)
  exact UInt64.toNat_ofNat_of_lt' fits

theorem toNat_saturated_of_lt
    {magnitude : Nat}
    (fits : magnitude < UInt64.size) :
    (saturated magnitude).toNat = magnitude := by
  rw [toNat_saturated, Nat.min_eq_left (Nat.le_sub_one_of_lt fits)]

theorem saturated_le_saturated
    {lesser greater : Nat}
    (ordered : lesser ≤ greater) :
    saturated lesser ≤ saturated greater := by
  rw [UInt64.le_iff_toNat_le, toNat_saturated, toNat_saturated]
  exact min_le_min_right _ ordered

/-- An integer in range that is not negative is a word already. -/
theorem saturated_floor_integer
    {value : Int}
    (inRange : Number.InRange value)
    (nonnegative : 0 ≤ value) :
    saturated ⌊(value : ℚ)⌋₊ = UInt64.ofNat value.toNat := by
  have fits : value.toNat ≤ largestCount := by
    have bound := inRange.2
    rw [largestCount]
    omega
  rw [saturated, ← Int.floor_toNat, Int.floor_intCast, Nat.min_eq_left fits]

/-- A number whose value is not below zero has the integer part of the value as its count, if that fits. -/
theorem countOf?_of_nonneg
    {number : Number}
    (nonnegative : 0 ≤ number.toRat) :
    countOf? number = some (saturated ⌊number.toRat⌋₊) := by
  cases number with
  | integer value inRange =>
      have notNegative : 0 ≤ value := Int.cast_nonneg_iff.1 nonnegative
      rw [countOf?, if_pos notNegative, Number.toRat_integer, saturated_floor_integer inRange notNegative]
  | float value =>
      have notNegative : ¬value.IsNegative := mt Binary64.toRat_neg_iff.2 (not_lt.2 nonnegative)
      rw [countOf?, if_neg notNegative, Number.toRat_float, Binary64.toRat_eq_magnitude notNegative,
        ← Binary64.floorMagnitude_eq, saturated]

theorem countOf?_of_neg
    {number : Number}
    (negative : number.toRat < 0) :
    countOf? number = none := by
  cases number with
  | integer value inRange =>
      have below : value < 0 := Int.cast_lt_zero.1 negative
      rw [countOf?, if_neg (not_le.2 below)]
  | float value =>
      have below : value.IsNegative := Binary64.toRat_neg_iff.1 negative
      rw [countOf?, if_pos below]

theorem count_of_nonneg
    (field : Field)
    {number : Number}
    (nonnegative : 0 ≤ number.toRat) :
    count field (.number number) = .ok (saturated ⌊number.toRat⌋₊) := by
  rw [count, countOf?_of_nonneg nonnegative]

theorem count_of_neg
    (field : Field)
    {number : Number}
    (negative : number.toRat < 0) :
    count field (.number number) = .error (.invalidField field) := by
  rw [count, countOf?_of_neg negative]

theorem nonneg_of_count_eq_ok
    {field : Field}
    {number : Number}
    {result : UInt64}
    (accepted : count field (.number number) = .ok result) :
    0 ≤ number.toRat := by
  by_contra negative
  rw [count_of_neg field (not_le.1 negative)] at accepted
  cases accepted

theorem count_of_not_number
    (field : Field)
    {value : Json}
    (notNumber : ∀ number, value ≠ .number number) :
    count field value = .error (.invalidField field) := by
  cases value with
  | number number => exact absurd rfl (notNumber number)
  | _ => rfl

/-- Numbers of one value state one count. -/
theorem count_congr
    (field : Field)
    {left right : Number}
    (sameValue : left.toRat = right.toRat) :
    count field (.number left) = count field (.number right) := by
  rcases lt_or_ge left.toRat 0 with negative | nonnegative
  · rw [count_of_neg field negative, count_of_neg field (sameValue ▸ negative)]
  · rw [count_of_nonneg field nonnegative, count_of_nonneg field (sameValue ▸ nonnegative), sameValue]

/-- A greater number states a count that is not less. -/
theorem exists_count_ge
    {field : Field}
    {lesser greater : Number}
    (ordered : lesser.toRat ≤ greater.toRat)
    {result : UInt64}
    (accepted : count field (.number lesser) = .ok result) :
    ∃ larger, count field (.number greater) = .ok larger ∧ result ≤ larger := by
  have nonnegative := nonneg_of_count_eq_ok accepted
  rw [count_of_nonneg field nonnegative] at accepted
  obtain rfl := Except.ok.inj accepted
  refine ⟨_, count_of_nonneg field (nonnegative.trans ordered), ?_⟩
  exact saturated_le_saturated (Nat.floor_le_floor ordered)

/-- A number whose value is a natural number that fits a word states exactly that. -/
theorem exists_count_of_natural
    (field : Field)
    {number : Number}
    {magnitude : Nat}
    (value : number.toRat = magnitude)
    (fits : magnitude < UInt64.size) :
    ∃ result, count field (.number number) = .ok result ∧ result.toNat = magnitude := by
  have nonnegative : 0 ≤ number.toRat := by
    rw [value]
    exact Nat.cast_nonneg magnitude
  refine ⟨_, count_of_nonneg field nonnegative, ?_⟩
  rw [value, Nat.floor_natCast, toNat_saturated_of_lt fits]

/-- A count that is stated as a number is read back. -/
theorem count_ofUInt64
    (field : Field)
    (result : UInt64) :
    count field (Json.ofUInt64 result) = .ok result := by
  obtain ⟨again, accepted, same⟩ :=
    exists_count_of_natural field (Number.toRat_ofUInt64 result) result.toNat_lt
  rw [Json.ofUInt64, accepted, UInt64.toNat_inj.1 same]

/--
A number states a count exactly when its value is not below zero, and the count is then the integer part of
the value, or the largest word if that is less. All other values are rejected with the name of the field.
So a natural number that fits a word is its own count however it is written, numbers of one value have one
count, greater numbers have no lesser counts, and a count is read back.
-/
theorem count_eq_floor_up_to_largest (field : Field) :
    (∀ number : Number, 0 ≤ number.toRat →
        ∃ result, count field (.number number) = .ok result ∧
          result.toNat = min ⌊number.toRat⌋₊ (UInt64.size - 1)) ∧
      (∀ number : Number, number.toRat < 0 →
        count field (.number number) = .error (.invalidField field)) ∧
      (∀ value, (∀ number, value ≠ .number number) →
        count field value = .error (.invalidField field)) ∧
      (∀ (number : Number) (magnitude : Nat), number.toRat = magnitude → magnitude < UInt64.size →
        ∃ result, count field (.number number) = .ok result ∧ result.toNat = magnitude) ∧
      (∀ left right : Number, left.toRat = right.toRat →
        count field (.number left) = count field (.number right)) ∧
      (∀ lesser greater : Number, lesser.toRat ≤ greater.toRat →
        ∀ result, count field (.number lesser) = .ok result →
          ∃ larger, count field (.number greater) = .ok larger ∧ result ≤ larger) ∧
      ∀ value result, count field value = .ok result → count field (Json.ofUInt64 result) = .ok result := by
  refine ⟨?_, ?_, ?_, ?_, ?_, ?_, ?_⟩
  · intro number nonnegative
    exact ⟨_, count_of_nonneg field nonnegative, toNat_saturated _⟩
  · intro number negative
    exact count_of_neg field negative
  · intro value notNumber
    exact count_of_not_number field notNumber
  · intro number magnitude value fits
    exact exists_count_of_natural field value fits
  · intro left right sameValue
    exact count_congr field sameValue
  · intro lesser greater ordered result accepted
    exact exists_count_ge ordered accepted
  · intro value result accepted
    exact count_ofUInt64 field result

/-- The binary64 value `2 ^ 63`, which is an integer in range too. -/
def middleWord : Binary64 :=
  { negative := false, mantissa := 0x10000000000000, exponent := 11, canonical := by decide }

/-- The binary64 value `2 ^ 64`, the least one beyond all words. -/
def beyondWords : Binary64 :=
  { negative := false, mantissa := 0x10000000000000, exponent := 12, canonical := by decide }

/-- The greatest binary64 value below zero. -/
def justBelowZero : Binary64 :=
  { negative := true, mantissa := 1, exponent := -1074, canonical := by decide }

theorem count_eq_floor_up_to_largest_edgeSamples :
    (0 ≤ (Number.float beyondWords).toRat ∧
        count .limit (.number (.float beyondWords)) = .ok 0xffffffffffffffff) ∧
      ((Number.float justBelowZero).toRat < 0 ∧
        count .skip (.number (.float justBelowZero)) = .error (.invalidField .skip)) ∧
      count .skip (.string "1") = .error (.invalidField .skip) ∧
      ((Number.float (.zero true)).toRat = 0 ∧ count .limit (.number (.float (.zero true))) = .ok 0) ∧
      ((Number.float middleWord).toRat = (Number.ofUInt64 0x8000000000000000).toRat ∧
        count .limit (.number (.float middleWord)) = .ok 0x8000000000000000) ∧
      ((Number.float middleWord).toRat ≤ (Number.float beyondWords).toRat ∧
        ∃ larger, count .limit (.number (.float beyondWords)) = .ok larger ∧ 0x8000000000000000 ≤ larger) ∧
      count .limit (Json.ofUInt64 0xffffffffffffffff) = .ok 0xffffffffffffffff := by
  have middle : (Number.float middleWord).toRat = (0x8000000000000000 : Nat) := by
    norm_num [Binary64.toRat, Binary64.magnitude, middleWord]
  have beyond : (Number.float beyondWords).toRat = (0x10000000000000000 : Nat) := by
    norm_num [Binary64.toRat, Binary64.magnitude, beyondWords]
  have below : (Number.float justBelowZero).toRat < 0 := by
    norm_num [Binary64.toRat, Binary64.magnitude, justBelowZero]
  have zero : (Number.float (.zero true)).toRat = (0 : Nat) := by
    norm_num [Binary64.toRat, Binary64.magnitude, Binary64.zero]
  have ordered : (Number.float middleWord).toRat ≤ (Number.float beyondWords).toRat := by
    rw [middle, beyond]
    norm_num
  have asWord : (Number.ofUInt64 0x8000000000000000).toRat = (0x8000000000000000 : Nat) :=
    Number.toRat_ofUInt64 _
  have nonnegative : 0 ≤ (Number.float beyondWords).toRat := beyond ▸ Nat.cast_nonneg _
  obtain ⟨accepts, -, -, natural, same, monotone, readBack⟩ := count_eq_floor_up_to_largest .limit
  obtain ⟨-, rejects, rejectsOthers, -⟩ := count_eq_floor_up_to_largest .skip
  obtain ⟨largest, acceptedLargest, isLargest⟩ := accepts _ nonnegative
  obtain ⟨least, acceptedLeast, isLeast⟩ := natural _ 0 zero (by decide)
  obtain ⟨word, acceptedWord, isWord⟩ := natural _ 0x8000000000000000 asWord (by decide)
  rw [beyond, Nat.floor_natCast] at isLargest
  obtain rfl : largest = 0xffffffffffffffff := UInt64.toNat_inj.1 isLargest
  obtain rfl : least = 0 := UInt64.toNat_inj.1 isLeast
  obtain rfl : word = 0x8000000000000000 := UInt64.toNat_inj.1 isWord
  have acceptedMiddle := (same _ _ (middle.trans asWord.symm)).trans acceptedWord
  refine ⟨⟨nonnegative, acceptedLargest⟩, ⟨below, rejects _ below⟩, ?_, ⟨?_, acceptedLeast⟩, ?_, ?_, ?_⟩
  · apply rejectsOthers
    simp
  · rw [zero, Nat.cast_zero]
  · exact ⟨middle.trans asWord.symm, acceptedMiddle⟩
  · exact ⟨ordered, monotone _ _ ordered _ acceptedMiddle⟩
  · exact readBack _ _ acceptedLargest

end Request
end QueryFilter
