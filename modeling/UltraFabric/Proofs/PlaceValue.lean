/-
# UltraFabric.Proofs.PlaceValue — the bits of a parameter are those of its number

A parameter is written loosely.  Whatever it is, its bits are those of one text of bits, read from the end
(`Property.toList_bitsFromLeast`): such a text is its own, a number has one in two's complement, and what is
neither has that of zero.

Bits are compared with a number place by place: place `i` of their value is the bit at `i`
(`Number.testBit_valueFromLeast`).  The lowest bits that are asked for have therefore the value of the whole
text, but for multiples of a power of two (`Property.valueFromLeast_take`), and the text of a number has the
value of this number (`Property.valueFromLeast_digits`).  Of the texts of bits those are numbers that have a
value below `2 ^ 63`, however long they are (`Property.asInt?_of_isBits`); one with a larger value has its
bits and is no number.
-/
import Mathlib.Algebra.Order.Ring.Int
import Mathlib.Data.Nat.Bitwise
import UltraFabric.Image.Settings

namespace UltraFabric

set_option autoImplicit false

/-! ### The value of bits -/

theorem Property.isBits_iff {bits : List Char} :
    isBits bits = true ↔ ∀ c ∈ bits, c = '0' ∨ c = '1' := by
  simp [isBits]

namespace Number

open Property (isBits isBits_iff)

/-- The number that bits stand for, the least one first. -/
def valueFromLeast (bits : List Char) : ℕ :=
  Nat.ofDigitChars 2 bits.reverse 0

theorem valueFromLeast_cons (bit : Char) (rest : List Char) :
    valueFromLeast (bit :: rest) = 2 * valueFromLeast rest + (bit.toNat - '0'.toNat) := by
  rw [valueFromLeast, List.reverse_cons, Nat.ofDigitChars_append, Nat.ofDigitChars_cons,
    Nat.ofDigitChars_nil, valueFromLeast]

/-- **Each place of the value is one of the bits**; there are no places beyond them. -/
theorem testBit_valueFromLeast {bits : List Char} (binary : isBits bits = true) (i : ℕ) :
    (valueFromLeast bits).testBit i = decide (bits[i]? = some '1') := by
  rw [isBits_iff] at binary
  induction bits generalizing i with
  | nil => simp [valueFromLeast]
  | cons bit rest ih =>
      obtain ⟨here, later⟩ := List.forall_mem_cons.1 binary
      have digit : bit.toNat - '0'.toNat < 2 ∧ (bit.toNat - '0'.toNat = 1 ↔ bit = '1') := by
        rcases here with rfl | rfl <;> decide
      rw [valueFromLeast_cons]
      cases i with
      | zero =>
          rw [Nat.testBit_zero, Nat.mul_add_mod, Nat.mod_eq_of_lt digit.1, List.getElem?_cons_zero,
            decide_eq_decide, Option.some.injEq]
          exact digit.2
      | succ i =>
          rw [Nat.testBit_add_one, Nat.mul_add_div (show 0 < 2 by decide), Nat.div_eq_of_lt digit.1,
            add_zero, List.getElem?_cons_succ]
          exact ih later i

theorem isBits_toDigits (number : ℕ) : isBits (Nat.toDigits 2 number) = true := by
  have last : ∀ digit < 2, digit.digitChar = '0' ∨ digit.digitChar = '1' := by decide
  rw [isBits_iff]
  induction number using Nat.strongRecOn with
  | ind number ih =>
      intro c member
      rw [Nat.toDigits_eq_if (by decide)] at member
      split at member
      · rename_i small
        obtain rfl := List.mem_singleton.1 member
        exact last _ small
      · rcases List.mem_append.1 member with front | back
        · exact ih _ (by omega) c front
        · obtain rfl := List.mem_singleton.1 back
          exact last _ (Nat.mod_lt _ (by decide))

/-! ### Reading digits -/

theorem le_ofDigitChars {base : ℕ} (positive : 0 < base) (digits : List Char) (value : ℕ) :
    value ≤ Nat.ofDigitChars base digits value := by
  induction digits generalizing value with
  | nil => exact le_rfl
  | cons c rest ih =>
      rw [Nat.ofDigitChars_cons]
      calc value ≤ base * value := Nat.le_mul_of_pos_left value positive
        _ ≤ base * value + (c.toNat - '0'.toNat) := Nat.le_add_right ..
        _ ≤ _ := ih _

/-- Digits are read as what they stand for, unless that is too large.  It is enough to look at the end:
more digits never make a number smaller. -/
theorem readUp_digits {format : WholeFormat} (positive : 0 < format.base) {digits : List Char}
    (known : ∀ c ∈ digits, digit? format.base c = some (c.toNat - '0'.toNat)) (value : ℕ)
    (inside : (value : ℤ) ≤ format.greatest) :
    readUp format value digits =
      if (Nat.ofDigitChars format.base digits value : ℤ) ≤ format.greatest then
        .ok (Nat.ofDigitChars format.base digits value)
      else .error .tooLarge := by
  induction digits generalizing value with
  | nil => rw [Nat.ofDigitChars_nil, if_pos inside, readUp]
  | cons c rest ih =>
      obtain ⟨here, later⟩ := List.forall_mem_cons.1 known
      have next : (value : ℤ) * format.base + ((c.toNat - '0'.toNat : ℕ) : ℤ) =
          ((format.base * value + (c.toNat - '0'.toNat) : ℕ) : ℤ) := by
        rw [Nat.cast_add, Nat.cast_mul, mul_comm]
      simp only [readUp, here]
      rw [next, Nat.ofDigitChars_cons]
      split
      · rename_i fits
        exact ih later _ fits
      · rename_i large
        have grown := le_ofDigitChars positive rest (format.base * value + (c.toNat - '0'.toNat))
        rw [if_neg (by omega)]

/-- A text of bits is a number exactly when its value fits. -/
theorem readWhole_of_isBits {bits : List Char} (binary : isBits bits = true) (some : bits ≠ []) :
    readWhole bits64 bits =
      if valueFromLeast bits.reverse < 2 ^ 63 then .ok (valueFromLeast bits.reverse)
      else .error .tooLarge := by
  rw [isBits_iff] at binary
  have known : ∀ c ∈ bits, digit? bits64.base c = .some (c.toNat - '0'.toNat) := by
    intro c member
    rcases binary c member with rfl | rfl <;> decide
  have unsigned : readWhole bits64 bits = readUp bits64 0 bits := by
    obtain ⟨first, rest, rfl⟩ := List.exists_cons_of_ne_nil some
    rcases binary first List.mem_cons_self with rfl | rfl <;> simp [readWhole]
  have value : valueFromLeast bits.reverse = Nat.ofDigitChars bits64.base bits 0 := by
    rw [valueFromLeast, List.reverse_reverse]
    rfl
  have range : (valueFromLeast bits.reverse : ℤ) ≤ bits64.greatest ↔
      valueFromLeast bits.reverse < 2 ^ 63 := by
    simp only [bits64, signed64Bit]
    omega
  rw [unsigned, ← Int.natCast_zero, readUp_digits (by decide) known 0 (by decide), ← value]
  exact if_congr range rfl rfl

end Number

namespace Property

open Number (valueFromLeast testBit_valueFromLeast)

/-! ### The text of bits of a parameter -/

/-- The digits of a number in two's complement of 64 bits, the least one last. -/
def digitsOfInt (value : ℤ) : List Char :=
  Nat.toDigits 2 (value % 18446744073709551616).toNat

/-- A parameter as a text of bits; what is neither such a text nor a number counts as zero. -/
def digits (property : Property) : List Char :=
  match property with
  | .text value =>
    if isBits value.toList then value.toList else digitsOfInt (property.asInt?.getD 0)
  | _ => digitsOfInt (property.asInt?.getD 0)

/-- A parameter is a text of bits, or only its number matters. -/
theorem digits_cases (property : Property) :
    (∃ text : String, property = .text text ∧ isBits text.toList = true ∧
      property.digits = text.toList ∧ ∀ count, (property.bitsFromLeast count).toList =
        (List.range count).map (bitOfText text.toList)) ∨
    property.digits = digitsOfInt (property.asInt?.getD 0) ∧
      ∀ count, (property.bitsFromLeast count).toList =
        (List.range count).map (bitOfInt (property.asInt?.getD 0)) := by
  cases property with
  | int value => exact Or.inr ⟨rfl, fun _ => String.toList_ofList⟩
  | bool value => exact Or.inr ⟨rfl, fun _ => String.toList_ofList⟩
  | text value =>
      by_cases binary : isBits value.toList = true
      · exact Or.inl ⟨value, rfl, binary, if_pos binary, fun _ => by simp [bitsFromLeast, binary]⟩
      · exact Or.inr ⟨if_neg binary, fun _ => by simp [bitsFromLeast, binary]⟩

theorem isBits_digitsOfInt (value : ℤ) : isBits (digitsOfInt value) = true :=
  Number.isBits_toDigits _

theorem isBits_digits (property : Property) : isBits property.digits = true := by
  obtain ⟨text, -, binary, same, -⟩ | ⟨same, -⟩ := property.digits_cases
  · rwa [same]
  · rw [same]
    exact isBits_digitsOfInt _

/-! ### Bits -/

/-- A text of bits has the places of its value. -/
theorem bitOfText_eq {bits : List Char} (binary : isBits bits = true) (i : ℕ) :
    bitOfText bits i = if (valueFromLeast bits.reverse).testBit i then '1' else '0' := by
  have reversed : isBits bits.reverse = true := by rwa [isBits, List.all_reverse]
  rw [testBit_valueFromLeast reversed, bitOfText]
  cases found : bits.reverse[i]? with
  | none => rfl
  | some bit =>
      rcases isBits_iff.1 reversed bit (List.mem_of_getElem? found) with rfl | rfl <;> rfl

theorem valueFromLeast_digitsOfInt (value : ℤ) :
    valueFromLeast (digitsOfInt value).reverse = (value % 18446744073709551616).toNat := by
  rw [valueFromLeast, List.reverse_reverse, digitsOfInt, Nat.ofDigitChars_toDigits (by decide) (by decide)]

theorem bitOfText_digitsOfInt (value : ℤ) : bitOfText (digitsOfInt value) = bitOfInt value := by
  funext i
  rw [bitOfText_eq (isBits_digitsOfInt value), valueFromLeast_digitsOfInt, bitOfInt]

/-- **The bits of a parameter are those of its text of bits**, read from the end. -/
theorem toList_bitsFromLeast (property : Property) (count : ℕ) :
    (property.bitsFromLeast count).toList = (List.range count).map (bitOfText property.digits) := by
  obtain ⟨text, -, -, same, bits⟩ | ⟨same, bits⟩ := property.digits_cases
  · rw [bits, same]
  · rw [bits, same, bitOfText_digitsOfInt]

theorem length_bitsFromLeast (property : Property) (count : ℕ) :
    (property.bitsFromLeast count).length = count := by
  rw [← String.length_toList, toList_bitsFromLeast, List.length_map, List.length_range]

theorem getElem?_bitsFromLeast (property : Property) {i count : ℕ} (asked : i < count) :
    (property.bitsFromLeast count).toList[i]? = some (bitOfText property.digits i) := by
  rw [toList_bitsFromLeast, List.getElem?_map, List.getElem?_range asked, Option.map_some]

theorem isBits_bitsFromLeast (property : Property) (count : ℕ) :
    isBits (property.bitsFromLeast count).toList = true := by
  rw [toList_bitsFromLeast, isBits_iff]
  intro c member
  obtain ⟨i, -, rfl⟩ := List.mem_map.1 member
  rw [bitOfText_eq property.isBits_digits]
  split
  · exact Or.inr rfl
  · exact Or.inl rfl

/-- **The lowest bits have the value of all**, but for multiples of a power of two. -/
theorem valueFromLeast_take (property : Property) {places count : ℕ} (asked : places ≤ count) :
    valueFromLeast ((property.bitsFromLeast count).toList.take places) =
      valueFromLeast property.digits.reverse % 2 ^ places := by
  have binary : isBits ((property.bitsFromLeast count).toList.take places) = true :=
    isBits_iff.2 fun c member =>
      isBits_iff.1 (property.isBits_bitsFromLeast count) c (List.mem_of_mem_take member)
  apply Nat.eq_of_testBit_eq
  intro i
  rw [testBit_valueFromLeast binary, Nat.testBit_mod_two_pow, List.getElem?_take]
  by_cases inside : i < places
  · rw [if_pos inside, property.getElem?_bitsFromLeast (by omega), bitOfText_eq property.isBits_digits,
      decide_eq_true inside, Bool.true_and]
    cases (valueFromLeast property.digits.reverse).testBit i <;> rfl
  · rw [if_neg inside, decide_eq_false inside, Bool.false_and]
    rfl

/-! ### Numbers -/

/-- A text of bits is a number exactly when its value is one of 64 bits with a sign. -/
theorem asInt?_of_isBits {text : String} (binary : isBits text.toList = true) (some : text ≠ "") :
    (Property.text text).asInt? =
      if valueFromLeast text.toList.reverse < 2 ^ 63 then
        .some (valueFromLeast text.toList.reverse : ℤ) else none := by
  have notEmpty : text.isEmpty = false := by simpa using some
  have format : (if ! text.isEmpty && isBits text.toList then Number.bits64 else
      Number.signed64Bit) = Number.bits64 := by
    rw [notEmpty, binary]
    rfl
  simp only [asInt?]
  rw [format, Number.readWhole_of_isBits binary (by simpa using some)]
  split <;> rfl

/-- **The text of bits of a number has the value of the number**, in whichever way it is written. -/
theorem valueFromLeast_digits {property : Property} {value : ℤ}
    (number : property.asInt? = some value) :
    (valueFromLeast property.digits.reverse : ℤ) = value % 18446744073709551616 := by
  obtain ⟨text, rfl, binary, same, -⟩ | ⟨same, -⟩ := property.digits_cases
  · -- The empty text is one of bits, and no number.
    have notEmpty : text ≠ "" := by
      rintro rfl
      cases number
    rw [asInt?_of_isBits binary notEmpty, Option.ite_none_right_eq_some, Option.some.injEq] at number
    obtain ⟨small, rfl⟩ := number
    rw [same]
    omega
  · rw [same, number, Option.getD_some, valueFromLeast_digitsOfInt]
    omega

/-- As many of the lowest bits as a number has places. -/
theorem valueFromLeast_take_of_asInt? {property : Property} {value : ℤ}
    (number : property.asInt? = some value) {places count : ℕ} (asked : places ≤ count)
    (narrow : places ≤ 64) :
    (valueFromLeast ((property.bitsFromLeast count).toList.take places) : ℤ) = value % 2 ^ places := by
  have power : (2 : ℤ) ^ places ∣ 18446744073709551616 := pow_dvd_pow 2 narrow
  rw [property.valueFromLeast_take asked, Int.natCast_mod, valueFromLeast_digits number, Nat.cast_pow,
    Nat.cast_ofNat, Int.emod_emod_of_dvd value power]

/-- Numbers have no more than 64 places. -/
theorem bitOfText_digits_of_le {property : Property} {value : ℤ} (number : property.asInt? = some value)
    {i : ℕ} (beyond : 64 ≤ i) : bitOfText property.digits i = '0' := by
  have narrow := valueFromLeast_digits number
  have small : valueFromLeast property.digits.reverse < 2 ^ i :=
    calc valueFromLeast property.digits.reverse < 2 ^ 64 := by omega
      _ ≤ 2 ^ i := Nat.pow_le_pow_right (by decide) beyond
  rw [bitOfText_eq property.isBits_digits, Nat.testBit_lt_two_pow small]
  rfl

end Property

/-- **The bits of a parameter are as many as asked for and stand for its number**, in two's complement of
64 bits and with zeros behind them; a text of bits gives its own, from the end. -/
theorem Property.bits_placed (property : Property) (count : ℕ) :
    (property.bitsFromLeast count).length = count ∧
    (∀ c ∈ (property.bitsFromLeast count).toList, c = '0' ∨ c = '1') ∧
    (∀ value, property.asInt? = some value →
      (Number.valueFromLeast ((property.bitsFromLeast count).toList.take (min count 64)) : ℤ) =
        value % 2 ^ min count 64 ∧
      ∀ i, 64 ≤ i → i < count → (property.bitsFromLeast count).toList[i]? = some '0') ∧
    ∀ text : String, property = .text text → (∀ c ∈ text.toList, c = '0' ∨ c = '1') → ∀ i < count,
      (i < text.length →
        (property.bitsFromLeast count).toList[i]? = text.toList[text.length - 1 - i]?) ∧
      (text.length ≤ i → (property.bitsFromLeast count).toList[i]? = some '0') := by
  refine ⟨property.length_bitsFromLeast count, isBits_iff.1 (property.isBits_bitsFromLeast count),
    fun value number => ⟨?_, fun i beyond asked => ?_⟩, ?_⟩
  · exact valueFromLeast_take_of_asInt? number (min_le_left count 64) (min_le_right count 64)
  · rw [property.getElem?_bitsFromLeast asked, bitOfText_digits_of_le number beyond]
  · rintro text rfl binary i asked
    have own : (Property.text text).digits = text.toList := if_pos (isBits_iff.2 binary)
    rw [getElem?_bitsFromLeast _ asked, own, ← String.length_toList]
    refine ⟨fun inside => ?_, fun beyond => ?_⟩
    · rw [bitOfText, List.getElem?_reverse inside, List.getElem?_eq_getElem (by omega), Option.getD_some]
    · rw [bitOfText, List.getElem?_eq_none (by rwa [List.length_reverse]), Option.getD_none]

/-- A negative number beyond its 64 places; a number with more zeros in front than it may have digits; a
text that is too large for a number and still has its bits. -/
theorem Property.bits_placed_samples :
    let negative := ((Property.int (-5)).bitsFromLeast 66).toList
    let padded := Property.text (String.ofList (List.replicate 70 '0' ++ ['1', '1', '0']))
    let large := Property.text (String.ofList (List.replicate 64 '1'))
    ((Number.valueFromLeast (negative.take 64) : ℤ) = 18446744073709551611 ∧ negative[65]? = some '0') ∧
    (padded.asInt? = some 6 ∧
      (Number.valueFromLeast ((padded.bitsFromLeast 2).toList.take 2) : ℤ) = 2) ∧
    (large.asInt? = none ∧ (large.bitsFromLeast 80).toList[63]? = some '1' ∧
      (large.bitsFromLeast 80).toList[64]? = some '0') := by
  intro negative padded large
  have six : padded.asInt? = some 6 := by decide +kernel
  have noNumber : large.asInt? = none := by decide +kernel
  have binary : ∀ c ∈ (String.ofList (List.replicate 64 '1')).toList, c = '0' ∨ c = '1' := by simp
  have length : (String.ofList (List.replicate 64 '1')).length = 64 := by
    rw [String.length_ofList, List.length_replicate]
  obtain ⟨-, -, number, -⟩ := bits_placed (.int (-5)) 66
  obtain ⟨value, zeros⟩ := number (-5) rfl
  obtain ⟨-, -, number', -⟩ := bits_placed padded 2
  obtain ⟨-, -, -, bits⟩ := bits_placed large 80
  refine ⟨⟨value, zeros 65 (by decide) (by decide)⟩, ⟨six, (number' 6 six).1⟩, noNumber, ?_, ?_⟩
  · rw [(bits _ rfl binary 63 (by decide)).1 (by omega), length]
    simp
  · exact (bits _ rfl binary 64 (by decide)).2 length.le

namespace Image.Setting

open Number (valueFromLeast)

/-! ### Bits in the image -/

/-- A parameter that is missing has the bits of zero. -/
theorem value?_bits (cell : Cell) (key : String) (count : ℕ) :
    (Setting.bits key count).value? cell =
      some (.text ((cell.params[key]?.getD (.int 0)).bitsFromLeast count)) := by
  have zero : ∀ i, Property.bitOfText (Property.int 0).digits i = '0' := by
    intro i
    rw [Property.bitOfText_eq (Property.isBits_digits _),
      show valueFromLeast (Property.int 0).digits.reverse = 0 by decide, Nat.zero_testBit]
    rfl
  have zeros : (Property.int 0).bitsFromLeast count = String.ofList (List.replicate count '0') := by
    rw [← String.toList_inj, Property.toList_bitsFromLeast, List.map_congr_left fun i _ => zero i,
      List.map_const', List.length_range, String.toList_ofList]
  rw [value?]
  cases cell.params[key]? with
  | none => rw [Option.getD_none, zeros]
  | some value => rfl

/-- **The bits of a cell in the image have the value of its parameter**, as far as there is room. -/
theorem exists_value?_bits (cell : Cell) (key : String) {count : ℕ} (narrow : count ≤ 64) :
    ∃ bits, (Setting.bits key count).value? cell = some (.text bits) ∧ bits.length = count ∧
      ∀ value, (cell.params[key]?.getD (.int 0)).asInt? = some value →
        (valueFromLeast bits.toList : ℤ) = value % 2 ^ count := by
  refine ⟨_, value?_bits cell key count, Property.length_bitsFromLeast _ count, fun value number => ?_⟩
  have all := Property.valueFromLeast_take_of_asInt? number le_rfl narrow
  rwa [List.take_of_length_le] at all
  rw [String.length_toList, Property.length_bitsFromLeast]

end Image.Setting

end UltraFabric
