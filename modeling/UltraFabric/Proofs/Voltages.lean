/-
# UltraFabric.Proofs.Voltages — a voltage in its form stays as it is

Voltages are compared as texts.  That makes sense only if one voltage has one text: what has been brought
into the form with one decimal place must not be changed by being brought into it again
(`Voltage.normalize?_of_normalize?`).  The text that is written is one part, digits around a point or one
of two words, and its letter is taken off again; what is left is read as a number of the same tenths, and
that is a matter of rounding (`Single.exists_ofDecimal_tenths`).

A minus sign separates parts, so that no number is negative (`Single.wellFormed_read`); of a negative one
the sign would be lost the second time.  The voltages of pads and of banks are of this form, those of banks
as long as records alone set them (`Plan.NormalBanks`).
-/
import Mathlib.Data.List.TakeWhile
import UltraFabric.Proofs.Rounding
import UltraFabric.Proofs.Stopped
import UltraFabric.Proofs.Tasks

namespace UltraFabric

set_option autoImplicit false

/-! ### Parts -/

namespace Text

variable {separator : Char → Bool}

/-- No part has a separator in it. -/
theorem not_separator_of_mem_splitWhere {text part : List Char}
    (member : part ∈ splitWhere separator text) {c : Char} (inside : c ∈ part) :
    separator c = false := by
  have kept : c ∈ (splitWhere separator text).flatten := List.mem_flatten.2 ⟨part, member, inside⟩
  rw [flatten_splitWhere, List.mem_filter, Bool.not_eq_true'] at kept
  exact kept.2

/-- A text without separators is its only part. -/
theorem splitWhere_of_forall_not {text : List Char} (whole : ∀ c ∈ text, separator c = false) :
    splitWhere separator text = [text] := by
  induction text with
  | nil => rfl
  | cons c rest ih =>
      obtain ⟨here, later⟩ := List.forall_mem_cons.1 whole
      simp [splitWhere, here, ih later]

end Text

/-! ### Digits around a point -/

namespace Number

theorem digitsValue_eq (digits : List Char) :
    Single.digitsValue digits = Nat.ofDigitChars 10 digits 0 := by
  simp only [Single.digitsValue, Nat.ofDigitChars, Nat.mul_comm]

/-- The last digit may stand behind a point. -/
theorem digitsValue_tenths (count : ℕ) :
    Single.digitsValue (Nat.toDigits 10 (count / 10) ++ Nat.toDigits 10 (count % 10)) = count := by
  have last := Nat.toDigits_of_lt_base (Nat.mod_lt count (show 0 < 10 by norm_num))
  rw [digitsValue_eq, Nat.ofDigitChars_append, Nat.ofDigitChars_eq_ofDigitChars_zero,
    Nat.ofDigitChars_toDigits (by norm_num) le_rfl, Nat.ofDigitChars_toDigits (by norm_num) le_rfl, last,
    List.length_singleton, pow_one]
  exact Nat.div_add_mod count 10

namespace Single

theorem toTenths_finite (mantissa : ℕ) (exponent : ℤ) :
    (toTenths (.finite false mantissa exponent)).toList =
      Nat.toDigits 10 (tenths mantissa exponent / 10) ++
        '.' :: Nat.toDigits 10 (tenths mantissa exponent % 10) := by
  simp [toTenths, Nat.toString_eq_repr]

/-- Digits with a point behind them, and digits behind the point. -/
theorem readDecimal_digits {whole places : List Char} (wholeDigits : ∀ c ∈ whole, c.isDigit = true)
    (placesDigits : ∀ c ∈ places, c.isDigit = true) (some : whole ≠ []) (negative : Bool) :
    readDecimal negative (whole ++ '.' :: places) =
      .some (ofDecimal negative (digitsValue (whole ++ places)) (0 - places.length)) := by
  have point : '.'.isDigit = false := by decide
  have before : (whole ++ '.' :: places).takeWhile Char.isDigit = whole := by
    rw [List.takeWhile_append_of_pos wholeDigits, List.takeWhile_cons_of_neg (by simp [point]),
      List.append_nil]
  have behind : (whole ++ '.' :: places).dropWhile Char.isDigit = '.' :: places := by
    rw [List.dropWhile_append_of_pos wholeDigits, List.dropWhile_cons_of_neg (by simp [point])]
  have all : places.takeWhile Char.isDigit = places := List.takeWhile_eq_self_iff.2 placesDigits
  have rest : places.dropWhile Char.isDigit = [] := List.dropWhile_eq_nil_iff.2 placesDigits
  simp only [readDecimal, before, behind, all, rest]
  rw [if_neg (by simp [some])]
  rfl

/-- Digits around a point are read as a number. -/
theorem read_digits {whole places : List Char} (wholeDigits : ∀ c ∈ whole, c.isDigit = true)
    (placesDigits : ∀ c ∈ places, c.isDigit = true) (some : whole ≠ []) :
    read (whole ++ '.' :: places) =
      .some (ofDecimal false (digitsValue (whole ++ places)) (0 - places.length)) := by
  obtain ⟨first, more, rfl⟩ := List.exists_cons_of_ne_nil some
  have digit := wholeDigits first List.mem_cons_self
  -- The point is in none of the words for numbers that are not finite.
  have point : '.' ∈ (first :: more ++ '.' :: places).map Char.toLower :=
    List.mem_map.2 ⟨'.', by simp, by decide⟩
  have noWord : ∀ word : String, '.' ∉ word.toList →
      (first :: more ++ '.' :: places).map Char.toLower ≠ word.toList :=
    fun word none same => none (same ▸ point)
  have decimal := readDecimal_digits wholeDigits placesDigits some false
  unfold read
  simp only
  split
  · rename_i sign
    cases sign
    exact absurd digit (by decide)
  · rename_i sign
    cases sign
    exact absurd digit (by decide)
  · rw [if_neg (not_or.2 ⟨noWord _ (by decide), noWord _ (by decide)⟩), if_neg (noWord _ (by decide))]
    exact decimal

/-- **What is written in tenths is read as something that is written in the same way.** -/
theorem exists_read_toTenths {value : Single} (wellFormed : value.WellFormed false) :
    ∃ value', read value.toTenths.toList = some value' ∧ value'.toTenths = value.toTenths := by
  cases value with
  | notANumber => exact ⟨.notANumber, by decide, rfl⟩
  | infinite negative =>
      obtain rfl : negative = false := wellFormed
      exact ⟨.infinite false, by decide, rfl⟩
  | finite negative mantissa exponent =>
      obtain ⟨rfl, small, fine, below⟩ := wellFormed
      obtain ⟨mantissa', exponent', readAs, same⟩ :=
        exists_ofDecimal_tenths small fine below false
      have digits : ∀ count, ∀ c ∈ Nat.toDigits 10 count, c.isDigit = true := fun count c member =>
        Nat.isDigit_of_mem_toDigits (by norm_num) le_rfl member
      have last := Nat.toDigits_of_lt_base
        (Nat.mod_lt (tenths mantissa exponent) (show 0 < 10 by norm_num))
      refine ⟨.finite false mantissa' exponent', ?_, ?_⟩
      · rw [toTenths_finite, read_digits (digits _) (digits _) Nat.toDigits_ne_nil,
          digitsValue_tenths, last, List.length_singleton]
        exact congrArg some readAs
      · simp only [toTenths, same]

end Single

end Number

/-! ### Voltages -/

namespace Voltage

open Number (Single)

theorem withoutUnit_append (part : List Char) : withoutUnit (part ++ ['V']) = part := by
  simp [withoutUnit]

theorem mem_of_mem_withoutUnit {part : List Char} {c : Char} (inside : c ∈ withoutUnit part) :
    c ∈ part := by
  unfold withoutUnit at inside
  split at inside
  · rename_i rest unit
    rw [← List.mem_reverse, unit]
    exact List.mem_cons_of_mem _ (List.mem_reverse.1 inside)
  · rename_i rest unit
    rw [← List.mem_reverse, unit]
    exact List.mem_cons_of_mem _ (List.mem_reverse.1 inside)
  · exact inside

/-- Nothing that is written in tenths is a separator. -/
theorem not_isSeparator_of_mem_toTenths {value : Single} (wellFormed : value.WellFormed false) :
    ∀ c ∈ value.toTenths.toList, isSeparator c = false := by
  have digits : ∀ count, ∀ c ∈ Nat.toDigits 10 count, isSeparator c = false := by
    intro count c member
    have digit := Nat.isDigit_of_mem_toDigits (by norm_num) le_rfl member
    rw [Bool.eq_false_iff]
    intro separates
    simp only [isSeparator, Bool.or_eq_true, decide_eq_true_eq] at separates
    rcases separates with (rfl | rfl) | rfl <;> cases digit
  have word : ∀ word : String, word.toList.all (! isSeparator ·) = true →
      ∀ c ∈ word.toList, isSeparator c = false := by
    intro word none c member
    simpa using List.all_eq_true.1 none c member
  cases value with
  | notANumber => exact word "NaN" (by decide)
  | infinite negative =>
      obtain rfl : negative = false := wellFormed
      exact word "inf" (by decide)
  | finite negative mantissa exponent =>
      obtain ⟨rfl, -⟩ := wellFormed
      rw [Single.toTenths_finite]
      intro c member
      rcases List.mem_append.1 member with whole | rest
      · exact digits _ c whole
      · rcases List.mem_cons.1 rest with rfl | place
        · decide
        · exact digits _ c place

/-- The text of a voltage is a voltage, and has this text. -/
theorem normalize?_text {value : Single} (wellFormed : value.WellFormed false) :
    normalize? (text value) = some (text value) := by
  obtain ⟨value', readAs, same⟩ := Single.exists_read_toTenths wellFormed
  have whole : ∀ c ∈ (text value).toList, isSeparator c = false := by
    rw [text, String.toList_append]
    intro c member
    rcases List.mem_append.1 member with inside | unit
    · exact not_isSeparator_of_mem_toTenths wellFormed c inside
    · obtain rfl : c = 'V' := by simpa using unit
      decide
  have unit : withoutUnit (text value).toList = value.toTenths.toList := by
    rw [text, String.toList_append]
    exact withoutUnit_append _
  rw [normalize?, Text.splitWhere_of_forall_not whole, List.findSome?_singleton, unit, readAs,
    Option.map_some, text, text, same]

/-- A voltage is the text of a number that is not negative. -/
theorem exists_of_normalize? {written voltage : String} (normalized : normalize? written = some voltage) :
    ∃ value : Single, value.WellFormed false ∧ voltage = text value := by
  obtain ⟨value, found, rfl⟩ := Option.map_eq_some_iff.1 normalized
  obtain ⟨part, member, readAs⟩ := List.exists_of_findSome?_eq_some found
  refine ⟨value, Single.wellFormed_read (fun sign => ?_) readAs, rfl⟩
  have separator := Text.not_separator_of_mem_splitWhere member (mem_of_mem_withoutUnit sign)
  exact absurd separator (by decide)

/-- **Bringing a voltage into its form again changes nothing.** -/
theorem normalize?_of_normalize? {written voltage : String}
    (normalized : normalize? written = some voltage) : normalize? voltage = some voltage := by
  obtain ⟨value, wellFormed, rfl⟩ := exists_of_normalize? normalized
  exact normalize?_text wellFormed

theorem normalize?_of_ofStandard? {standard voltage : String}
    (found : ofStandard? standard = some voltage) : normalize? voltage = some voltage := by
  obtain ⟨part, -, normalized⟩ := List.exists_of_findSome?_eq_some found
  exact normalize?_of_normalize? normalized

end Voltage

/-- What a pad asks for is in the form in which voltages are compared. -/
theorem Cell.normalize?_of_voltage? {cell : Cell} {voltage : String}
    (asked : cell.voltage? = some voltage) : Voltage.normalize? voltage = some voltage := by
  unfold Cell.voltage? at asked
  split at asked
  · exact Voltage.normalize?_of_normalize? asked
  · obtain ⟨standard, -, found⟩ := Option.bind_eq_some_iff.1 asked
    exact Voltage.normalize?_of_ofStandard? found

namespace ConfigRecord

/-- The voltages that a bank may be given are in this form. -/
theorem normalize?_of_mem_bankVoltages :
    ∀ voltage ∈ bankVoltages, Voltage.normalize? voltage = some voltage := by
  decide +kernel

end ConfigRecord

namespace Plan

/-! ### Banks -/

/-- The voltages of all banks are in the form in which voltages are compared. -/
def NormalBanks (plan : Plan) : Prop :=
  ∀ bank voltage : String, plan.fabric.bankVoltage[bank]? = some voltage →
    Voltage.normalize? voltage = some voltage

theorem NormalBanks.congr {before after : Plan} (normal : before.NormalBanks)
    (same : after.fabric.bankVoltage = before.fabric.bankVoltage) : after.NormalBanks := by
  rw [NormalBanks, same]
  exact normal

/-- **Records bring voltages into their form** before they give them to banks. -/
theorem NormalBanks.applyRecords {plan : Plan} (normal : plan.NormalBanks)
    (records : List ConfigRecord) : (plan.applyRecords records).1.NormalBanks := by
  refine applyRecordsFrom_keeps records ?_ plan [] [] normal
  intro record _ before after claimed claimed' notices normal applied bank voltage known
  rcases bankVoltage_applyRecord applied bank with same | ⟨written, -, -, allowed, set⟩
  · exact normal bank voltage (same ▸ known)
  · rw [set] at known
    cases known
    exact ConfigRecord.normalize?_of_mem_bankVoltages _ allowed

/-- Nothing but records touches banks. -/
theorem NormalBanks.after {plan : Plan} (normal : plan.NormalBanks) (operation : Operation) :
    (plan.after operation).NormalBanks := by
  cases operation with
  | bind bel name =>
      obtain ⟨layout, occupancy, same, -⟩ := plan.bind_moves bel name
      refine normal.congr ?_
      rw [Plan.after, same]
      rfl
  | unbind bel =>
      obtain ⟨layout, occupancy, same, -⟩ := plan.unbind_moves bel
      refine normal.congr ?_
      rw [Plan.after, same]
      rfl
  | applyRecords records => exact normal.applyRecords records
  | bindWire wire net => exact normal.congr rfl
  | bindPip pip net => exact normal.congr rfl
  | unbindWire wire => exact normal.congr rfl
  | mention name => exact normal.congr rfl

theorem NormalBanks.run (operations : List Operation) :
    ∀ {plan : Plan}, plan.NormalBanks → (plan.run operations).NormalBanks := by
  induction operations with
  | nil => exact id
  | cons operation rest ih => exact fun normal => ih (normal.after operation)

end Plan

/-- **A voltage has one text.**  Whatever is brought into the form in which voltages are compared is not
changed by being brought into it again; and what is compared is in this form: the voltage that a pad asks
for, and those that banks have, whatever has been done to a plan whose banks had none other. -/
theorem Voltage.normal_forms_fixed :
    (∀ written voltage, normalize? written = some voltage → normalize? voltage = some voltage) ∧
    (∀ (cell : Cell) voltage, cell.voltage? = some voltage → normalize? voltage = some voltage) ∧
    ∀ (plan : Plan) (operations : List Operation), plan.NormalBanks →
      (plan.run operations).NormalBanks :=
  ⟨fun _ _ => normalize?_of_normalize?, fun _ _ => Cell.normalize?_of_voltage?,
    fun _ operations normal => normal.run operations⟩

/-- Half a tenth is rounded to the even tenth, once and for all; a number beyond all others keeps its
word. -/
theorem Voltage.normal_forms_fixed_samples :
    normalize? "LVCMOS_2.25V" = some "2.2V" ∧ normalize? "2.2V" = some "2.2V" ∧
    normalize? "1e39 V" = some "infV" ∧ normalize? "infV" = some "infV" := by
  have half : normalize? "LVCMOS_2.25V" = some "2.2V" := by decide +kernel
  have beyond : normalize? "1e39 V" = some "infV" := by decide +kernel
  exact ⟨half, normal_forms_fixed.1 _ _ half, beyond, normal_forms_fixed.1 _ _ beyond⟩

end UltraFabric
