import Mathlib.Data.List.Basic

/-! # Decimal texts

Numbers as texts of their decimal digits, and texts of two parts with a separator between
them that does not occur in the first one.
-/

namespace FlowCloud.Foundation

/-! ## Unsigned numbers -/

/-- The number below `bound` that the digits stand for, a plus sign in front of them being
    allowed. -/
def parseUnsigned (bound : Nat) (text : List Char) : Option Nat :=
  let digits := if text.head? = some '+' then text.tail else text
  if digits = [] ∨ digits.all Char.isDigit = false then none
  else if Nat.ofDigitChars 10 digits 0 < bound then some (Nat.ofDigitChars 10 digits 0)
  else none

theorem isDigit_of_mem_toDigits {value : Nat} {char : Char} (member : char ∈ Nat.toDigits 10 value) :
    char.isDigit = true :=
  Nat.isDigit_of_mem_toDigits (by decide) (by decide) member

theorem parseUnsigned_toDigits (bound value : Nat) :
    parseUnsigned bound (Nat.toDigits 10 value) = if value < bound then some value else none := by
  have unsigned : (Nat.toDigits 10 value).head? ≠ some '+' := by
    intro signed
    have digit := isDigit_of_mem_toDigits (List.mem_of_mem_head? signed)
    exact absurd digit (by decide)
  have digits : (Nat.toDigits 10 value).all Char.isDigit = true :=
    List.all_eq_true.mpr fun _ member => isDigit_of_mem_toDigits member
  simp only [parseUnsigned, if_neg unsigned, digits, Nat.toDigits_ne_nil, Nat.ofDigitChars_ten_toDigits]
  simp

/-! ## Separated texts -/

/-- What stands before the first separator and what stands behind it. -/
def splitFirst (separator : Char) (text : List Char) : Option (List Char × List Char) :=
  match text.dropWhile (· ≠ separator) with
  | [] => none
  | _ :: behind => some (text.takeWhile (· ≠ separator), behind)

theorem splitFirst_append {separator : Char} {before : List Char} (free : separator ∉ before) (behind : List Char) :
    splitFirst separator (before ++ separator :: behind) = some (before, behind) := by
  have other : ∀ char ∈ before, decide (char ≠ separator) = true := by
    intro char member
    rw [decide_eq_true_eq]
    rintro rfl
    exact free member
  rw [splitFirst, List.dropWhile_append_of_pos other, List.takeWhile_append_of_pos other]
  simp

theorem hyphen_notMem_toDigits (value : Nat) : '-' ∉ Nat.toDigits 10 value := by
  intro member
  exact absurd (isDigit_of_mem_toDigits member) (by decide)

/-! ## Signed numbers -/

theorem toList_toString_int (value : Int) :
    (toString value).toList =
      if 0 ≤ value then Nat.toDigits 10 value.toNat else '-' :: Nat.toDigits 10 (-value).toNat := by
  rw [Int.toString_eq_repr, Int.repr_eq_if]
  split
  · exact Nat.toList_repr
  · rw [String.toList_append, Nat.toList_repr]
    rfl

theorem toDigits_injective {first second : Nat} (same : Nat.toDigits 10 first = Nat.toDigits 10 second) :
    first = second := by
  have numbers := congrArg (Nat.ofDigitChars 10 · 0) same
  simpa only [Nat.ofDigitChars_ten_toDigits] using numbers

theorem toDigits_hyphen_injective {first second : Nat} {before behind : List Char}
    (same : Nat.toDigits 10 first ++ '-' :: before = Nat.toDigits 10 second ++ '-' :: behind) :
    first = second ∧ before = behind := by
  have split := congrArg (splitFirst '-') same
  rw [splitFirst_append (hyphen_notMem_toDigits _), splitFirst_append (hyphen_notMem_toDigits _)] at split
  obtain ⟨digits, rest⟩ := Prod.mk.inj (Option.some.inj split)
  exact ⟨toDigits_injective digits, rest⟩

/-- A hyphen ends the number, though the number may begin with one. -/
theorem toString_int_hyphen_injective {first second : Int} {before behind : List Char}
    (same : (toString first).toList ++ '-' :: before = (toString second).toList ++ '-' :: behind) :
    first = second ∧ before = behind := by
  have unsigned : ∀ (value : Nat) (text rest : List Char), Nat.toDigits 10 value ++ text ≠ '-' :: rest := by
    intro value text rest equal
    cases digits : Nat.toDigits 10 value with
    | nil => exact Nat.toDigits_ne_nil digits
    | cons digit digits' =>
      rw [digits, List.cons_append] at equal
      have hyphen : digit = '-' := (List.cons.inj equal).1
      subst hyphen
      exact hyphen_notMem_toDigits value (digits ▸ List.mem_cons_self)
  rw [toList_toString_int, toList_toString_int] at same
  by_cases firstSign : 0 ≤ first
  · by_cases secondSign : 0 ≤ second
    · rw [if_pos firstSign, if_pos secondSign] at same
      obtain ⟨numbers, rest⟩ := toDigits_hyphen_injective same
      exact ⟨by omega, rest⟩
    · rw [if_pos firstSign, if_neg secondSign] at same
      exact absurd same (unsigned _ _ _)
  · by_cases secondSign : 0 ≤ second
    · rw [if_neg firstSign, if_pos secondSign] at same
      exact absurd same.symm (unsigned _ _ _)
    · rw [if_neg firstSign, if_neg secondSign] at same
      obtain ⟨numbers, rest⟩ := toDigits_hyphen_injective (List.cons.inj same).2
      exact ⟨by omega, rest⟩

end FlowCloud.Foundation
