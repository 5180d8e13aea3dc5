import Mathlib
import BatchBayes.Json.Token
/-!
The numbers of JSON texts. An integer of 64 bits is read as it was written, and
whatever is read as a number has a first character that starts one and only such
characters as numbers have.
-/

namespace BatchBayes

/-! ## Leading digits -/

namespace Decimal

theorem spanDigits_of_all {digits : List Char}
    (all : ∀ digit ∈ digits, digit.isDigit = true) :
    spanDigits digits = (digits, []) := by
  have front : digits.takeWhile Char.isDigit = digits :=
    List.takeWhile_eq_self_iff.2 all
  have rest : digits.dropWhile Char.isDigit = [] :=
    List.dropWhile_eq_nil_iff.2 all
  rw [spanDigits, List.span_eq_takeWhile_dropWhile, front, rest]

theorem append_spanDigits (text : List Char) :
    (spanDigits text).1 ++ (spanDigits text).2 = text := by
  rw [spanDigits, List.span_eq_takeWhile_dropWhile]
  exact List.takeWhile_append_dropWhile

theorem isDigit_of_mem_spanDigits {text : List Char} {char : Char}
    (member : char ∈ (spanDigits text).1) : char.isDigit = true := by
  rw [spanDigits, List.span_eq_takeWhile_dropWhile] at member
  exact List.mem_takeWhile_imp member

end Decimal

namespace Json

/-! ## Digits of a natural number -/

theorem le_ofDigitChars (digits : List Char) (value : Nat) :
    value ≤ Nat.ofDigitChars 10 digits value := by
  induction digits generalizing value with
  | nil => exact Nat.le_refl value
  | cons digit digits inductionHypothesis =>
      rw [Nat.ofDigitChars_cons]
      have grown := inductionHypothesis (10 * value + (digit.toNat - '0'.toNat))
      omega

/-- No digit is dropped as long as the number fits 64 bits. -/
theorem appendDigits_of_lt {digits : List Char} {value : Nat}
    (fits : Nat.ofDigitChars 10 digits value < UInt64.size) :
    appendDigits value digits = (Nat.ofDigitChars 10 digits value, []) := by
  induction digits generalizing value with
  | nil => rfl
  | cons digit digits inductionHypothesis =>
      rw [Nat.ofDigitChars_cons] at fits ⊢
      have longer : 10 * value + Decimal.digitValue digit < UInt64.size :=
        Nat.lt_of_le_of_lt (le_ofDigitChars digits _) fits
      simp only [appendDigits, if_pos longer]
      exact inductionHypothesis fits

theorem appendDigits_toDigits {value : Nat} (fits : value < UInt64.size) :
    appendDigits 0 (Nat.toDigits 10 value) = (value, []) := by
  have same : Nat.ofDigitChars 10 (Nat.toDigits 10 value) 0 = value :=
    Nat.ofDigitChars_toDigits (by decide) (by decide)
  have whole : Nat.ofDigitChars 10 (Nat.toDigits 10 value) 0 < UInt64.size := by
    rw [same]
    exact fits
  rw [appendDigits_of_lt whole, same]

/-- Only zero is written with a leading zero. -/
theorem eq_zero_of_head?_toDigits {value : Nat}
    (leading : (Nat.toDigits 10 value).head? = some '0') : value = 0 := by
  induction value using Nat.strongRecOn with
  | ind value inductionHypothesis =>
      rw [Nat.toDigits_eq_if (by decide)] at leading
      split at leading
      case isTrue small =>
        interval_cases value <;> revert leading <;> decide
      case isFalse large =>
        -- The leading digit is that of the number without its last digit.
        rw [List.head?_append_of_ne_nil _ Nat.toDigits_ne_nil] at leading
        have shorter : value / 10 < value := by omega
        have none : value / 10 = 0 := inductionHypothesis _ shorter leading
        omega

theorem isDigit_of_mem_toDigits {value : Nat} {digit : Char}
    (member : digit ∈ Nat.toDigits 10 value) : digit.isDigit = true :=
  Nat.isDigit_of_mem_toDigits (b := 10) (by decide) (by decide) member

/-! ## Without the sign -/

/-- What a lexeme is read as once its sign is known. -/
def readUnsigned? (negative : Bool) (unsigned : List Char) : Option Json :=
  let (whole, afterWhole) := Decimal.spanDigits unsigned
  if whole.isEmpty ∨ (whole.head? = some '0' ∧ whole.length ≠ 1) then none
  else if afterWhole.isEmpty then some (wholeOf negative whole)
  else
    match readFraction? afterWhole with
    | none => none
    | some (fraction, rest) =>
        (Decimal.readExponent? rest).map (fractionOf negative whole fraction)

theorem readNumber?_minus (unsigned : List Char) :
    readNumber? ('-' :: unsigned) = readUnsigned? true unsigned :=
  rfl

theorem readNumber?_of_ne_minus {first : Char} (rest : List Char)
    (unsigned : first ≠ '-') :
    readNumber? (first :: rest) = readUnsigned? false (first :: rest) := by
  rw [readNumber?]
  · rfl
  · intro behind same
    exact unsigned (List.cons.inj same).1

/-! ## Integers -/

theorem readUnsigned?_toDigits (negative : Bool) (value : Nat) :
    readUnsigned? negative (Nat.toDigits 10 value) =
      some (wholeOf negative (Nat.toDigits 10 value)) := by
  have parts :
      Decimal.spanDigits (Nat.toDigits 10 value) = (Nat.toDigits 10 value, []) :=
    Decimal.spanDigits_of_all fun _ => isDigit_of_mem_toDigits
  have proper :
      ¬((Nat.toDigits 10 value).isEmpty = true ∨
        ((Nat.toDigits 10 value).head? = some '0' ∧
          (Nat.toDigits 10 value).length ≠ 1)) := by
    rintro (empty | ⟨leading, long⟩)
    · exact Nat.toDigits_ne_nil (List.isEmpty_iff.1 empty)
    · rw [eq_zero_of_head?_toDigits leading] at long
      exact long (by decide)
  simp only [readUnsigned?, parts, if_neg proper, List.isEmpty_nil, if_true]

theorem wholeOf_toDigits {value : Nat} (fits : value < UInt64.size) :
    wholeOf false (Nat.toDigits 10 value) = .integer value := by
  rw [wholeOf, appendDigits_toDigits fits]
  rfl

theorem wholeOf_negative_toDigits {value : Nat} (positive : 0 < value)
    (fits : Int64.minValue.toInt ≤ -value) :
    wholeOf true (Nat.toDigits 10 value) = .integer (-value) := by
  have word : value < UInt64.size := by
    have bound : Int64.minValue.toInt = -9223372036854775808 := rfl
    have size : UInt64.size = 18446744073709551616 := rfl
    omega
  have both : 0 < value ∧ Int64.minValue.toInt ≤ -value := ⟨positive, fits⟩
  rw [wholeOf, appendDigits_toDigits word]
  exact if_pos both

/-- An integer of 64 bits, with or without sign, is read as it was written. -/
theorem readNumber?_toString {value : Int} (lower : Int64.minValue.toInt ≤ value)
    (upper : value < UInt64.size) :
    readNumber? (toString value).toList = some (.integer value) := by
  cases value with
  | ofNat value =>
      have text : (toString (Int.ofNat value)).toList = Nat.toDigits 10 value :=
        Nat.toList_repr
      have fits : value < UInt64.size := Int.ofNat_lt.1 upper
      have read :
          readNumber? (Nat.toDigits 10 value) =
            readUnsigned? false (Nat.toDigits 10 value) := by
        cases digits : Nat.toDigits 10 value with
        | nil => exact absurd digits Nat.toDigits_ne_nil
        | cons first rest =>
            refine readNumber?_of_ne_minus rest ?_
            rintro rfl
            have member : '-' ∈ Nat.toDigits 10 value := by
              rw [digits]
              exact List.mem_cons_self
            exact absurd (isDigit_of_mem_toDigits member) (by decide)
      rw [text, read, readUnsigned?_toDigits, wholeOf_toDigits fits]
      rfl
  | negSucc value =>
      have text :
          (toString (Int.negSucc value)).toList =
            '-' :: Nat.toDigits 10 (value + 1) := by
        have parts : toString (Int.negSucc value) = "-" ++ (value + 1).repr := rfl
        rw [parts, String.toList_append, Nat.toList_repr]
        rfl
      rw [text, readNumber?_minus, readUnsigned?_toDigits,
        wholeOf_negative_toDigits (Nat.succ_pos value) lower]
      rfl

/-! ## The characters of a number -/

section Characters

open Lexer

theorem isNumberChar_of_isDigit {char : Char} (digit : char.isDigit = true) :
    isNumberChar char = true := by
  simp [isNumberChar, digit]

theorem isNumberChar_of_readSign {text : List Char}
    (after : ∀ char ∈ (Decimal.readSign text).2, isNumberChar char = true) :
    ∀ char ∈ text, isNumberChar char = true := by
  revert after
  fun_cases Decimal.readSign text with
  | case1 rest => exact fun after => List.forall_mem_cons.2 ⟨by decide, after⟩
  | case2 rest => exact fun after => List.forall_mem_cons.2 ⟨by decide, after⟩
  | case3 => exact id

theorem isNumberChar_of_readExponent? {text : List Char} {exponent : Int}
    (read : Decimal.readExponent? text = some exponent) :
    ∀ char ∈ text, isNumberChar char = true := by
  cases text with
  | nil => simp
  | cons mark rest =>
      rw [Decimal.readExponent?] at read
      split at read
      case isFalse => simp at read
      case isTrue marked =>
        have markChar : isNumberChar mark = true := by
          rcases marked with rfl | rfl <;> decide
        dsimp only at read
        split at read
        case isTrue => simp at read
        case isFalse proper =>
          simp only [not_or, not_not, List.all_eq_true] at proper
          have digits : ∀ char ∈ (Decimal.readSign rest).2, isNumberChar char = true :=
            fun char member => isNumberChar_of_isDigit (proper.2 char member)
          exact List.forall_mem_cons.2 ⟨markChar, isNumberChar_of_readSign digits⟩

theorem isNumberChar_of_spanDigits {text : List Char}
    (after : ∀ char ∈ (Decimal.spanDigits text).2, isNumberChar char = true) :
    ∀ char ∈ text, isNumberChar char = true := by
  rw [← Decimal.append_spanDigits text]
  intro char member
  rcases List.mem_append.1 member with front | back
  · exact isNumberChar_of_isDigit (Decimal.isDigit_of_mem_spanDigits front)
  · exact after char back

theorem isNumberChar_of_readFraction? {text digits rest : List Char}
    (read : readFraction? text = some (digits, rest))
    (after : ∀ char ∈ rest, isNumberChar char = true) :
    ∀ char ∈ text, isNumberChar char = true := by
  revert read
  fun_cases readFraction? text with
  | case1 behind _ _ _ empty => simp
  | case2 behind front back parts _ =>
      intro read
      have same : back = rest := congrArg Prod.snd (Option.some.inj read)
      refine List.forall_mem_cons.2 ⟨by decide, isNumberChar_of_spanDigits ?_⟩
      rw [parts, same]
      exact after
  | case3 =>
      intro read
      have same : text = rest := congrArg Prod.snd (Option.some.inj read)
      rw [same]
      exact after

theorem isNumberChar_of_readUnsigned? {negative : Bool} {unsigned : List Char}
    {value : Json} (read : readUnsigned? negative unsigned = some value) :
    ∀ char ∈ unsigned, isNumberChar char = true := by
  refine isNumberChar_of_spanDigits ?_
  revert read
  fun_cases readUnsigned? negative unsigned with
  | case1 => simp
  | case2 whole afterWhole parts _ empty =>
      simp [parts, List.isEmpty_iff.1 empty]
  | case3 => simp
  | case4 whole afterWhole parts _ _ fraction rest point =>
      intro read
      obtain ⟨exponent, readExponent, -⟩ := Option.map_eq_some_iff.1 read
      rw [parts]
      exact isNumberChar_of_readFraction? point
        (isNumberChar_of_readExponent? readExponent)

theorem isDigit_of_readUnsigned? {negative : Bool} {first : Char}
    {rest : List Char} {value : Json}
    (read : readUnsigned? negative (first :: rest) = some value) :
    first.isDigit = true := by
  by_contra other
  have none : Decimal.spanDigits (first :: rest) = ([], first :: rest) := by
    rw [Decimal.spanDigits, List.span_eq_takeWhile_dropWhile,
      List.takeWhile_cons_of_neg other, List.dropWhile_cons_of_neg other]
  simp [readUnsigned?, none] at read

/-- What is read as a number starts with a digit or a minus sign. -/
theorem exists_lexeme_of_readNumber? {lexeme : List Char} {value : Json}
    (read : readNumber? lexeme = some value) :
    ∃ first rest,
      lexeme = first :: rest ∧ (first.isDigit = true ∨ first = '-') ∧
        ∀ char ∈ rest, isNumberChar char = true := by
  cases lexeme with
  | nil => simp [readNumber?, Decimal.spanDigits, List.span_eq_takeWhile_dropWhile] at read
  | cons first rest =>
      refine ⟨first, rest, rfl, ?_⟩
      by_cases minus : first = '-'
      · rw [minus, readNumber?_minus] at read
        exact ⟨.inr minus, isNumberChar_of_readUnsigned? read⟩
      · rw [readNumber?_of_ne_minus rest minus] at read
        exact ⟨.inl (isDigit_of_readUnsigned? read),
          fun char member =>
            isNumberChar_of_readUnsigned? read char (List.mem_cons_of_mem _ member)⟩

end Characters

end Json

end BatchBayes
