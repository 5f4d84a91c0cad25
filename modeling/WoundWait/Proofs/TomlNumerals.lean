import Mathlib
import WoundWait.Toml.Document

/-!
Decimal numerals in a document. What a natural number is written as, up to the end of its line, is
no date and no float, and is read as the number.
-/

namespace WoundWait

namespace Toml

theorem isDigit_ne {digit other : Char} (numeral : digit.isDigit = true)
    (mark : other.isDigit = false) : digit ≠ other := by
  rintro rfl
  cases numeral.symm.trans mark

/-- What a natural number is written as: digits, and a zero comes first only if it is alone. -/
structure IsNumeral (number : Nat) (first : Char) (others : List Char) : Prop where
  written : Nat.toDigits 10 number = first :: others
  digit : first.isDigit = true
  digits : ∀ digit ∈ others, digit.isDigit = true
  zero : first = '0' → others = []

theorem numeral_exists (number : Nat) : ∃ first others, IsNumeral number first others := by
  induction number using Nat.strong_induction_on with
  | _ number ih =>
      have numeral : ∀ digit ∈ Nat.toDigits 10 number, digit.isDigit = true := fun digit member =>
        Nat.isDigit_of_mem_toDigits (by decide) (by decide) member
      have step := Nat.toDigits_eq_if (b := 10) (n := number) (by decide)
      by_cases short : number < 10
      · rw [if_pos short] at step
        refine ⟨number.digitChar, [], step, numeral _ (by simp [step]), nofun, fun _ => rfl⟩
      · rw [if_neg short] at step
        obtain ⟨first, others, leading⟩ := ih (number / 10) (by omega)
        rw [leading.written, List.cons_append] at step
        refine ⟨first, _, step, leading.digit, fun digit member => numeral digit ?_, ?_⟩
        · rw [step]
          exact List.mem_cons_of_mem first member
        · -- A zero would be all that is written of a tenth of the number.
          rintro rfl
          have tenth := Nat.ofDigitChars_ten_toDigits (n := number / 10)
          rw [leading.written, leading.zero rfl] at tenth
          have nothing : Nat.ofDigitChars 10 ['0'] 0 = 0 := by decide
          omega

/-! Digits -/

theorem moreDigits?_append (digits rest : List Char)
    (numeral : ∀ digit ∈ digits, digit.isDigit = true) :
    moreDigits? Char.isDigit (digits ++ '\n' :: rest) = some (digits, '\n' :: rest) := by
  induction digits with
  | nil => rfl
  | cons first others ih =>
      have own := numeral first List.mem_cons_self
      have joint : first ≠ '_' := isDigit_ne own rfl
      have further := ih fun digit member => numeral digit (List.mem_cons_of_mem first member)
      rw [List.cons_append, moreDigits?]
      · simp [own, further]
      · exact fun _ _ same => absurd same joint
      · exact fun same => absurd same joint

theorem value?_digit (digit : Char) (numeral : digit.isDigit = true) :
    Hexadecimal.value? digit = some (digit.toNat - '0'.toNat) := by
  have range : '0' ≤ digit ∧ digit ≤ '9' := by
    simpa [Char.isDigit, Char.le_def, and_comm] using numeral
  rw [Hexadecimal.value?, if_pos range]

theorem digitsToNat_eq (digits : List Char) (numeral : ∀ digit ∈ digits, digit.isDigit = true)
    (start : Nat) :
    digits.foldl (fun value digit => value * 10 + (Hexadecimal.value? digit).getD 0) start =
      Nat.ofDigitChars 10 digits start := by
  induction digits generalizing start with
  | nil => rfl
  | cons first others ih =>
      have own := value?_digit first (numeral first List.mem_cons_self)
      rw [List.foldl_cons, Nat.ofDigitChars_cons, own, Option.getD_some, Nat.mul_comm]
      exact ih (fun digit member => numeral digit (List.mem_cons_of_mem first member)) _

section

variable {number : Nat} {first : Char} {others : List Char}

theorem IsNumeral.mem_digits (written : IsNumeral number first others) (digit : Char)
    (member : digit ∈ first :: others) : digit.isDigit = true := by
  rcases List.mem_cons.mp member with rfl | later
  · exact written.digit
  · exact written.digits digit later

theorem IsNumeral.digitsToNat (written : IsNumeral number first others) :
    digitsToNat 10 (first :: others) = number := by
  rw [Toml.digitsToNat, digitsToNat_eq _ written.mem_digits, ← written.written]
  exact Nat.ofDigitChars_ten_toDigits

theorem IsNumeral.wholeDigits? (written : IsNumeral number first others) (rest : List Char) :
    wholeDigits? (first :: others ++ '\n' :: rest) = some (first :: others, '\n' :: rest) := by
  by_cases zero : first = '0'
  · rw [written.zero zero, zero]
    rfl
  · have further := moreDigits?_append others rest written.digits
    rw [List.cons_append, Toml.wholeDigits?]
    · simp [digits?, written.digit, further]
    · exact fun _ same => zero (List.cons.inj same).1

theorem IsNumeral.sign (written : IsNumeral number first others) (rest : List Char) :
    sign (first :: rest) = (false, first :: rest) := by
  rw [Toml.sign]
  · exact fun _ same => isDigit_ne written.digit rfl (List.cons.inj same).1
  · exact fun _ same => isDigit_ne written.digit rfl (List.cons.inj same).1

/-! A numeral is nothing but an integer -/

/-- A field of a date or of a time leaves digits, and the end of the line after them. -/
theorem field?_leaves (digits rest : List Char) (numeral : ∀ digit ∈ digits, digit.isDigit = true)
    (width least most value : Nat) (after : List Char)
    (read : field? width least most (digits ++ '\n' :: rest) = some (value, after)) :
    ∃ left, after = left ++ '\n' :: rest ∧ ∀ digit ∈ left, digit.isDigit = true := by
  simp only [field?] at read
  split at read
  · rename_i fits
    obtain ⟨_, rfl⟩ := Prod.mk.inj (Option.some.inj read)
    obtain ⟨long, all, _⟩ := fits
    have inside : width ≤ digits.length := by
      by_contra short
      have beyond : '\n' ∈ (digits ++ '\n' :: rest).take width := by
        rw [List.take_append]
        apply List.mem_append_right
        rw [show width - digits.length = (width - digits.length - 1) + 1 by omega, List.take_succ_cons]
        exact List.mem_cons_self
      cases (List.all_eq_true.mp all _ beyond)
    refine ⟨digits.drop width, ?_, fun digit member => numeral digit (List.mem_of_mem_drop member)⟩
    exact List.drop_append_of_le_length inside
  · cases read

/-- After digits comes a digit or the end of the line, and no other mark. -/
theorem ne_mark (left rest after : List Char) (mark : Char)
    (numeral : ∀ digit ∈ left, digit.isDigit = true) (plain : mark.isDigit = false)
    (inner : mark ≠ '\n') : left ++ '\n' :: rest ≠ mark :: after := by
  cases left with
  | nil => exact fun same => inner (List.cons.inj same).1.symm
  | cons digit others =>
      intro same
      exact isDigit_ne (numeral digit List.mem_cons_self) plain (List.cons.inj same).1

theorem date_missing (digits rest : List Char) (numeral : ∀ digit ∈ digits, digit.isDigit = true) :
    date (digits ++ '\n' :: rest) = .missing := by
  unfold date
  split
  · rename_i year after read
    obtain ⟨left, same, plain⟩ := field?_leaves digits rest numeral 4 0 9999 year _ read
    exact absurd same.symm (ne_mark left rest after '-' plain rfl (by decide))
  · rfl

theorem time_missing (digits rest : List Char) (numeral : ∀ digit ∈ digits, digit.isDigit = true) :
    time (digits ++ '\n' :: rest) = .missing := by
  unfold time
  split
  · rename_i hour after read
    obtain ⟨left, same, plain⟩ := field?_leaves digits rest numeral 2 0 23 hour _ read
    exact absurd same.symm (ne_mark left rest after ':' plain rfl (by decide))
  · rfl

theorem IsNumeral.decimalFloat (written : IsNumeral number first others) (rest : List Char) :
    decimalFloat (first :: others ++ '\n' :: rest) = .missing := by
  have whole := written.wholeDigits? rest
  rw [List.cons_append] at *
  simp only [Toml.decimalFloat, written.sign, whole]
  rfl

theorem IsNumeral.specialFloat? (written : IsNumeral number first others) (rest : List Char) :
    specialFloat? (first :: rest) = none := by
  simp only [Toml.specialFloat?, written.sign]
  split
  · rename_i same
    exact absurd (List.cons.inj same).1 (isDigit_ne written.digit rfl)
  · rename_i same
    exact absurd (List.cons.inj same).1 (isDigit_ne written.digit rfl)
  · rfl

theorem IsNumeral.integer? (written : IsNumeral number first others) (rest : List Char)
    (small : number ≤ Word.signedLimit) :
    integer? (first :: others ++ '\n' :: rest) = some ((number : Int), '\n' :: rest) := by
  have whole := written.wholeDigits? rest
  -- A zero stands alone, so no mark of a base follows it.
  have unbased (mark : Char) (after : List Char) (inner : mark ≠ '\n') :
      first :: (others ++ '\n' :: rest) ≠ '0' :: mark :: after := by
    intro same
    obtain ⟨zero, further⟩ := List.cons.inj same
    rw [written.zero zero] at further
    exact inner (List.cons.inj further).1.symm
  have held : Word.signed? (number : Int) = some (number : Int) := by
    have holds : Word.holdsSigned (number : Int) = true := by
      simp only [Word.holdsSigned, Bool.and_eq_true, decide_eq_true_eq]
      omega
    exact if_pos holds
  rw [List.cons_append] at *
  rw [Toml.integer?]
  · simp only [written.sign, whole, written.digitsToNat, Bool.false_eq_true, ↓reduceIte, held]
    rfl
  · exact fun after => unbased 'x' after (by decide)
  · exact fun after => unbased 'o' after (by decide)
  · exact fun after => unbased 'b' after (by decide)

theorem IsNumeral.numeric? (written : IsNumeral number first others) (rest : List Char)
    (small : number ≤ Word.signedLimit) :
    numeric? (first :: others ++ '\n' :: rest) =
      some (.integer (number : Int), '\n' :: rest) := by
  have undated : skipDateTime (first :: others ++ '\n' :: rest) = .missing := by
    rw [skipDateTime, date_missing _ rest written.mem_digits]
    exact time_missing _ rest written.mem_digits
  rw [Toml.numeric?]
  simp only [undated, written.decimalFloat]
  rw [written.integer? rest small, List.cons_append]
  simp only [written.specialFloat?]
  rfl

theorem IsNumeral.scalar? (written : IsNumeral number first others) (rest : List Char)
    (small : number ≤ Word.signedLimit) :
    scalar? (first :: others ++ '\n' :: rest) =
      some (.integer (number : Int), '\n' :: rest) := by
  have read := written.numeric? rest small
  have quoteless : (first == '"' || first == '\'') = false := by
    have basic : first ≠ '"' := isDigit_ne written.digit rfl
    have literal : first ≠ '\'' := isDigit_ne written.digit rfl
    simp [basic, literal]
  rw [List.cons_append] at *
  rw [Toml.scalar?]
  · simp only [quoteless, Bool.false_eq_true, ↓reduceIte]
    exact read
  · exact fun _ same => absurd same (isDigit_ne written.digit rfl)
  · exact fun _ same => absurd same (isDigit_ne written.digit rfl)

end

/-- The numeral of a number is read as the number, as far as 64 bits with a sign hold it. -/
theorem value?_numeral (number : Nat) (rest : List Char) (small : number ≤ Word.signedLimit) :
    value? (Nat.toDigits 10 number ++ '\n' :: rest) =
      some (.scalar (.integer (number : Int)), '\n' :: rest) := by
  obtain ⟨first, others, written⟩ := numeral_exists number
  have read := written.scalar? rest small
  rw [written.written]
  rw [List.cons_append] at *
  have simple : value? (first :: (others ++ '\n' :: rest)) =
      (scalar? (first :: (others ++ '\n' :: rest))).map fun split => (.scalar split.1, split.2) := by
    rw [show value? = item? (78 + 1) from rfl, item?]
    · exact fun _ same => isDigit_ne written.digit rfl (List.cons.inj same).1
    · exact fun _ same => isDigit_ne written.digit rfl (List.cons.inj same).1
  rw [simple, read]
  rfl

end Toml

end WoundWait
