import Mathlib.Data.List.TakeWhile
import Pjsocky.Support.JsonText

/-!
# C strings and the numbers in them

A C string is the list of its characters without the terminator, and a pointer into it is
the suffix that starts there: `charAt` reads the terminator at the end of it. `strtoul` is
the conversion of the C standard in base 10, which saturates; `strtoul_digits` is the form
it has where a digit stands at the pointer, and the only one its callers need to know.
-/

namespace Support

/-- The characters of a C string. -/
structure CString where
  bytes : Bytes
  terminated : 0 ∉ bytes

namespace CString

/-- The character at a pointer. -/
def charAt (text : Bytes) : UInt8 := text.headD 0

/-- `isdigit`. -/
def isDigit (char : UInt8) : Bool := 48 ≤ char && char ≤ 57

/-- `isspace`. -/
def isSpace (char : UInt8) : Bool := char = 32 || (9 ≤ char && char ≤ 13)

/-- One or more decimal digits. -/
def IsNumeral (text : Bytes) : Prop := text ≠ [] ∧ ∀ char ∈ text, isDigit char = true

/-- The decimal value of digits. -/
def decimalValue (digits : Bytes) : Nat :=
  digits.foldl (fun value digit => 10 * value + (digit.toNat - 48)) 0

/-- The range of `unsigned long`, which has at least 32 bits. -/
structure ULong where
  max : Nat
  standard : 4294967295 ≤ max

/-- `strtoul` in base 10: the value and the end pointer. -/
def strtoul (ulong : ULong) (text : Bytes) : Nat × Bytes :=
  let body := text.dropWhile isSpace
  let negative : Bool := charAt body = 45
  let unsigned := if negative || charAt body = 43 then body.tail else body
  let digits := unsigned.takeWhile isDigit
  let value := decimalValue digits
  if digits = [] then (0, text)
  else if ulong.max < value then (ulong.max, unsigned.dropWhile isDigit)
  else if negative then ((ulong.max + 1 - value) % (ulong.max + 1), unsigned.dropWhile isDigit)
  else (value, unsigned.dropWhile isDigit)

variable {text rest digits : Bytes}

@[simp] theorem charAt_cons (char : UInt8) (rest : Bytes) : charAt (char :: rest) = char := rfl

/-- Only the terminator reads as NUL. -/
theorem charAt_eq_zero (terminated : 0 ∉ text) : charAt text = 0 ↔ text = [] := by
  cases text with
  | nil => exact ⟨fun _ => rfl, fun _ => rfl⟩
  | cons char rest =>
      rw [charAt_cons]
      refine ⟨fun isZero => absurd ?_ terminated, nofun⟩
      rw [isZero]
      exact List.mem_cons_self

/-- A digit is neither white space nor a sign. -/
theorem isDigit_plain {char : UInt8} (digit : isDigit char = true) :
    isSpace char = false ∧ char ≠ 45 ∧ char ≠ 43 := by
  simp only [isDigit, isSpace, Bool.and_eq_true, decide_eq_true_eq, UInt8.le_iff_toNat_le,
    Bool.or_eq_false_iff, Bool.and_eq_false_iff, decide_eq_false_iff_not, ne_eq,
    ← UInt8.toNat_inj] at digit ⊢
  simp only [UInt8.toNat_ofNat] at digit ⊢
  omega

/-- Where digits start, `strtoul` reads all of them, and saturates. -/
theorem strtoul_digits (ulong : ULong) (numeral : IsNumeral digits)
    (stops : isDigit (charAt rest) = false) :
    strtoul ulong (digits ++ rest) = (min (decimalValue digits) ulong.max, rest) := by
  obtain ⟨nonempty, allDigits⟩ := numeral
  have stop : rest.takeWhile isDigit = [] ∧ rest.dropWhile isDigit = rest := by
    cases rest with
    | nil => exact ⟨rfl, rfl⟩
    | cons char more => simpa using stops
  have taken : (digits ++ rest).takeWhile isDigit = digits := by
    rw [List.takeWhile_append_of_pos allDigits, stop.1, List.append_nil]
  have dropped : (digits ++ rest).dropWhile isDigit = rest := by
    rw [List.dropWhile_append_of_pos allDigits, stop.2]
  have plain : (digits ++ rest).dropWhile isSpace = digits ++ rest ∧
      charAt (digits ++ rest) ≠ 45 ∧ charAt (digits ++ rest) ≠ 43 := by
    cases digits with
    | nil => exact absurd rfl nonempty
    | cons digit more =>
        obtain ⟨visible, unsigned⟩ := isDigit_plain (allDigits digit List.mem_cons_self)
        refine ⟨?_, unsigned⟩
        rw [List.cons_append, List.dropWhile_cons, visible]
        rfl
  unfold strtoul
  dsimp only
  rw [plain.1, decide_eq_false plain.2.1, decide_eq_false plain.2.2, Bool.or_false,
    if_neg Bool.false_ne_true, taken, dropped, if_neg nonempty, if_neg Bool.false_ne_true]
  split
  · rename_i saturates
    rw [Nat.min_eq_right (Nat.le_of_lt saturates)]
  · rename_i fits
    rw [Nat.min_eq_left (Nat.le_of_not_lt fits)]

/-- What a caller makes of `strtoul` when it first looks for a digit. -/
theorem numeral_or_zero (ulong : ULong) (text : Bytes) :
    (if isDigit (charAt text) then strtoul ulong text else (0, text)) =
      (min (decimalValue (text.takeWhile isDigit)) ulong.max, text.dropWhile isDigit) := by
  cases text with
  | nil => simp [charAt, isDigit, decimalValue]
  | cons char more =>
      rw [charAt_cons]
      split
      · rename_i digit
        have split : (char :: more).takeWhile isDigit ++ (char :: more).dropWhile isDigit =
            char :: more := List.takeWhile_append_dropWhile
        have numeral : IsNumeral ((char :: more).takeWhile isDigit) := by
          refine ⟨?_, fun digit member => List.mem_takeWhile_imp member⟩
          rw [List.takeWhile_cons, if_pos digit]
          exact List.cons_ne_nil _ _
        have stops : isDigit (charAt ((char :: more).dropWhile isDigit)) = false := by
          cases left : (char :: more).dropWhile isDigit with
          | nil => rfl
          | cons next after =>
              have stopped := List.head?_dropWhile_not isDigit (char :: more)
              rw [left] at stopped
              exact stopped
        have read := strtoul_digits ulong numeral stops
        rwa [split] at read
      · rename_i other
        rw [List.takeWhile_cons, List.dropWhile_cons, if_neg other, if_neg other]
        rfl

end CString
end Support
