import Mathlib.Data.List.Basic

/-!
# JSON text

The text of strings and numbers as a JSON encoder without ASCII escaping writes it, and the
decimal notation of natural numbers.  The size of an encoded string is the sum over its parts,
and a decimal number is read back as it was written.
-/

namespace Sastsimi.Lib

/-! ## Strings -/

/-- The digit of a number below sixteen. -/
def hexDigit (value : Nat) : Char := Nat.digitChar value

/-- The text of one character inside an encoded string. -/
def escapeChar (character : Char) : String :=
  match character.toNat with
  | 34 => "\\\""
  | 92 => "\\\\"
  | 8 => "\\b"
  | 9 => "\\t"
  | 10 => "\\n"
  | 12 => "\\f"
  | 13 => "\\r"
  | code =>
      if code < 32 then
        "\\u00" ++ String.singleton (hexDigit (code / 16)) ++
          String.singleton (hexDigit (code % 16))
      else String.singleton character

/-- The text between the quotes of an encoded string. -/
def escape (text : String) : String := String.join (text.toList.map escapeChar)

/-- An encoded string. -/
def encodeText (text : String) : String := "\"" ++ escape text ++ "\""

theorem join_append (front back : List String) :
    String.join (front ++ back) = String.join front ++ String.join back := by
  induction front with
  | nil => simp [String.join_nil]
  | cons first rest ih => simp [String.join_cons, ih, String.append_assoc]

/-- Escaping goes character by character. -/
theorem escape_append (front back : String) :
    escape (front ++ back) = escape front ++ escape back := by
  rw [escape, String.toList_append, List.map_append, join_append]
  rfl

theorem size_encodeText (text : String) :
    (encodeText text).utf8ByteSize = (escape text).utf8ByteSize + 2 := by
  have quote : "\"".utf8ByteSize = 1 := by decide
  simp only [encodeText, String.utf8ByteSize_append, quote]
  omega

/-! ## Numbers -/

theorem size_digit : ∀ value < 10, (Nat.digitChar value).utf8Size = 1 := by decide

/-- A decimal number has one byte for every digit. -/
theorem size_repr (value : Nat) : value.repr.utf8ByteSize = value.repr.length := by
  induction value using Nat.strongRecOn with
  | ind value ih =>
      by_cases small : value < 10
      · rw [Nat.repr_of_lt small, String.utf8ByteSize_singleton, size_digit value small,
          String.length_singleton]
      · rw [Nat.repr_of_ge (Nat.not_lt.1 small), String.utf8ByteSize_append, String.length_append,
          ih _ (by omega), String.utf8ByteSize_singleton, size_digit _ (Nat.mod_lt _ (by omega)),
          String.length_singleton]

/-- Read decimal digits. -/
def readDecimal (digits : List Char) : Option Nat :=
  if digits ≠ [] ∧ digits.all Char.isDigit then some (Nat.ofDigitChars 10 digits 0) else none

theorem repr_digits (value : Nat) : value.repr.toList.all Char.isDigit = true := by
  rw [Nat.toList_repr, List.all_eq_true]
  exact fun digit member => Nat.isDigit_of_mem_toDigits (by decide) (by decide) member

/-- A decimal number is read back. -/
theorem readDecimal_repr (value : Nat) : readDecimal value.repr.toList = some value := by
  rw [readDecimal, if_pos ⟨by simp, repr_digits value⟩, Nat.toList_repr,
    Nat.ofDigitChars_ten_toDigits]

/-- Digits in front of another character are found by taking digits. -/
theorem takeWhile_repr (value : Nat) {next : Char} {rest : List Char}
    (other : next.isDigit = false) :
    (value.repr.toList ++ next :: rest).takeWhile Char.isDigit = value.repr.toList := by
  rw [List.takeWhile_append_of_pos (List.all_eq_true.1 (repr_digits value)), List.takeWhile_cons,
    if_neg (by simp [other]), List.append_nil]

theorem dropWhile_repr (value : Nat) {next : Char} {rest : List Char}
    (other : next.isDigit = false) :
    (value.repr.toList ++ next :: rest).dropWhile Char.isDigit = next :: rest := by
  rw [List.dropWhile_append_of_pos (List.all_eq_true.1 (repr_digits value)), List.dropWhile_cons,
    if_neg (by simp [other])]

end Sastsimi.Lib
