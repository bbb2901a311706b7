/-!
# Numbers in arguments

A number is one digit or more, after a plus sign that may be left out. It is read from
left to right, and the first digit that is not one, or that makes the number too large,
decides what is wrong with it.

- `NumberError` — what is wrong with a number, and its text;
- `parseNumber` — the number that a text stands for, in a given base and below a given
  limit.
-/

namespace Minidump

/-- What is wrong with a number. -/
inductive NumberError where
  | empty
  | invalidDigit
  | tooLarge
deriving DecidableEq

/-- The text of what is wrong with a number. -/
def NumberError.message : NumberError → String
  | empty => "cannot parse integer from empty string"
  | invalidDigit => "invalid digit found in string"
  | tooLarge => "number too large to fit in target type"

namespace Text

/-- The value of a digit in bases up to sixteen. -/
def digitValue? (base : Nat) (c : Char) : Option Nat :=
  let value :=
    if '0' ≤ c ∧ c ≤ '9' then c.toNat - '0'.toNat
    else if 'a' ≤ c ∧ c ≤ 'f' then c.toNat - 'a'.toNat + 10
    else if 'A' ≤ c ∧ c ≤ 'F' then c.toNat - 'A'.toNat + 10
    else base
  if value < base then some value else none

/-- Appends a digit to a number. -/
def appendDigit (base limit number : Nat) (c : Char) : Except NumberError Nat :=
  match digitValue? base c with
  | none => .error .invalidDigit
  | some digit =>
    let number := number * base + digit
    if number < limit then .ok number else .error .tooLarge

/-- The number that a text stands for, if it is below a limit. -/
def parseNumber (base limit : Nat) (text : String) : Except NumberError Nat :=
  match text.toList with
  | [] => .error .empty
  | ['+'] => .error .invalidDigit
  | '+' :: digits => digits.foldlM (appendDigit base limit) 0
  | digits => digits.foldlM (appendDigit base limit) 0

end Text

end Minidump
