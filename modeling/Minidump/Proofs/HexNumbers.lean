import Minidump.Address.Range
import Minidump.Text.Hex
import Minidump.Text.Number
import Mathlib.Algebra.GroupWithZero.Nat

/-!
# Hexadecimal numbers are read back

A number is shown by its digits in base sixteen, and zeros fill the width that it is given. The
parser of arguments gets the number back from them, digit by digit, as long as it is below the
limit: the zeros in front leave it at zero, and every digit behind them appends itself.

- `Text.digitValue?_digitChar` — a digit has its value;
- `Text.foldlM_hexDigits` — the digits of a number append up to it;
- `Text.IsAddress`, `Text.isAddress_hexPadded` — addresses are shown with sixteen digits.
-/

namespace Minidump

namespace Text

/-! ## Digits -/

theorem digitValue?_digitChar {d : Nat} (h : d < 16) : digitValue? 16 (Nat.digitChar d) = some d :=
  have hall : ∀ d < 16, digitValue? 16 (Nat.digitChar d) = some d := by decide
  hall d h

theorem appendDigit_digitChar {limit number d : Nat} (h : d < 16)
    (hlimit : number * 16 + d < limit) :
    appendDigit 16 limit number (Nat.digitChar d) = .ok (number * 16 + d) := by
  unfold appendDigit
  rw [digitValue?_digitChar h]
  exact if_pos hlimit

/-- The digits of a number are its last one behind those of what is left without it. -/
theorem hexDigits_eq (n : Nat) : hexDigits n
    = if n < 16 then [Nat.digitChar n] else hexDigits (n / 16) ++ [Nat.digitChar (n % 16)] :=
  Nat.toDigits_eq_if (by decide)

theorem exists_of_mem_hexDigits {n : Nat} {c : Char} (h : c ∈ hexDigits n) :
    ∃ d < 16, c = Nat.digitChar d := by
  induction n using Nat.strongRecOn with
  | ind n ih =>
    rw [hexDigits_eq] at h
    split at h
    case isTrue hlt => exact ⟨n, hlt, List.mem_singleton.mp h⟩
    case isFalse hge =>
      obtain hfront | hlast := List.mem_append.mp h
      · exact ih (n / 16) (by omega) hfront
      · exact ⟨n % 16, Nat.mod_lt n (by decide), List.mem_singleton.mp hlast⟩

/-- The digits of a number append up to it. -/
theorem foldlM_hexDigits {limit n : Nat} (h : n < limit) :
    (hexDigits n).foldlM (appendDigit 16 limit) 0 = .ok n := by
  induction n using Nat.strongRecOn with
  | ind n ih =>
    rw [hexDigits_eq]
    split
    case isTrue hlt =>
      have hdigit : appendDigit 16 limit 0 (Nat.digitChar n) = .ok (0 * 16 + n) :=
        appendDigit_digitChar hlt (by omega)
      rw [Nat.zero_mul, Nat.zero_add] at hdigit
      rw [List.foldlM_cons, hdigit]
      rfl
    case isFalse hge =>
      have hfront := ih (n / 16) (by omega) (by omega)
      have hlast : appendDigit 16 limit (n / 16) (Nat.digitChar (n % 16))
          = .ok (n / 16 * 16 + n % 16) :=
        appendDigit_digitChar (Nat.mod_lt n (by decide)) (by omega)
      rw [Nat.mul_comm, Nat.div_add_mod] at hlast
      rw [List.foldlM_append, hfront]
      show [Nat.digitChar (n % 16)].foldlM (appendDigit 16 limit) (n / 16) = .ok n
      rw [List.foldlM_cons, hlast]
      rfl

/-! ## Filled with zeros -/

/-- Zeros in front of a number leave it at zero. -/
theorem foldlM_zeros {limit : Nat} (h : 0 < limit) (count : Nat) :
    (List.replicate count '0').foldlM (appendDigit 16 limit) 0 = .ok 0 := by
  induction count with
  | zero => rfl
  | succ count ih =>
    have hzero : appendDigit 16 limit 0 '0' = .ok 0 :=
      appendDigit_digitChar (d := 0) (by decide) (by omega)
    rw [List.replicate_succ, List.foldlM_cons, hzero]
    exact ih

theorem toList_hexPadded (width n : Nat) : (hexPadded width n).toList
    = List.replicate (width - (hexDigits n).length) '0' ++ hexDigits n :=
  String.toList_ofList

theorem exists_of_mem_hexPadded {width n : Nat} {c : Char} (h : c ∈ (hexPadded width n).toList) :
    ∃ d < 16, c = Nat.digitChar d := by
  rw [toList_hexPadded] at h
  obtain hzero | hdigit := List.mem_append.mp h
  · exact ⟨0, by decide, List.eq_of_mem_replicate hzero⟩
  · exact exists_of_mem_hexDigits hdigit

theorem length_hexPadded {width n : Nat} (hwidth : 0 < width) (h : n < 16 ^ width) :
    (hexPadded width n).length = width := by
  have hle : (hexDigits n).length ≤ width :=
    (Nat.length_toDigits_le_iff (by decide) hwidth).mpr h
  unfold hexPadded
  rw [String.length_ofList, List.length_leftpad, Nat.max_eq_left hle]

/-- The parser of arguments takes a text of digits without a sign. -/
theorem parseNumber_of_digits {base limit : Nat} {text : String} (hne : text.toList ≠ [])
    (hdigits : ∀ c ∈ text.toList, c ≠ '+') :
    parseNumber base limit text = text.toList.foldlM (appendDigit base limit) 0 := by
  unfold parseNumber
  split
  case h_1 heq => exact absurd heq hne
  case h_2 heq => exact absurd rfl (hdigits '+' (by rw [heq]; exact List.mem_cons_self))
  case h_3 digits _ heq => exact absurd rfl (hdigits '+' (by rw [heq]; exact List.mem_cons_self))
  case h_4 => rfl

theorem digitChar_ne_plus {d : Nat} (h : d < 16) : Nat.digitChar d ≠ '+' :=
  have hall : ∀ d < 16, Nat.digitChar d ≠ '+' := by decide
  hall d h

theorem parseNumber_hexPadded {limit width n : Nat} (h : n < limit) :
    parseNumber 16 limit (hexPadded width n) = .ok n := by
  have hne : (hexPadded width n).toList ≠ [] := by
    rw [toList_hexPadded]
    exact List.append_ne_nil_of_right_ne_nil _ Nat.toDigits_ne_nil
  have hdigits : ∀ c ∈ (hexPadded width n).toList, c ≠ '+' := by
    intro c hc
    obtain ⟨d, hd, rfl⟩ := exists_of_mem_hexPadded hc
    exact digitChar_ne_plus hd
  rw [parseNumber_of_digits hne hdigits, toList_hexPadded, List.foldlM_append,
    foldlM_zeros (by omega)]
  exact foldlM_hexDigits h

/-! ## Addresses -/

/-- A text is an address: sixteen lower-case digits that stand for it. -/
structure IsAddress (text : String) (address : Nat) : Prop where
  length_eq : text.length = 16
  digits : ∀ c ∈ text.toList, ∃ d < 16, c = Nat.digitChar d
  value : parseNumber 16 addressLimit text = .ok address

theorem isAddress_hexPadded {address : Nat} (h : address < addressLimit) :
    IsAddress (hexPadded 16 address) address where
  length_eq := length_hexPadded (by decide) h
  digits _ hc := exists_of_mem_hexPadded hc
  value := parseNumber_hexPadded h

example : hexPadded 16 0x7fff0010 = "000000007fff0010" := by decide

end Text

end Minidump
