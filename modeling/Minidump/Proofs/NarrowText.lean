import Minidump.Text.Utf8
import Mathlib.Data.List.Basic
import Mathlib.Algebra.GroupWithZero.Nat

/-!
# Narrow text with repairs

Narrow text is UTF-8, but nothing says that it is well-formed. Which text it is read as can be
said without reading it byte by byte: a character stands for its bytes, and where none does, the
longest piece with which some character begins, or else one byte, is replaced as a whole.

A byte that is no first byte is either a continuation of the character under way or not, and that
depends only on the numbers of the characters that begin with what has been seen. So there is one
invariant for all bytes behind the first one, `Pending.Continues`.

- `Utf8.encodeBytes` — the bytes of a text;
- `Utf8.leadByte`, `Utf8.trail` — the first byte of a character, and those behind it;
- `Utf8.Repaired` — the text that bytes are repaired to;
- `Pending.Continues` — what has been seen of a character under way;
- `Utf8.repaired_decodeRepaired`, `Utf8.Repaired.unique` — bytes are read as the one text that
  they are repaired to;
- `Utf8.decodeRepaired_encodeBytes`, `Utf8.Repaired.zero_mem` — in particular a text that was
  written is read back, and NUL is read only from a zero byte.
-/

namespace Minidump

namespace Utf8

open String (utf8EncodeChar)

/-- The bytes of a text. -/
def encodeBytes (text : List Char) : List UInt8 :=
  text.flatMap utf8EncodeChar

/-! ## The text that bytes are repaired to -/

/-- Bytes with which some character begins, or which are all of it. -/
def Begins (bs : List UInt8) : Prop :=
  ∃ c, bs <+: utf8EncodeChar c

/-- A piece is replaced in front of others: no character stands here, and the piece is the longest
one with which a character begins, or a single byte if there is none. -/
structure Replaced (piece rest : List UInt8) : Prop where
  no_char : ∀ c, ¬ utf8EncodeChar c <+: piece ++ rest
  begins : Begins piece ∨ ∃ b, piece = [b]
  longest : ∀ b ∈ rest.head?, ¬ Begins (piece ++ [b])

/-- The text that bytes are repaired to: characters stand for themselves, and pieces of others are
replaced. -/
inductive Repaired : List UInt8 → List Char → Prop
  | nil : Repaired [] []
  | char (c : Char) {bs : List UInt8} {text : List Char} :
      Repaired bs text → Repaired (utf8EncodeChar c ++ bs) (c :: text)
  | replaced {piece bs : List UInt8} {text : List Char} :
      piece ≠ [] → Replaced piece bs → Repaired bs text →
        Repaired (piece ++ bs) (replacement :: text)

/-- Where two characters stand, they are the same. -/
theorem char_unique {c d : Char} {bs cs : List UInt8}
    (h : utf8EncodeChar c ++ bs = utf8EncodeChar d ++ cs) : c = d := by
  have hread : ∀ (e : Char) (rest : List UInt8),
      (utf8EncodeChar e ++ rest).toByteArray.utf8DecodeChar? 0 = some e := by
    intro e rest
    rw [List.toByteArray_append]
    exact ByteArray.utf8DecodeChar?_utf8EncodeChar_append
  have hc := hread c bs
  rw [h, hread d cs] at hc
  exact (Option.some.inj hc).symm

theorem Begins.of_prefix {bs cs : List UInt8} (h : Begins cs) (hfront : bs <+: cs) :
    Begins bs := by
  obtain ⟨c, hc⟩ := h
  exact ⟨c, hfront.trans hc⟩

/-- Of two pieces that are replaced in the same place, none is longer than the other. -/
theorem Replaced.length_le {piece other bs cs : List UInt8} (h : Replaced piece bs)
    (hother : Replaced other cs) (hne : piece ≠ []) (heq : piece ++ bs = other ++ cs) :
    other.length ≤ piece.length := by
  by_contra hlt
  obtain ⟨more, rfl⟩ : piece <+: other :=
    List.prefix_of_prefix_length_le ⟨bs, heq⟩ (List.prefix_append other cs) (by omega)
  have hbs : bs = more ++ cs := by
    rwa [List.append_assoc, List.append_cancel_left_eq] at heq
  cases more with
  | nil => simp at hlt
  | cons b more =>
    -- the longer piece is more than one byte, so it is the beginning of a character
    have hbegins : Begins (piece ++ b :: more) := by
      rcases hother.begins with hbegins | ⟨single, hsingle⟩
      · exact hbegins
      · have hlength := congrArg List.length hsingle
        have hpos := List.length_pos_iff.mpr hne
        simp only [List.length_append, List.length_cons, List.length_nil] at hlength
        omega
    refine h.longest b (by rw [hbs]; rfl) (hbegins.of_prefix ⟨more, ?_⟩)
    rw [List.append_assoc, List.singleton_append]

/-- Bytes are repaired to one text only. -/
theorem Repaired.unique {bs : List UInt8} {text other : List Char} (h : Repaired bs text)
    (hother : Repaired bs other) : text = other := by
  induction h generalizing other with
  | nil =>
    generalize hbs : ([] : List UInt8) = bs at hother
    cases hother with
    | nil => rfl
    | char c _ =>
      have hnil := (List.append_eq_nil_iff.mp hbs.symm).1
      exact absurd hnil String.utf8EncodeChar_ne_nil
    | replaced hne _ _ => exact absurd (List.append_eq_nil_iff.mp hbs.symm).1 hne
  | @char c bs text _ ih =>
    generalize hall : utf8EncodeChar c ++ bs = all at hother
    cases hother with
    | nil => exact absurd (List.append_eq_nil_iff.mp hall).1 String.utf8EncodeChar_ne_nil
    | char d hrest =>
      obtain rfl := char_unique hall
      rw [ih (List.append_cancel_left hall ▸ hrest)]
    | replaced _ hreplaced _ => exact absurd ⟨bs, hall⟩ (hreplaced.no_char c)
  | @replaced piece bs text hne hreplaced _ ih =>
    generalize hall : piece ++ bs = all at hother
    cases hother with
    | nil => exact absurd (List.append_eq_nil_iff.mp hall).1 hne
    | @char c cs _ hrest => exact absurd ⟨cs, hall.symm⟩ (hreplaced.no_char c)
    | @replaced other cs _ hne' hreplaced' hrest =>
      have hlength : piece.length = other.length :=
        Nat.le_antisymm (hreplaced'.length_le hreplaced hne' hall.symm)
          (hreplaced.length_le hreplaced' hne hall)
      obtain ⟨-, rfl⟩ := List.append_inj hall hlength
      rw [ih hrest]

/-- Bytes that were written as a text are repaired to this text. -/
theorem repaired_encodeBytes (text : List Char) : Repaired (encodeBytes text) text := by
  induction text with
  | nil => exact .nil
  | cons c text ih => exact .char c ih

/-- NUL is read only from a zero byte. -/
theorem Repaired.zero_mem {bs : List UInt8} {text : List Char} (h : Repaired bs text)
    (hnul : '\x00' ∈ text) : 0 ∈ bs := by
  induction h with
  | nil => cases hnul
  | char c _ ih =>
    rcases List.mem_cons.mp hnul with rfl | hrest
    · exact List.mem_append_left _ (by decide)
    · exact List.mem_append_right _ (ih hrest)
  | replaced _ _ _ ih =>
    rcases List.mem_cons.mp hnul with hzero | hrest
    · exact absurd hzero (by decide)
    · exact List.mem_append_right _ (ih hrest)

/-! ## The bytes of a character -/

/-- The number that the first byte of a character has. -/
def leadByte (n : Nat) : Nat :=
  if n < 0x80 then n
  else if n < 0x800 then 0xc0 + n / 0x40
  else if n < 0x10000 then 0xe0 + n / 0x1000
  else 0xf0 + n / 0x40000

/-- How many bytes of a character stand behind its first one. -/
def trailCount (n : Nat) : Nat :=
  if n < 0x80 then 0 else if n < 0x800 then 1 else if n < 0x10000 then 2 else 3

/-- The number that a byte of a character has behind which `count` more follow. -/
def trailByte (count n : Nat) : Nat :=
  0x80 + n / 64 ^ count % 64

/-- The last `count` bytes of a character. -/
def trail : Nat → Nat → List UInt8
  | 0, _ => []
  | count + 1, n => UInt8.ofNat (trailByte count n) :: trail count n

theorem trailByte_lt (count n : Nat) : trailByte count n < UInt8.size := by
  unfold trailByte UInt8.size
  omega

theorem toNat_ofNat {n : Nat} (h : n.isValidChar) : (Char.ofNat n).toNat = n := by
  unfold Char.ofNat
  rw [dif_pos h]
  rfl

theorem leadByte_lt {n : Nat} (h : n.isValidChar) : leadByte n < UInt8.size := by
  unfold leadByte UInt8.size
  unfold Nat.isValidChar at h
  split_ifs <;> omega

theorem ofNat_eq_iff {n : Nat} (h : n < UInt8.size) {b : UInt8} :
    UInt8.ofNat n = b ↔ n = b.toNat := by
  rw [← UInt8.toNat_inj, UInt8.toNat_ofNat_of_lt' h]

/-- A character is stored as its first byte and those behind it. -/
theorem utf8EncodeChar_eq (c : Char) :
    utf8EncodeChar c = UInt8.ofNat (leadByte c.toNat) :: trail (trailCount c.toNat) c.toNat := by
  have hvalid : c.toNat < 0xd800 ∨ (0xdfff < c.toNat ∧ c.toNat < 0x110000) := c.valid
  have hnumber : c.val.toNat = c.toNat := rfl
  simp only [utf8EncodeChar, hnumber]
  generalize c.toNat = n at hvalid
  unfold leadByte trailCount
  by_cases hone : n < 0x80
  · rw [if_pos (by omega), if_pos hone, if_pos hone]
    rfl
  · rw [if_neg (by omega), if_neg hone, if_neg hone]
    by_cases htwo : n < 0x800
    · have hlead : n / 64 % 32 + 192 = 0xc0 + n / 0x40 := by omega
      rw [if_pos (by omega), if_pos htwo, if_pos htwo, hlead, Nat.add_comm (n % 64)]
      simp [trail, trailByte]
    · rw [if_neg (by omega), if_neg htwo, if_neg htwo]
      by_cases hthree : n < 0x10000
      · have hlead : n / 4096 % 16 + 224 = 0xe0 + n / 0x1000 := by omega
        rw [if_pos (by omega), if_pos hthree, if_pos hthree, hlead, Nat.add_comm (n / 64 % 64),
          Nat.add_comm (n % 64)]
        simp [trail, trailByte]
      · have hlead : n / 262144 % 8 + 240 = 0xf0 + n / 0x40000 := by omega
        rw [if_neg (by omega), if_neg hthree, if_neg hthree, hlead, Nat.add_comm (n / 4096 % 64),
          Nat.add_comm (n / 64 % 64), Nat.add_comm (n % 64)]
        simp [trail, trailByte]

theorem le_of_mem_trail {count n : Nat} {b : UInt8} (h : b ∈ trail count n) : 0x80 ≤ b.toNat := by
  induction count with
  | zero => cases h
  | succ count ih =>
    rcases List.mem_cons.mp h with rfl | hrest
    · rw [UInt8.toNat_ofNat_of_lt' (trailByte_lt count n)]
      exact Nat.le_add_right _ _
    · exact ih hrest

/-- A text without NUL has no zero byte. -/
theorem ne_zero_of_mem_encodeBytes {text : List Char} (htext : '\x00' ∉ text) {b : UInt8}
    (hb : b ∈ encodeBytes text) : b ≠ 0 := by
  obtain ⟨c, hc, hb⟩ := List.mem_flatMap.mp hb
  rintro rfl
  rw [utf8EncodeChar_eq, List.mem_cons] at hb
  rcases hb with hlead | htrail
  · have hzero : leadByte c.toNat = 0 :=
      (ofNat_eq_iff (leadByte_lt (n := c.toNat) c.valid)).mp hlead.symm
    have hnumber : c.toNat = 0 := by
      unfold leadByte at hzero
      split_ifs at hzero <;> omega
    exact htext ((Char.toNat_inj (d := '\x00')).mp hnumber ▸ hc)
  · exact absurd (le_of_mem_trail htrail) (by decide)

/-! ## A character under way -/

namespace Pending

/-- A number is one of those that a character under way can come to. -/
structure Allows (p : Pending) (n : Nat) : Prop where
  bits_eq : n / 64 ^ p.missing = p.bits
  low_le : p.low ≤ trailByte (p.missing - 1) n
  le_high : trailByte (p.missing - 1) n ≤ p.high

theorem allows_iff {p : Pending} {n : Nat} : p.Allows n ↔ n / 64 ^ p.missing = p.bits ∧
    p.low ≤ trailByte (p.missing - 1) n ∧ trailByte (p.missing - 1) n ≤ p.high :=
  ⟨fun h => ⟨h.bits_eq, h.low_le, h.le_high⟩, fun h => ⟨h.1, h.2.1, h.2.2⟩⟩

/-- What has been seen of a character under way: it can become each of the characters that begin
with the bytes seen, and no others, and there is such a character for each next byte in the
range. -/
structure Continues (p : Pending) (seen : List UInt8) : Prop where
  seen_ne_nil : seen ≠ []
  missing_pos : 0 < p.missing
  low_ge : 0x80 ≤ p.low
  low_le_high : p.low ≤ p.high
  high_le : p.high ≤ 0xbf
  valid : ∀ n, p.Allows n → n.isValidChar
  append_iff : ∀ (c : Char) (rest : List UInt8), utf8EncodeChar c = seen ++ rest ↔
    p.Allows c.toNat ∧ rest = trail p.missing c.toNat

/-- The numbers that begin with a first byte are those that it announces. -/
theorem start?_eq_some {b : Nat} {p : Pending} (h : start? b = some p) :
    (∀ n, p.Allows n → n.isValidChar) ∧
      (∀ n, n.isValidChar → (leadByte n = b ↔ p.Allows n)) ∧
      ∀ n, p.Allows n → trailCount n = p.missing := by
  simp only [allows_iff, trailByte, leadByte, trailCount, Nat.isValidChar]
  unfold start? at h
  split_ifs at h
  all_goals
    obtain rfl := Option.some.inj h
    simp only [Nat.reducePow, Nat.reduceSub, Nat.pow_zero, Nat.div_one]
    refine ⟨fun n => ?_, fun n => ?_, fun n => ?_⟩
    · omega
    · split_ifs <;> omega
    · split_ifs <;> omega

/-- A byte that announces nothing is the first one of no character but a plain one. -/
theorem start?_eq_none {b n : Nat} (h : start? b = none) (hvalid : n.isValidChar)
    (hlarge : 0x80 ≤ n) : leadByte n ≠ b := by
  simp only [leadByte, Nat.isValidChar] at hvalid ⊢
  unfold start? at h
  split_ifs at h
  split_ifs <;> omega

theorem start?_range {b : Nat} {p : Pending} (h : start? b = some p) :
    0 < p.missing ∧ 0x80 ≤ p.low ∧ p.low ≤ p.high ∧ p.high ≤ 0xbf := by
  unfold start? at h
  split_ifs at h
  all_goals
    obtain rfl := Option.some.inj h
    simp only
    omega

/-- The byte that a character under way needs next is in the range, and the numbers that come
with it are those that are left. -/
theorem allows_next {p : Pending} {b n : Nat} (hpos : 0 < p.missing) (hlow : 0x80 ≤ p.low)
    (hhigh : p.high ≤ 0xbf) :
    p.Allows n ∧ trailByte (p.missing - 1) n = b ↔
      (p.low ≤ b ∧ b ≤ p.high) ∧ n / 64 ^ (p.missing - 1) = p.bits * 64 + (b - 0x80) := by
  obtain ⟨count, hcount⟩ : ∃ count, p.missing = count + 1 := ⟨p.missing - 1, by omega⟩
  rw [allows_iff, hcount, Nat.pow_succ, ← Nat.div_div_eq_div_mul, Nat.add_sub_cancel]
  unfold trailByte
  omega

namespace Continues

variable {p : Pending} {seen : List UInt8}

theorem of_start? {b : UInt8} (h : start? b.toNat = some p) : p.Continues [b] := by
  obtain ⟨hvalid, hlead, hcount⟩ := start?_eq_some h
  obtain ⟨hpos, hlow, hle, hhigh⟩ := start?_range h
  refine ⟨List.cons_ne_nil b [], hpos, hlow, hle, hhigh, hvalid, fun c rest => ?_⟩
  rw [utf8EncodeChar_eq, List.singleton_append, List.cons.injEq,
    ofNat_eq_iff (leadByte_lt (n := c.toNat) c.valid), hlead c.toNat c.valid]
  constructor
  · rintro ⟨hallows, rfl⟩
    exact ⟨hallows, by rw [hcount _ hallows]⟩
  · rintro ⟨hallows, rfl⟩
    exact ⟨hallows, by rw [hcount _ hallows]⟩

/-- The bytes seen and one more begin a character iff the byte is in the range, and the number of
the character is what has been seen of it. -/
theorem append_cons_iff (h : p.Continues seen) (c : Char) (b : UInt8) (rest : List UInt8) :
    utf8EncodeChar c = seen ++ b :: rest ↔
      (p.low ≤ b.toNat ∧ b.toNat ≤ p.high) ∧
        c.toNat / 64 ^ (p.missing - 1) = p.bits * 64 + (b.toNat - 0x80) ∧
          rest = trail (p.missing - 1) c.toNat := by
  have htrail : trail p.missing c.toNat
      = UInt8.ofNat (trailByte (p.missing - 1) c.toNat) :: trail (p.missing - 1) c.toNat := by
    show _ = trail (p.missing - 1 + 1) c.toNat
    rw [Nat.sub_add_cancel h.missing_pos]
  rw [h.append_iff, htrail, List.cons.injEq, eq_comm (a := b), ofNat_eq_iff (trailByte_lt _ _),
    ← and_assoc, allows_next h.missing_pos h.low_ge h.high_le, and_assoc]

/-- Some character begins with the bytes seen. -/
theorem begins (h : p.Continues seen) : Begins seen := by
  let n := (p.bits * 64 + (p.low - 0x80)) * 64 ^ (p.missing - 1)
  have hn : n / 64 ^ (p.missing - 1) = p.bits * 64 + (p.low - 0x80) :=
    Nat.mul_div_cancel _ (Nat.pow_pos (by decide))
  have hallows : p.Allows n :=
    ((allows_next h.missing_pos h.low_ge h.high_le).mpr ⟨⟨Nat.le_refl _, h.low_le_high⟩, hn⟩).1
  have hnumber : (Char.ofNat n).toNat = n := toNat_ofNat (h.valid n hallows)
  refine ⟨Char.ofNat n, trail p.missing n, Eq.symm ?_⟩
  exact (h.append_iff _ _).mpr ⟨hnumber.symm ▸ hallows, by rw [hnumber]⟩

/-- What has been seen of a character is never all of it. -/
theorem ne_nil_of_append (h : p.Continues seen) {c : Char} {rest : List UInt8}
    (hc : utf8EncodeChar c = seen ++ rest) : rest ≠ [] := by
  rintro rfl
  have htrail := ((h.append_iff c []).mp hc).2
  rw [← Nat.sub_add_cancel h.missing_pos, trail] at htrail
  cases htrail

/-- With the next byte of the range, and more to come. -/
theorem next (h : p.Continues seen) (hmissing : ¬ p.missing ≤ 1) {b : UInt8}
    (hb : p.low ≤ b.toNat ∧ b.toNat ≤ p.high) :
    Continues ⟨p.bits * 64 + (b.toNat - 0x80), p.missing - 1, 0x80, 0xbf⟩ (seen ++ [b]) := by
  have hallows : ∀ n, Allows ⟨p.bits * 64 + (b.toNat - 0x80), p.missing - 1, 0x80, 0xbf⟩ n ↔
      n / 64 ^ (p.missing - 1) = p.bits * 64 + (b.toNat - 0x80) := by
    refine fun n => ⟨fun hn => hn.bits_eq, fun hn => ⟨hn, ?_, ?_⟩⟩
    · exact Nat.le_add_right _ _
    · show trailByte _ n ≤ 0xbf
      unfold trailByte
      omega
  refine ⟨List.append_ne_nil_of_left_ne_nil h.seen_ne_nil _, ?_, Nat.le_refl _,
    Nat.le_add_right 0x80 0x3f, Nat.le_refl _, fun n hn => ?_, fun c rest => ?_⟩
  · show 0 < p.missing - 1
    omega
  · have hn := (hallows n).mp hn
    exact h.valid n ((allows_next h.missing_pos h.low_ge h.high_le).mpr ⟨hb, hn⟩).1
  · rw [List.append_assoc, List.singleton_append, h.append_cons_iff, hallows]
    exact and_iff_right hb

/-- The last byte of the range makes up a character. -/
theorem complete (h : p.Continues seen) (hmissing : p.missing ≤ 1) {b : UInt8}
    (hb : p.low ≤ b.toNat ∧ b.toNat ≤ p.high) :
    utf8EncodeChar (Char.ofNat (p.bits * 64 + (b.toNat - 0x80))) = seen ++ [b] := by
  have hone : p.missing - 1 = 0 := by omega
  have hdiv : ∀ n, n / 64 ^ (p.missing - 1) = n := fun n => by rw [hone, Nat.pow_zero, Nat.div_one]
  have hallows : p.Allows (p.bits * 64 + (b.toNat - 0x80)) :=
    ((allows_next h.missing_pos h.low_ge h.high_le).mpr ⟨hb, hdiv _⟩).1
  have hnumber : (Char.ofNat (p.bits * 64 + (b.toNat - 0x80))).toNat
      = p.bits * 64 + (b.toNat - 0x80) :=
    toNat_ofNat (h.valid _ hallows)
  refine (h.append_cons_iff _ b []).mpr ⟨hb, ?_, ?_⟩
  · rw [hdiv, hnumber]
  · rw [hone, trail]

/-- A character under way that is not continued is replaced. -/
theorem replaced (h : p.Continues seen) {rest : List UInt8}
    (hrest : ∀ b ∈ rest.head?, ¬ (p.low ≤ b.toNat ∧ b.toNat ≤ p.high)) :
    Replaced seen rest where
  no_char := by
    rintro c ⟨more, hmore⟩
    rcases List.append_eq_append_iff.mp hmore with ⟨back, rfl, -⟩ | ⟨back, hback, rfl⟩
    · -- the bytes seen hold a character, so it is the one under way and nothing is missing
      obtain ⟨d, behind, hd⟩ := h.begins
      have hsame : utf8EncodeChar c ++ (back ++ behind) = utf8EncodeChar d ++ [] := by
        simpa using hd
      have hcd : c = d := char_unique hsame
      have hnil : behind = [] := by
        rw [hcd, List.append_assoc] at hd
        exact (List.append_eq_nil_iff.mp (List.append_right_eq_self.mp hd)).2
      exact h.ne_nil_of_append hd.symm hnil
    · cases back with
      | nil => exact h.ne_nil_of_append hback rfl
      | cons b back =>
        exact hrest b rfl ((h.append_cons_iff c b back).mp hback).1
  begins := .inl h.begins
  longest := by
    rintro b hb ⟨c, behind, hc⟩
    rw [List.append_assoc, List.singleton_append] at hc
    exact hrest b hb ((h.append_cons_iff c b behind).mp hc.symm).1

end Continues

end Pending

/-! ## What the decoder reads -/

theorem utf8EncodeChar_of_lt {b : UInt8} (h : b.toNat < 0x80) :
    utf8EncodeChar (Char.ofNat b.toNat) = [b] := by
  have hnumber : (Char.ofNat b.toNat).toNat = b.toNat := toNat_ofNat (.inl (by omega))
  rw [utf8EncodeChar_eq, hnumber, leadByte, if_pos h, trailCount, if_pos h, UInt8.ofNat_toNat, trail]

/-- A byte that is the first one of no character is replaced. -/
theorem replaced_singleton {b : UInt8} (hlarge : ¬ b.toNat < 0x80)
    (hstart : Pending.start? b.toNat = none) (rest : List UInt8) : Replaced [b] rest := by
  have hne : ∀ c : Char, UInt8.ofNat (leadByte c.toNat) ≠ b := by
    intro c hc
    have hvalid : c.toNat.isValidChar := c.valid
    rw [ofNat_eq_iff (leadByte_lt hvalid)] at hc
    by_cases hsmall : c.toNat < 0x80
    · rw [leadByte, if_pos hsmall] at hc
      exact hlarge (hc ▸ hsmall)
    · exact Pending.start?_eq_none hstart hvalid (Nat.le_of_not_lt hsmall) hc
  refine ⟨?_, .inr ⟨b, rfl⟩, ?_⟩
  · rintro c ⟨behind, hc⟩
    rw [utf8EncodeChar_eq] at hc
    exact hne c (List.cons.inj hc).1
  · rintro _ - ⟨c, behind, hc⟩
    rw [utf8EncodeChar_eq] at hc
    exact hne c (List.cons.inj hc).1.symm

/-- What is read from bytes on, behind any text, with nothing or a character under way. -/
def ReadsAs (pending : Option Pending) (bs : List UInt8) (text : List Char) : Prop :=
  ∀ reversed, (bs.foldl Decoder.push ⟨reversed, pending⟩).finish = reversed.reverse ++ text

/-- What is read next goes in front of what is read from the bytes behind it. -/
theorem ReadsAs.cons {pending : Option Pending} {bs : List UInt8} {text : List Char}
    (h : ReadsAs pending bs text) (c : Char) (reversed : List Char) :
    (bs.foldl Decoder.push ⟨c :: reversed, pending⟩).finish = reversed.reverse ++ c :: text := by
  rw [h, List.reverse_cons, List.append_assoc, List.singleton_append]

/-- The bytes are read as what they are repaired to, and so are bytes behind those that have been
seen of a character under way. -/
structure ReadsRepaired (bs : List UInt8) : Prop where
  idle : ∃ text, Repaired bs text ∧ ReadsAs none bs text
  pending : ∀ p seen, Pending.Continues p seen →
    ∃ text, Repaired (seen ++ bs) text ∧ ReadsAs (some p) bs text

theorem ReadsRepaired.nil : ReadsRepaired [] where
  idle := ⟨[], .nil, fun reversed => (List.append_nil reversed.reverse).symm⟩
  pending p seen h := by
    exact ⟨[replacement], .replaced h.seen_ne_nil (h.replaced nofun) .nil,
      fun reversed => List.reverse_cons⟩

/-- The first byte of a character, or of none. -/
theorem ReadsRepaired.start {bs : List UInt8} (h : ReadsRepaired bs) (b : UInt8) :
    ∃ text, Repaired (b :: bs) text ∧ ∀ reversed,
      (bs.foldl Decoder.push (Decoder.start reversed b.toNat)).finish = reversed.reverse ++ text := by
  obtain ⟨text, hrepaired, hreads⟩ := h.idle
  unfold Decoder.start
  by_cases hsmall : b.toNat < 0x80
  · simp only [if_pos hsmall]
    refine ⟨Char.ofNat b.toNat :: text, ?_, hreads.cons (Char.ofNat b.toNat)⟩
    have hchar := Repaired.char (Char.ofNat b.toNat) hrepaired
    rwa [utf8EncodeChar_of_lt hsmall] at hchar
  · simp only [if_neg hsmall]
    cases hstart : Pending.start? b.toNat with
    | some p => exact h.pending p [b] (.of_start? hstart)
    | none =>
      exact ⟨replacement :: text,
        .replaced (List.cons_ne_nil b []) (replaced_singleton hsmall hstart bs) hrepaired,
        hreads.cons replacement⟩

theorem ReadsRepaired.cons {bs : List UInt8} (h : ReadsRepaired bs) (b : UInt8) :
    ReadsRepaired (b :: bs) where
  idle := h.start b
  pending p seen hp := by
    have hpush : ∀ reversed, Decoder.push ⟨reversed, some p⟩ b
        = if p.low ≤ b.toNat ∧ b.toNat ≤ p.high then
            if p.missing ≤ 1 then
              ⟨Char.ofNat (p.bits * 64 + (b.toNat - 0x80)) :: reversed, none⟩
            else
              ⟨reversed, some ⟨p.bits * 64 + (b.toNat - 0x80), p.missing - 1, 0x80, 0xbf⟩⟩
          else Decoder.start (replacement :: reversed) b.toNat :=
      fun reversed => rfl
    simp only [ReadsAs, List.foldl_cons, hpush]
    by_cases hrange : p.low ≤ b.toNat ∧ b.toNat ≤ p.high
    · simp only [if_pos hrange]
      have hseen : seen ++ b :: bs = (seen ++ [b]) ++ bs := by
        rw [List.append_assoc, List.singleton_append]
      by_cases hlast : p.missing ≤ 1
      · obtain ⟨text, hrepaired, hreads⟩ := h.idle
        simp only [if_pos hlast]
        have hchar := Repaired.char (Char.ofNat (p.bits * 64 + (b.toNat - 0x80))) hrepaired
        rw [hp.complete hlast hrange, ← hseen] at hchar
        exact ⟨_, hchar, hreads.cons _⟩
      · simp only [if_neg hlast, hseen]
        exact h.pending _ _ (hp.next hlast hrange)
    · -- the byte does not belong to the character, and may be the first one of another
      obtain ⟨text, hrepaired, hreads⟩ := h.start b
      simp only [if_neg hrange]
      refine ⟨replacement :: text, .replaced hp.seen_ne_nil (hp.replaced ?_) hrepaired,
        fun reversed => ?_⟩
      · rintro _ ⟨⟩
        exact hrange
      · rw [hreads, List.reverse_cons, List.append_assoc, List.singleton_append]

theorem readsRepaired (bs : List UInt8) : ReadsRepaired bs := by
  induction bs with
  | nil => exact .nil
  | cons b bs ih => exact ih.cons b

/-- Bytes are read as the text that they are repaired to. -/
theorem repaired_decodeRepaired (bs : List UInt8) : Repaired bs (decodeRepaired bs).toList := by
  obtain ⟨text, hrepaired, hreads⟩ := (readsRepaired bs).idle
  have htext : (decodeRepaired bs).toList = text := by
    rw [decodeRepaired, String.toList_ofList]
    exact hreads []
  exact htext ▸ hrepaired

/-- A text that was written is read back. -/
theorem decodeRepaired_encodeBytes (text : List Char) :
    decodeRepaired (encodeBytes text) = String.ofList text := by
  have h := (repaired_decodeRepaired (encodeBytes text)).unique (repaired_encodeBytes text)
  rw [← String.ofList_toList (s := decodeRepaired (encodeBytes text)), h]

end Utf8

end Minidump
