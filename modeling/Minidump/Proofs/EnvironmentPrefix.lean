import Minidump.Proofs.EnvironmentGrammar

/-!
# Blocks that are cut off

Where an environment block ends is not known before it is read, so it is cut off at the end
of its region, in the middle of an entry, of a character or of a unit if need be. This does
no harm. What can be seen of a block are its complete entries; what is behind them, closed
off or cut off, says nothing. More bytes can complete the last entry and add others, but
change nothing about those before, and behind the empty entry that closes the block they do
not even do that.

- `Utf16.exists_units_append`, `Utf16.units_append_singleton` — bytes behind others add units
  to theirs, and a single byte none;
- `EnvironmentBlock.IsClosed` — the empty entry that closes a block is among its units;
- `EnvironmentBlock.decode_eq_of_divides` — blocks with the same complete entries are read
  alike;
- `EnvironmentBlock.exists_decode_append` — more bytes can only add variables;
- `EnvironmentBlock.decode_eq_error_iff` — a block is refused for a complete entry that is
  not well-formed;
- `EnvironmentBlock.reads_no_further` — the main statement.
-/

namespace Minidump

namespace Utf16

/-- Bytes behind others add units to theirs, the first of which may begin with the odd byte
that was left. -/
theorem exists_units_append : ∀ (bs suffix : List UInt8),
    ∃ more, units (bs ++ suffix) = units bs ++ more
  | [], suffix => ⟨units suffix, rfl⟩
  | [b], suffix => ⟨units (b :: suffix), rfl⟩
  | low :: high :: rest, suffix => by
    obtain ⟨more, hmore⟩ := exists_units_append rest suffix
    refine ⟨more, ?_⟩
    rw [List.cons_append, List.cons_append, units_cons_cons, units_cons_cons, hmore,
      List.cons_append]

/-- A last odd byte adds no unit. -/
theorem units_append_singleton {bs : List UInt8} (h : bs.length % 2 = 0) (b : UInt8) :
    units (bs ++ [b]) = units bs := by
  have happend := units_bytes_append (units bs) [b]
  rwa [flatMap_unitBytes_units h, units_singleton, List.append_nil] at happend

end Utf16

namespace EnvironmentBlock

/-! ## Complete entries -/

/-- The empty entry that closes a block is there: a NUL where an entry would begin. -/
def IsClosed (us : List UInt16) : Prop :=
  ∃ found rest, Divides us found (0 :: rest)

theorem decode_of_divides {block : List UInt8} {found : List (List UInt16)}
    {rest : List UInt16} (h : Divides (Utf16.units block) found rest) :
    decode block = found.mapM variableOfUnits := by
  rw [decode, h.entries_eq]

/-- Only complete entries are looked at. -/
theorem decode_eq_of_divides {block other : List UInt8} {found : List (List UInt16)}
    {rest otherRest : List UInt16} (h : Divides (Utf16.units block) found rest)
    (hother : Divides (Utf16.units other) found otherRest) : decode other = decode block := by
  rw [decode_of_divides h, decode_of_divides hother]

/-! ## More bytes -/

/-- Bytes behind a block can only add variables to its own. -/
theorem exists_decode_append (block suffix : List UInt8) :
    ∃ later : List (List UInt16), decode (block ++ suffix) = (do
      let vs ← decode block
      let more ← later.mapM variableOfUnits
      pure (vs ++ more)) := by
  obtain ⟨more, hunits⟩ := Utf16.exists_units_append block suffix
  obtain ⟨found, rest, hdivides⟩ := exists_divides (Utf16.units block)
  refine ⟨entries (rest ++ more), ?_⟩
  rw [decode_of_divides hdivides, decode, hunits, hdivides.entries_append, List.mapM_append]

/-- Behind the entry that closes a block nothing is read. -/
theorem decode_append_of_isClosed {block : List UInt8} (h : IsClosed (Utf16.units block))
    (suffix : List UInt8) : decode (block ++ suffix) = decode block := by
  obtain ⟨more, hunits⟩ := Utf16.exists_units_append block suffix
  obtain ⟨found, rest, hdivides⟩ := h
  rw [decode_of_divides hdivides, decode, hunits, hdivides.entries_append, List.cons_append,
    entries_closed, List.append_nil]

/-! ## Failure -/

theorem variableOfUnits_eq_error_iff {e : List UInt16} {cause : Error} :
    variableOfUnits e = .error cause ↔
      cause = .loneSurrogate ∧ ∃ index, Utf16.IsLone e index := by
  unfold variableOfUnits
  rw [← Utf16.decodeUnits?_eq_none_iff]
  cases Utf16.decodeUnits? e with
  | none => exact ⟨fun h => ⟨(Except.error.inj h).symm, rfl⟩, fun h => h.1 ▸ rfl⟩
  | some text => exact ⟨nofun, fun h => nomatch h.2⟩

/-- A block is refused iff one of its complete entries has a surrogate without its
partner. -/
theorem decode_eq_error_iff {block : List UInt8} {cause : Error} :
    decode block = .error cause ↔
      cause = .loneSurrogate ∧
        ∃ found rest, Divides (Utf16.units block) found rest ∧
          ∃ e ∈ found, ∃ index, Utf16.IsLone e index := by
  constructor
  · intro h
    obtain ⟨found, rest, hdivides⟩ := exists_divides (Utf16.units block)
    rw [decode_of_divides hdivides, mapM_eq_error_iff] at h
    obtain ⟨place, e, he, hfail, -⟩ := h
    obtain ⟨hcause, hlone⟩ := variableOfUnits_eq_error_iff.mp hfail
    exact ⟨hcause, found, rest, hdivides, e, List.mem_of_getElem? he, hlone⟩
  · rintro ⟨rfl, found, rest, hdivides, e, he, hlone⟩
    have hfail := variableOfUnits_eq_error_iff.mpr ⟨rfl, hlone⟩
    rw [decode_of_divides hdivides]
    cases hread : found.mapM variableOfUnits with
    | error cause =>
      -- whichever entry is the first that is refused, the cause is the same
      obtain ⟨place, first, -, hfirst, -⟩ := mapM_eq_error_iff.mp hread
      rw [(variableOfUnits_eq_error_iff.mp hfirst).1]
    | ok vs =>
      obtain ⟨v, hv⟩ := exists_mapM_iff.mp ⟨vs, hread⟩ e he
      cases hfail.symm.trans hv

/-- **A block is read no further than it has to be, and what was read of it stays.** If a block
with bytes behind it is read, then so is the block alone, to the first of the same variables;
if the block alone is refused, then so it is with bytes behind it. If the block is closed,
they make no difference at all. A block is refused iff one of the entries that end with a NUL
in it and stand before the first empty one has a surrogate without its partner. What stands
behind these entries, closed off or cut off, has no effect, and neither has an odd last
byte. -/
theorem reads_no_further (block suffix : List UInt8) :
    (∀ vs, decode (block ++ suffix) = .ok vs → ∃ us, decode block = .ok us ∧ us <+: vs) ∧
    (∀ cause, decode block = .error cause → decode (block ++ suffix) = .error cause) ∧
    (IsClosed (Utf16.units block) → decode (block ++ suffix) = decode block) ∧
    (∀ cause, decode block = .error cause ↔
      cause = .loneSurrogate ∧
        ∃ found rest, Divides (Utf16.units block) found rest ∧
          ∃ e ∈ found, ∃ index, Utf16.IsLone e index) ∧
    (∀ other found rest otherRest, Divides (Utf16.units block) found rest →
      Divides (Utf16.units other) found otherRest → decode other = decode block) ∧
    ∀ byte, block.length % 2 = 0 → decode (block ++ [byte]) = decode block := by
  obtain ⟨later, hlater⟩ := exists_decode_append block suffix
  refine ⟨fun vs h => ?_, fun cause h => ?_, fun h => decode_append_of_isClosed h suffix,
    fun cause => decode_eq_error_iff, fun other found rest otherRest => decode_eq_of_divides,
    fun byte h => ?_⟩
  · rw [hlater, bind_eq_ok_iff] at h
    obtain ⟨us, hus, h⟩ := h
    obtain ⟨more, -, h⟩ := bind_eq_ok_iff.mp h
    exact ⟨us, hus, more, Except.ok.inj h⟩
  · rw [hlater, h]
    rfl
  · rw [decode, Utf16.units_append_singleton h, decode]

/-- Three blocks and what may be behind them: one that is cut off after an odd byte in the
middle of a pair of surrogates; one that is refused for an entry with half a pair; and one
that is closed, with half a pair behind its end. -/
theorem reads_no_further_of_cuts :
    let cut : List UInt8 :=
      Utf16.encodeBytes ['a', '=', '1', '\x00', 'b', '='] ++ [0x3d, 0xd8, 0x00]
    let refused : List UInt8 := [0x61, 0, 0x3d, 0xd8, 0, 0]
    let closed : List UInt8 := EnvironmentBlock.encode [⟨"a", "1"⟩] ++ [0, 0xd8, 0]
    decode (cut ++ [0xde, 0, 0]) = .ok [⟨"a", "1"⟩, ⟨"b", "😀"⟩] ∧
      (∃ us, decode cut = .ok us ∧ us <+: [⟨"a", "1"⟩, ⟨"b", "😀"⟩]) ∧
    decode refused = .error .loneSurrogate ∧
      decode (refused ++ [0x62]) = .error .loneSurrogate ∧
    IsClosed (Utf16.units closed) ∧ decode (closed ++ [0, 0]) = decode closed ∧
    Divides (Utf16.units cut) [[0x61, 0x3d, 0x31]] [0x62, 0x3d, 0xd83d] ∧
      Divides (Utf16.units closed) [[0x61, 0x3d, 0x31]] [0, 0xd800] ∧
      decode closed = decode cut ∧
    refused.length % 2 = 0 ∧ decode (refused ++ [0x62]) = decode refused := by
  intro cut refused closed
  have hcut : decode (cut ++ [0xde, 0, 0]) = .ok [⟨"a", "1"⟩, ⟨"b", "😀"⟩] := by decide +kernel
  have hrefused : decode refused = .error .loneSurrogate := by decide +kernel
  have hcut_divides : Divides (Utf16.units cut) [[0x61, 0x3d, 0x31]] [0x62, 0x3d, 0xd83d] :=
    ⟨by decide +kernel, by simp, .inr (by simp)⟩
  have hclosed_divides : Divides (Utf16.units closed) [[0x61, 0x3d, 0x31]] [0, 0xd800] :=
    ⟨by decide +kernel, by simp, .inl rfl⟩
  have hclosed : IsClosed (Utf16.units closed) := ⟨_, _, hclosed_divides⟩
  have heven : refused.length % 2 = 0 := by decide
  exact ⟨hcut, (reads_no_further cut [0xde, 0, 0]).1 _ hcut, hrefused,
    (reads_no_further refused [0x62]).2.1 _ hrefused, hclosed,
    (reads_no_further closed [0, 0]).2.2.1 hclosed, hcut_divides, hclosed_divides,
    (reads_no_further cut []).2.2.2.2.1 closed _ _ _ hcut_divides hclosed_divides, heven,
    (reads_no_further refused []).2.2.2.2.2 0x62 heven⟩

end EnvironmentBlock

end Minidump
