import Minidump.Process.EnvironmentBlock
import Minidump.Proofs.WideText

/-!
# Environment blocks read back

An environment is written as one `NAME=VALUE` entry per variable, each with a NUL behind
it, and one more NUL at the end. A variable can be read back from its entry only if the
first `=` that a name cannot begin with is the one that was put there, and an entry only if
no NUL comes before its end. Under these two conditions the whole block is read back, and
nothing behind its end is looked at.

- `EnvironmentVariable.IsCanonical` — the two conditions;
- `EnvironmentVariable.ofEntry_text` — a variable is read back from its entry;
- `EnvironmentBlock.encode` — the bytes of a block;
- `EnvironmentBlock.entries_entry`, `EnvironmentBlock.entries_append` — one entry, and all of
  them, are found between their terminators;
- `EnvironmentBlock.decode_encode_append` — the variables of a block, whatever follows it.
-/

namespace Minidump

namespace EnvironmentVariable

/-- The name is not empty and has no `=` but at its start, and neither the name nor the
value has a NUL. -/
structure IsCanonical (v : EnvironmentVariable) : Prop where
  name_ne : v.name ≠ ""
  no_equals : '=' ∉ v.name.toList.tail
  name_no_nul : '\x00' ∉ v.name.toList
  value_no_nul : '\x00' ∉ v.value.toList

theorem isCanonical_iff {v : EnvironmentVariable} :
    v.IsCanonical ↔ v.name ≠ "" ∧ '=' ∉ v.name.toList.tail ∧ '\x00' ∉ v.name.toList ∧
      '\x00' ∉ v.value.toList :=
  ⟨fun h => ⟨h.name_ne, h.no_equals, h.name_no_nul, h.value_no_nul⟩,
    fun h => ⟨h.1, h.2.1, h.2.2.1, h.2.2.2⟩⟩

instance (v : EnvironmentVariable) : Decidable v.IsCanonical :=
  decidable_of_iff _ isCanonical_iff.symm

theorem toList_text (v : EnvironmentVariable) :
    v.text.toList = v.name.toList ++ '=' :: v.value.toList := by
  simp [text]

/-- The first `=` splits. -/
theorem splitAtEquals_append {name : List Char} (h : '=' ∉ name) (value : List Char) :
    splitAtEquals (name ++ '=' :: value) = (name, value) := by
  have hname : ∀ c ∈ name, decide (c ≠ '=') = true := by
    intro c hc
    have hne : c ≠ '=' := fun heq => h (heq ▸ hc)
    exact decide_eq_true hne
  unfold splitAtEquals
  rw [List.takeWhile_append_of_pos hname, List.dropWhile_append_of_pos hname]
  simp

/-- The first `=` after the first character splits an entry. -/
theorem ofEntry_append {name : List Char} (hne : name ≠ []) (h : '=' ∉ name.tail)
    (value : List Char) :
    ofEntry (name ++ '=' :: value) = ⟨String.ofList name, String.ofList value⟩ := by
  cases name with
  | nil => exact absurd rfl hne
  | cons c rest =>
    rw [List.tail_cons] at h
    -- a `=` in front is not looked at, and any other character is no `=`
    by_cases hfirst : c = '='
    · subst hfirst
      show EnvironmentVariable.mk (String.ofList ('=' :: (splitAtEquals (rest ++ _)).1))
        (String.ofList (splitAtEquals (rest ++ _)).2) = _
      rw [splitAtEquals_append h]
    · have hname : '=' ∉ c :: rest := by
        simp only [List.mem_cons, not_or]
        exact ⟨fun heq => hfirst heq.symm, h⟩
      have hentry : ofEntry (c :: rest ++ '=' :: value)
          = ⟨String.ofList (splitAtEquals (c :: rest ++ '=' :: value)).1,
            String.ofList (splitAtEquals (c :: rest ++ '=' :: value)).2⟩ := by
        rw [ofEntry]
        simpa using hfirst
      rw [hentry, splitAtEquals_append hname]

/-- A variable is read back from its entry. -/
theorem ofEntry_text {v : EnvironmentVariable} (h : v.IsCanonical) : ofEntry v.text.toList = v := by
  have hne : v.name.toList ≠ [] := fun hempty => h.name_ne (by simpa using hempty)
  rw [toList_text, ofEntry_append hne h.no_equals, String.ofList_toList, String.ofList_toList]

end EnvironmentVariable

namespace EnvironmentBlock

/-- The units of an entry, without its NUL. -/
def entryUnits (v : EnvironmentVariable) : List UInt16 :=
  Utf16.encodeUnits v.text.toList

/-- The bytes of a block: each entry with a NUL behind it, and an empty one that closes the
block. -/
def encode (vs : List EnvironmentVariable) : List UInt8 :=
  (vs.flatMap (fun v => entryUnits v ++ [0]) ++ [0]).flatMap Utf16.unitBytes

/-! ## Entries -/

/-- Units other than NUL belong to the entry under way. -/
theorem entriesOnto_append {us : List UInt16} (hus : ∀ u ∈ us, u ≠ 0)
    (found : List (List UInt16)) (current rest : List UInt16) :
    entriesOnto found current (us ++ rest) = entriesOnto found (us.reverse ++ current) rest := by
  induction us generalizing current with
  | nil => rfl
  | cons u us ih =>
    rw [List.forall_mem_cons] at hus
    rw [List.cons_append, entriesOnto, if_pos hus.1, ih hus.2]
    simp

/-- What was found before is put in front of what is found from here on. -/
theorem entriesOnto_eq (found : List (List UInt16)) (current us : List UInt16) :
    entriesOnto found current us = found.reverse ++ entriesOnto [] current us := by
  induction us generalizing found current with
  | nil => simp [entriesOnto]
  | cons u us ih =>
    rw [entriesOnto, entriesOnto, ih found (u :: current), ih (_ :: found), ih [_]]
    split
    · rfl
    · split <;> simp

/-- An entry that is not empty ends with the next NUL. -/
theorem entries_entry {us : List UInt16} (hne : us ≠ []) (hus : ∀ u ∈ us, u ≠ 0)
    (rest : List UInt16) : entries (us ++ 0 :: rest) = us :: entries rest := by
  rw [entries, entriesOnto_append hus, List.append_nil, entriesOnto]
  simp [hne, entriesOnto_eq [us], entries]

/-- An empty entry closes the block. -/
@[simp] theorem entries_closed (rest : List UInt16) : entries (0 :: rest) = [] := rfl

/-- Entries are found one after the other, and then those of what is behind them. -/
theorem entries_append {written : List (List UInt16)}
    (h : ∀ us ∈ written, us ≠ [] ∧ ∀ u ∈ us, u ≠ 0) (rest : List UInt16) :
    entries (written.flatMap (· ++ [0]) ++ rest) = written ++ entries rest := by
  induction written with
  | nil => rfl
  | cons us written ih =>
    rw [List.forall_mem_cons] at h
    obtain ⟨⟨hne, hus⟩, hwritten⟩ := h
    have hsplit : (us :: written).flatMap (· ++ [0]) ++ rest
        = us ++ 0 :: (written.flatMap (· ++ [0]) ++ rest) := by
      simp
    rw [hsplit, entries_entry hne hus, ih hwritten, List.cons_append]

/-! ## Variables -/

/-- The entry of a canonical variable is not empty and has no NUL. -/
theorem entryUnits_of_isCanonical {v : EnvironmentVariable} (h : v.IsCanonical) :
    entryUnits v ≠ [] ∧ ∀ u ∈ entryUnits v, u ≠ 0 := by
  constructor
  · intro hempty
    have hread := Utf16.decodeUnits?_encodeUnits v.text.toList
    rw [entryUnits] at hempty
    rw [hempty, Utf16.decodeUnits?_nil, Option.some.injEq, v.toList_text] at hread
    simp at hread
  · intro u hu
    refine Utf16.ne_zero_of_mem_encodeUnits ?_ hu
    rw [v.toList_text]
    simp [h.name_no_nul, h.value_no_nul]

theorem variableOfUnits_entryUnits {v : EnvironmentVariable} (h : v.IsCanonical) :
    variableOfUnits (entryUnits v) = .ok v := by
  rw [variableOfUnits, entryUnits, Utf16.decodeUnits?_encodeUnits]
  exact congrArg Except.ok (EnvironmentVariable.ofEntry_text h)

theorem mapM_variableOfUnits {vs : List EnvironmentVariable}
    (h : ∀ v ∈ vs, v.IsCanonical) :
    (vs.map entryUnits).mapM variableOfUnits = .ok vs := by
  induction vs with
  | nil => rfl
  | cons v vs ih =>
    rw [List.forall_mem_cons] at h
    rw [List.map_cons, List.mapM_cons, variableOfUnits_entryUnits h.1, ih h.2]
    rfl

/-- The variables of a block are read back, whatever follows the block. -/
theorem decode_encode_append {vs : List EnvironmentVariable}
    (h : ∀ v ∈ vs, v.IsCanonical) (rest : List UInt8) :
    decode (encode vs ++ rest) = .ok vs := by
  have hunits : Utf16.units (encode vs ++ rest)
      = (vs.map entryUnits).flatMap (· ++ [0]) ++ 0 :: Utf16.units rest := by
    rw [encode, Utf16.units_bytes_append, List.flatMap_map]
    simp
  have hwritten : ∀ us ∈ vs.map entryUnits, us ≠ [] ∧ ∀ u ∈ us, u ≠ 0 := by
    intro us hus
    obtain ⟨v, hv, rfl⟩ := List.mem_map.mp hus
    exact entryUnits_of_isCanonical (h v hv)
  rw [decode, hunits, entries_append hwritten, entries_closed, List.append_nil,
    mapM_variableOfUnits h]

end EnvironmentBlock

end Minidump
