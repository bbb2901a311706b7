import Minidump.Proofs.EnvironmentText
import Minidump.Proofs.Surrogates
import Minidump.Proofs.Gives

/-!
# The grammar of environment blocks

A block is read to an environment iff it is spelled out in it, entry by entry: its units
divide into entries that are each closed by a NUL, and each entry is the wide form of
`NAME=VALUE`, or of a name alone. What the entries are is settled by the units and has
nothing to do with how a block is searched. Since the variables that are read have the form
that can be written, an environment that was read once is read back from its written form.

- `EnvironmentBlock.Divides` — units divide into entries and what is behind them;
- `EnvironmentBlock.exists_divides`, `EnvironmentBlock.Divides.entries_eq` — they do so in
  one way, and the entries are those that a block is read for;
- `EnvironmentVariable.SpelledAs` — the texts that stand for a variable;
- `EnvironmentVariable.spelledAs_ofEntry`, `EnvironmentVariable.ofEntry_of_spelledAs` — a text
  is read as the variable that it stands for;
- `EnvironmentBlock.decode_eq_ok_iff_spells` — a block is read to the environment that its
  entries spell;
- `EnvironmentBlock.decodes_exactly_spellings` — both directions, and the round trip.
-/

namespace Minidump

/-- What holds of everything on the right can be said apart from how the two sides go
together. -/
theorem forall₂_and_right {α β : Type} {R : α → β → Prop} {p : β → Prop} {as : List α}
    {bs : List β} :
    List.Forall₂ (fun a b => R a b ∧ p b) as bs ↔ List.Forall₂ R as bs ∧ ∀ b ∈ bs, p b := by
  induction as generalizing bs with
  | nil => cases bs <;> simp
  | cons a as ih => cases bs <;> simp [ih, and_assoc, and_left_comm]

namespace EnvironmentVariable

/-! ## Entries and variables -/

/-- The texts that stand for a variable: its name, `=` and its value, or, if there is no
value, its name alone, in which a `=` could only be the first character. -/
inductive SpelledAs (v : EnvironmentVariable) : List Char → Prop
  | withValue : SpelledAs v (v.name.toList ++ '=' :: v.value.toList)
  | nameAlone (hequals : '=' ∉ v.name.toList.tail) (hvalue : v.value = "") :
    SpelledAs v v.name.toList

/-- A text is what stands before its first `=`, which has none in it, and what stands behind
it, if there is one. -/
theorem splitAtEquals_spec (text : List Char) :
    '=' ∉ (splitAtEquals text).1 ∧
      (text = (splitAtEquals text).1 ++ '=' :: (splitAtEquals text).2 ∨
        (text = (splitAtEquals text).1 ∧ (splitAtEquals text).2 = [])) := by
  induction text with
  | nil => simp [splitAtEquals]
  | cons c rest ih =>
    by_cases hc : c = '='
    · simp [splitAtEquals, hc]
    · have hcons : splitAtEquals (c :: rest)
          = (c :: (splitAtEquals rest).1, (splitAtEquals rest).2) := by
        simp [splitAtEquals, hc]
      obtain ⟨hname, hspec⟩ := ih
      rw [hcons]
      refine ⟨?_, hspec.imp (congrArg (c :: ·)) (And.imp_left (congrArg (c :: ·)))⟩
      simp only [List.mem_cons, not_or]
      exact ⟨fun heq => hc heq.symm, hname⟩

/-- An entry is split into a name, in which a `=` can only be the first character, and a
value. -/
theorem exists_ofEntry {entry : List Char} (hne : entry ≠ []) :
    ∃ name value, ofEntry entry = ⟨String.ofList name, String.ofList value⟩ ∧ name ≠ [] ∧
      '=' ∉ name.tail ∧ (entry = name ++ '=' :: value ∨ (entry = name ∧ value = [])) := by
  cases entry with
  | nil => exact absurd rfl hne
  | cons c rest =>
    by_cases hc : c = '='
    · subst hc
      obtain ⟨hname, hspec⟩ := splitAtEquals_spec rest
      refine ⟨'=' :: (splitAtEquals rest).1, (splitAtEquals rest).2, rfl, by simp, hname, ?_⟩
      exact hspec.imp (congrArg ('=' :: ·)) (And.imp_left (congrArg ('=' :: ·)))
    · have hentry : ofEntry (c :: rest)
          = ⟨String.ofList (splitAtEquals (c :: rest)).1,
            String.ofList (splitAtEquals (c :: rest)).2⟩ := by
        rw [ofEntry]
        simpa using hc
      obtain ⟨hname, hspec⟩ := splitAtEquals_spec (c :: rest)
      refine ⟨_, _, hentry, ?_, fun htail => hname (List.mem_of_mem_tail htail), hspec⟩
      simp [splitAtEquals, hc]

/-- A text without NUL is read as a canonical variable that it stands for. -/
theorem spelledAs_ofEntry {entry : List Char} (hne : entry ≠ []) (hnul : '\x00' ∉ entry) :
    (ofEntry entry).IsCanonical ∧ (ofEntry entry).SpelledAs entry := by
  obtain ⟨name, value, hentry, hname, hequals, hspec⟩ := exists_ofEntry hne
  have hparts : '\x00' ∉ name ∧ '\x00' ∉ value := by
    rcases hspec with rfl | ⟨rfl, rfl⟩
    · simp only [List.mem_append, List.mem_cons, not_or] at hnul
      exact ⟨hnul.1, hnul.2.2⟩
    · exact ⟨hnul, List.not_mem_nil⟩
  rw [hentry]
  refine ⟨⟨by simpa using hname, by simpa using hequals, by simpa using hparts.1,
    by simpa using hparts.2⟩, ?_⟩
  rcases hspec with rfl | ⟨rfl, rfl⟩
  · simpa using SpelledAs.withValue (v := ⟨String.ofList name, String.ofList value⟩)
  · simpa using SpelledAs.nameAlone (v := ⟨String.ofList entry, String.ofList []⟩)
      (by simpa using hequals) rfl

/-- A canonical variable is read from every text that stands for it. -/
theorem ofEntry_of_spelledAs {v : EnvironmentVariable} {entry : List Char}
    (hcanonical : v.IsCanonical) (h : v.SpelledAs entry) : ofEntry entry = v := by
  cases h with
  | withValue =>
    rw [← toList_text]
    exact ofEntry_text hcanonical
  | nameAlone hequals hvalue =>
    have hne : v.name.toList ≠ [] := fun hempty => hcanonical.name_ne (by simpa using hempty)
    obtain ⟨name, value, hentry, hname_ne, -, hspec⟩ := exists_ofEntry hne
    -- the name has no `=` at which it could be split
    rcases hspec with hsplit | ⟨hname, rfl⟩
    · obtain ⟨c, rest, rfl⟩ := List.exists_cons_of_ne_nil hname_ne
      rw [hsplit] at hequals
      simp at hequals
    · have hempty : String.ofList [] = v.value := hvalue.symm
      rw [hentry, ← hname, String.ofList_toList, hempty]

end EnvironmentVariable

namespace EnvironmentBlock

/-! ## Blocks and entries -/

/-- Units divide into entries, which are not empty and are each closed by a NUL, and a rest:
the NUL of the empty entry that closes the block, with anything behind it, or units none of
which is NUL. -/
structure Divides (us : List UInt16) (found : List (List UInt16)) (rest : List UInt16) :
    Prop where
  eq : us = found.flatMap (· ++ [0]) ++ rest
  entry : ∀ e ∈ found, e ≠ [] ∧ ∀ u ∈ e, u ≠ 0
  rest_start : rest.head? = some 0 ∨ ∀ u ∈ rest, u ≠ 0

/-- Without a NUL there is no entry. -/
theorem entries_of_no_nul {us : List UInt16} (h : ∀ u ∈ us, u ≠ 0) : entries us = [] := by
  have happend := entriesOnto_append h [] [] []
  rwa [List.append_nil] at happend

/-- The entries of what divides into them are these, whatever is put behind it; more entries
can only come from the rest. -/
theorem Divides.entries_append {us : List UInt16} {found : List (List UInt16)}
    {rest : List UInt16} (h : Divides us found rest) (more : List UInt16) :
    entries (us ++ more) = found ++ entries (rest ++ more) := by
  rw [h.eq, List.append_assoc, EnvironmentBlock.entries_append h.entry]

theorem Divides.entries_eq {us : List UInt16} {found : List (List UInt16)} {rest : List UInt16}
    (h : Divides us found rest) : entries us = found := by
  have happend := h.entries_append []
  have hrest : entries rest = [] := by
    rcases h.rest_start with hzero | hno
    · obtain ⟨tail, rfl⟩ := List.head?_eq_some_iff.mp hzero
      exact entries_closed tail
    · exact entries_of_no_nul hno
  rwa [List.append_nil, List.append_nil, hrest, List.append_nil] at happend

/-- All units divide into entries and a rest, by what stands before the first NUL. -/
theorem exists_divides (us : List UInt16) : ∃ found rest, Divides us found rest := by
  by_cases hnul : 0 ∈ us
  · obtain ⟨e, later, hsplit, he⟩ := List.eq_append_cons_of_mem hnul
    have hentry : ∀ u ∈ e, u ≠ 0 := fun u hu heq => he (heq ▸ hu)
    by_cases hempty : e = []
    · exact ⟨[], us, rfl, nofun, .inl (by simp [hsplit, hempty])⟩
    · obtain ⟨found, rest, hdivides⟩ := exists_divides later
      refine ⟨e :: found, rest, ?_, ?_, hdivides.rest_start⟩
      · rw [hsplit]
        conv_lhs => rw [hdivides.eq]
        simp
      · exact List.forall_mem_cons.mpr ⟨⟨hempty, hentry⟩, hdivides.entry⟩
  · exact ⟨[], us, rfl, nofun, .inr fun u hu heq => hnul (heq ▸ hu)⟩
termination_by us.length
decreasing_by
  rw [hsplit, List.length_append, List.length_cons]
  omega

/-! ## Blocks and variables -/

/-- The units of an entry are the wide form of a text that stands for a variable. -/
def Spells (e : List UInt16) (v : EnvironmentVariable) : Prop :=
  ∃ text, e = Utf16.encodeUnits text ∧ v.SpelledAs text

/-- A text with a NUL has one among its units. -/
theorem zero_mem_encodeUnits {text : List Char} (h : '\x00' ∈ text) :
    (0 : UInt16) ∈ Utf16.encodeUnits text :=
  List.mem_flatMap.mpr ⟨'\x00', h, List.mem_singleton.mpr rfl⟩

/-- An entry is read as the canonical variable that it spells. -/
theorem variableOfUnits_eq_ok_iff {e : List UInt16} (hne : e ≠ []) (hnul : ∀ u ∈ e, u ≠ 0)
    {v : EnvironmentVariable} :
    variableOfUnits e = .ok v ↔ Spells e v ∧ v.IsCanonical := by
  constructor
  · intro h
    unfold variableOfUnits at h
    cases htext : Utf16.decodeUnits? e with
    | none =>
      rw [htext] at h
      cases h
    | some text =>
      rw [htext] at h
      obtain rfl : EnvironmentVariable.ofEntry text = v := Except.ok.inj h
      have hunits := Utf16.decodeUnits?_eq_some_iff.mp htext
      have htext_ne : text ≠ [] := by
        rintro rfl
        exact hne hunits
      have htext_nul : '\x00' ∉ text := fun hmem =>
        hnul 0 (hunits ▸ zero_mem_encodeUnits hmem) rfl
      obtain ⟨hcanonical, hspelled⟩ := EnvironmentVariable.spelledAs_ofEntry htext_ne htext_nul
      exact ⟨⟨text, hunits, hspelled⟩, hcanonical⟩
  · rintro ⟨⟨text, rfl, hspelled⟩, hcanonical⟩
    rw [variableOfUnits, Utf16.decodeUnits?_encodeUnits]
    exact congrArg Except.ok (EnvironmentVariable.ofEntry_of_spelledAs hcanonical hspelled)

theorem mapM_variableOfUnits_eq_ok_iff {found : List (List UInt16)}
    (h : ∀ e ∈ found, e ≠ [] ∧ ∀ u ∈ e, u ≠ 0) {vs : List EnvironmentVariable} :
    found.mapM variableOfUnits = .ok vs ↔
      List.Forall₂ Spells found vs ∧ ∀ v ∈ vs, v.IsCanonical := by
  rw [mapM_eq_ok_iff, ← forall₂_and_right]
  constructor
  · intro hread
    refine ((List.forall₂_and_left _ _).mpr ⟨h, hread⟩).imp fun e v hev => ?_
    exact (variableOfUnits_eq_ok_iff hev.1.1 hev.1.2).mp hev.2
  · intro hspells
    refine ((List.forall₂_and_left _ _).mpr ⟨h, hspells⟩).imp fun e v hev => ?_
    exact (variableOfUnits_eq_ok_iff hev.1.1 hev.1.2).mpr hev.2

/-- A block is read to the environment that its entries spell. -/
theorem decode_eq_ok_iff_spells {block : List UInt8} {vs : List EnvironmentVariable} :
    decode block = .ok vs ↔
      (∀ v ∈ vs, v.IsCanonical) ∧
        ∃ found rest, Divides (Utf16.units block) found rest ∧ List.Forall₂ Spells found vs := by
  unfold decode
  constructor
  · intro h
    obtain ⟨found, rest, hdivides⟩ := exists_divides (Utf16.units block)
    rw [hdivides.entries_eq, mapM_variableOfUnits_eq_ok_iff hdivides.entry] at h
    exact ⟨h.2, found, rest, hdivides, h.1⟩
  · rintro ⟨hcanonical, found, rest, hdivides, hspells⟩
    rw [hdivides.entries_eq]
    exact (mapM_variableOfUnits_eq_ok_iff hdivides.entry).mpr ⟨hspells, hcanonical⟩

/-- **The grammar of environment blocks, in both directions.** Canonical variables are read
back from the block that is written for them, whatever follows it. A block is read to an
environment iff all variables of it are canonical and the entries of the block are the wide
forms of texts that stand for them: of `NAME=VALUE`, or of a name alone that has no `=`
behind its first character, for a variable without a value. So what was read from any block is
read back from the block that is written for it. -/
theorem decodes_exactly_spellings :
    (∀ (vs : List EnvironmentVariable) (rest : List UInt8), (∀ v ∈ vs, v.IsCanonical) →
      decode (encode vs ++ rest) = .ok vs) ∧
    (∀ (block : List UInt8) (vs : List EnvironmentVariable),
      decode block = .ok vs ↔
        (∀ v ∈ vs, v.IsCanonical) ∧
          ∃ found rest, Divides (Utf16.units block) found rest ∧
            List.Forall₂ Spells found vs) ∧
    ∀ (block : List UInt8) (vs : List EnvironmentVariable), decode block = .ok vs →
      decode (encode vs) = .ok vs := by
  refine ⟨fun vs rest h => decode_encode_append h rest, fun block vs => decode_eq_ok_iff_spells,
    fun block vs h => ?_⟩
  have hback := decode_encode_append (decode_eq_ok_iff_spells.mp h).1 []
  rwa [List.append_nil] at hback

/-- A block with names that begin with `=` or are nothing else, a name alone, a value with a
`=` in it and a character of two units, and behind its end half a pair of surrogates and an
odd byte. -/
theorem decodes_exactly_spellings_of_equals :
    let block : List UInt8 :=
      Utf16.encodeBytes "=C:=C:\\x\x00==\x00=\x00alone\x00é=ü😀\x00a=b=c\x00\x00".toList
        ++ [0, 0xd8, 0x41]
    let vs : List EnvironmentVariable :=
      [⟨"=C:", "C:\\x"⟩, ⟨"=", ""⟩, ⟨"=", ""⟩, ⟨"alone", ""⟩, ⟨"é", "ü😀"⟩, ⟨"a", "b=c"⟩]
    decode block = .ok vs ∧ (∀ v ∈ vs, v.IsCanonical) ∧
      (∃ found rest, Divides (Utf16.units block) found rest ∧ List.Forall₂ Spells found vs) ∧
      decode (encode vs ++ [0, 0xd8]) = .ok vs ∧ decode (encode vs) = .ok vs := by
  intro block vs
  have hread : decode block = .ok vs := by decide +kernel
  have hcanonical : ∀ v ∈ vs, v.IsCanonical := by decide +kernel
  obtain ⟨hwritten, hspells, hagain⟩ := decodes_exactly_spellings
  exact ⟨hread, hcanonical, ((hspells block vs).mp hread).2, hwritten vs _ hcanonical,
    hagain block vs hread⟩

end EnvironmentBlock

end Minidump
