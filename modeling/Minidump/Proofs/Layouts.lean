import Minidump.Layout

/-!
# What a layout stores

A record is stored as its fields, one behind the other: each a number of one, two, four,
eight or sixteen bytes, lowest byte first, with nothing in between. For a layout this means
four things, put together in `Layout.Stores`: its size is that of the words of a record, it
writes these words, it reads a record back from them, and the words of what it reads from any
bytes are these bytes. A layout that is described field by field does so if each of its fields
does, so that nothing has to be said of a record but which words it consists of.

- `Word` — a number in the file, `Word.bytes` and `Word.size`;
- `Layout.Stores` — a layout stores the words of a record, so that decoding and these undo
  each other (`Layout.Stores.decode_bytesOf`, `Layout.Stores.bytesOf_decode`);
- `Layout.stores_word`, `Layout.Stores.vector` — numbers, and equal entries, do;
- `Codec.Begins` — the first fields of a record do, with the steps `Codec.Begins.record` and
  `Codec.Begins.field`, which are instances, so that the words are found from the description;
- `Codec.Begins.stores` — all fields of a record are the record.
-/

namespace Minidump

/-- A number in the file. -/
inductive Word where
  | u8 (n : UInt8)
  | u16 (n : UInt16)
  | u32 (n : UInt32)
  | u64 (n : UInt64)
  | u128 (n : BitVec 128)
deriving DecidableEq

namespace Word

/-- How many bytes a number takes. -/
def size : Word → Nat
  | u8 _ => 1
  | u16 _ => 2
  | u32 _ => 4
  | u64 _ => 8
  | u128 _ => 16

/-- The number itself. -/
def number : Word → Nat
  | u8 n => n.toNat
  | u16 n => n.toNat
  | u32 n => n.toNat
  | u64 n => n.toNat
  | u128 n => n.toNat

/-- The bytes of a number, lowest first. -/
def bytes (word : Word) : List UInt8 :=
  LittleEndian.bytes word.size word.number

/-- The bytes of several numbers, without anything between them. -/
def bytesOf (words : List Word) : List UInt8 :=
  words.flatMap bytes

/-- How many bytes several numbers take. -/
def totalSize : List Word → Nat
  | [] => 0
  | word :: words => word.size + totalSize words

@[simp] theorem length_bytes (word : Word) : word.bytes.length = word.size :=
  LittleEndian.length_bytes _ _

@[simp] theorem bytesOf_cons (word : Word) (words : List Word) :
    bytesOf (word :: words) = word.bytes ++ bytesOf words :=
  List.flatMap_cons

@[simp] theorem bytesOf_append (words more : List Word) :
    bytesOf (words ++ more) = bytesOf words ++ bytesOf more :=
  List.flatMap_append

@[simp] theorem totalSize_nil : totalSize [] = 0 :=
  rfl

@[simp] theorem totalSize_cons (word : Word) (words : List Word) :
    totalSize (word :: words) = word.size + totalSize words :=
  rfl

@[simp] theorem totalSize_append (words more : List Word) :
    totalSize (words ++ more) = totalSize words + totalSize more := by
  induction words with
  | nil => simp
  | cons word words ih => simp [ih, Nat.add_assoc]

@[simp] theorem length_bytesOf (words : List Word) :
    (bytesOf words).length = totalSize words := by
  induction words with
  | nil => rfl
  | cons word words ih => simp [ih]

end Word

/-- A layout stores a record as the words of its fields, in their order. -/
class Layout.Stores {α : Type} (layout : Layout α) (words : outParam (α → List Word)) :
    Prop where
  size_eq : ∀ a, Word.totalSize (words a) = layout.size
  encode_eq : ∀ a, layout.encode a = Word.bytesOf (words a)
  decode_append : ∀ a rest, layout.decode (Word.bytesOf (words a) ++ rest) = a
  bytes_decode : ∀ bs, layout.size ≤ bs.length →
    Word.bytesOf (words (layout.decode bs)) = bs.take layout.size

namespace Layout

variable {α : Type}

theorem Stores.decode_bytesOf {layout : Layout α} {words : α → List Word}
    (h : layout.Stores words) (a : α) : layout.decode (Word.bytesOf (words a)) = a := by
  simpa using h.decode_append a []

theorem Stores.bytesOf_decode {layout : Layout α} {words : α → List Word}
    (h : layout.Stores words) {bs : List UInt8} (hlength : bs.length = layout.size) :
    Word.bytesOf (words (layout.decode bs)) = bs := by
  rw [h.bytes_decode bs (Nat.le_of_eq hlength.symm), ← hlength, List.take_length]

/-! ## Numbers -/

/-- A number of a fixed width is stored as one word. -/
theorem stores_word {width : Nat} {ofNat : Nat → α} {toNat : α → Nat} (wrap : α → Word)
    (hsize : ∀ a, (wrap a).size = width) (hnumber : ∀ a, (wrap a).number = toNat a)
    (hlt : ∀ a, toNat a < LittleEndian.capacity width) (hofNat : ∀ a, ofNat (toNat a) = a)
    (htoNat : ∀ n < LittleEndian.capacity width, toNat (ofNat n) = n) :
    (word width ofNat toNat).Stores fun a => [wrap a] where
  size_eq a := by simp [hsize, word]
  encode_eq a := by simp [Word.bytesOf, Word.bytes, hsize, hnumber, word]
  decode_append a rest := by
    have htake : (LittleEndian.bytes width (toNat a) ++ rest).take width
        = LittleEndian.bytes width (toNat a) :=
      List.take_left' (LittleEndian.length_bytes _ _)
    have hbytes : Word.bytesOf [wrap a] = LittleEndian.bytes width (toNat a) := by
      simp [Word.bytesOf, Word.bytes, hsize, hnumber]
    show ofNat (LittleEndian.value ((Word.bytesOf [wrap a] ++ rest).take width)) = a
    rw [hbytes, htake, LittleEndian.value_bytes (hlt a), hofNat]
  bytes_decode bs h := by
    have hlength : (bs.take width).length = width := List.length_take_of_le h
    have hbytes := LittleEndian.bytes_value (bs.take width)
    have hvalue := LittleEndian.value_lt_capacity (Nat.le_of_eq hlength)
    rw [hlength] at hbytes
    show Word.bytesOf [wrap (ofNat (LittleEndian.value (bs.take width)))] = bs.take width
    simp [Word.bytesOf, Word.bytes, hsize, hnumber, htoNat _ hvalue, hbytes]

instance stores_u8 : u8.Stores fun n => [.u8 n] :=
  stores_word .u8 (fun _ => rfl) (fun _ => rfl) UInt8.toNat_lt (fun _ => UInt8.ofNat_toNat)
    fun _ => UInt8.toNat_ofNat_of_lt'

instance stores_u16 : u16.Stores fun n => [.u16 n] :=
  stores_word .u16 (fun _ => rfl) (fun _ => rfl) UInt16.toNat_lt (fun _ => UInt16.ofNat_toNat)
    fun _ => UInt16.toNat_ofNat_of_lt'

instance stores_u32 : u32.Stores fun n => [.u32 n] :=
  stores_word .u32 (fun _ => rfl) (fun _ => rfl) UInt32.toNat_lt (fun _ => UInt32.ofNat_toNat)
    fun _ => UInt32.toNat_ofNat_of_lt'

instance stores_u64 : u64.Stores fun n => [.u64 n] :=
  stores_word .u64 (fun _ => rfl) (fun _ => rfl) UInt64.toNat_lt (fun _ => UInt64.ofNat_toNat)
    fun _ => UInt64.toNat_ofNat_of_lt'

instance stores_u128 : u128.Stores fun n => [.u128 n] :=
  stores_word .u128 (fun _ => rfl) (fun _ => rfl) BitVec.isLt (fun _ => BitVec.ofNat_toNat _ _)
    fun n h => (BitVec.toNat_ofNat n 128).trans (Nat.mod_eq_of_lt h)

/-! ## Equal entries -/

section Vector

variable {entry : Layout α} {words : α → List Word}

theorem Stores.totalSize_flatMap (h : entry.Stores words) (as : List α) :
    Word.totalSize (as.flatMap words) = as.length * entry.size := by
  induction as with
  | nil => simp
  | cons a as ih =>
    rw [List.flatMap_cons, Word.totalSize_append, h.size_eq, ih, List.length_cons, Nat.succ_mul,
      Nat.add_comm]

/-- The entry at an index lies behind as many entries as the index says. -/
theorem Stores.drop_flatMap (h : entry.Stores words) (before after : List α)
    (a : α) (rest : List UInt8) :
    (Word.bytesOf ((before ++ a :: after).flatMap words) ++ rest).drop (before.length * entry.size)
      = Word.bytesOf (words a) ++ (Word.bytesOf (after.flatMap words) ++ rest) := by
  have hlength : (Word.bytesOf (before.flatMap words)).length = before.length * entry.size := by
    rw [Word.length_bytesOf, h.totalSize_flatMap]
  simp only [List.flatMap_append, List.flatMap_cons, Word.bytesOf_append, List.append_assoc]
  exact List.drop_left' hlength

/-- Entries that are read one behind the other are stored as the bytes that they are read
from. -/
theorem Stores.flatMap_ofFn (h : entry.Stores words) (n : Nat) (bs : List UInt8)
    (hlength : n * entry.size ≤ bs.length) :
    Word.bytesOf ((List.ofFn fun i : Fin n => entry.decode (bs.drop (i * entry.size))).flatMap
      words) = bs.take (n * entry.size) := by
  induction n generalizing bs with
  | zero => simp [Word.bytesOf]
  | succ n ih =>
    rw [Nat.succ_mul] at hlength
    -- the entries behind the first are those of the bytes behind it
    have hshift : (fun i : Fin n => entry.decode (bs.drop (i.succ * entry.size)))
        = fun i : Fin n => entry.decode ((bs.drop entry.size).drop (i * entry.size)) := by
      funext i
      rw [List.drop_drop, Fin.val_succ, Nat.succ_mul, Nat.add_comm]
    have hfirst : bs.drop ((0 : Fin (n + 1)) * entry.size) = bs := by simp
    have hrest := ih (bs.drop entry.size) (by rw [List.length_drop]; omega)
    rw [List.ofFn_succ, List.flatMap_cons, Word.bytesOf_append, hshift, hrest, hfirst,
      h.bytes_decode bs (by omega), Nat.succ_mul, Nat.add_comm, List.take_add]

/-- Equal entries are stored one behind the other. -/
theorem Stores.vector (h : entry.Stores words) (n : Nat) :
    (Layout.vector n entry).Stores fun v => v.toList.flatMap words where
  size_eq v := by rw [h.totalSize_flatMap, Vector.length_toList, Layout.vector]
  encode_eq v := by
    show v.toList.flatMap entry.encode = (v.toList.flatMap words).flatMap Word.bytes
    rw [List.flatMap_assoc, funext h.encode_eq]
    rfl
  decode_append v rest := by
    show Vector.ofFn _ = v
    ext i hi
    have hi' : i < v.toList.length := by rwa [Vector.length_toList]
    have hsplit : v.toList = v.toList.take i ++ v[i] :: v.toList.drop (i + 1) := by
      rw [← Vector.getElem_toList hi', List.getElem_cons_drop, List.take_append_drop]
    have hlength : (v.toList.take i).length = i := List.length_take_of_le (Nat.le_of_lt hi')
    have hdrop := h.drop_flatMap (v.toList.take i) (v.toList.drop (i + 1)) v[i] rest
    rw [← hsplit, hlength] at hdrop
    rw [Vector.getElem_ofFn, hdrop, h.decode_append]
  bytes_decode bs hlength := by
    show Word.bytesOf ((Vector.ofFn _).toList.flatMap words) = bs.take (n * entry.size)
    rw [Vector.toList_ofFn]
    exact h.flatMap_ofFn n bs hlength

/-- Numbers are stored one behind the other. -/
instance Stores.numbers {wrap : α → Word} [h : entry.Stores fun a => [wrap a]] (n : Nat) :
    (Layout.vector n entry).Stores fun v => v.toList.map wrap := by
  have hvector := h.vector n
  simpa only [← List.map_eq_flatMap] using hvector

end Vector

end Layout

/-! ## Records -/

namespace Codec

variable {ρ α γ : Type}

/-- The first fields of a record are stored as words of it. What is made of them still waits
for the other fields, and `part` is what it is for a given record; `read` are the words that
the bytes in front hold for these fields. -/
class Begins (fields : Codec ρ α) (part : outParam (ρ → α)) (words : outParam (ρ → List Word))
    (read : outParam (List UInt8 → List Word)) : Prop where
  size_eq : ∀ r, Word.totalSize (words r) = fields.size
  encode_eq : ∀ r, fields.encode r = Word.bytesOf (words r)
  decode_append : ∀ r rest, fields.decode (Word.bytesOf (words r) ++ rest) = part r
  bytes_read : ∀ bs, fields.size ≤ bs.length → Word.bytesOf (read bs) = bs.take fields.size

/-- Before its first field a record has no words. -/
instance Begins.record (mk : α) :
    (Layout.record mk : Codec ρ α).Begins (fun _ => mk) (fun _ => []) fun _ => [] where
  size_eq _ := rfl
  encode_eq _ := rfl
  decode_append _ _ := rfl
  bytes_read _ _ := List.take_zero.symm

/-- The next field has its words behind those of the fields before. -/
instance Begins.field {fields : Codec ρ (γ → α)} {part : ρ → γ → α} {words : ρ → List Word}
    {read : List UInt8 → List Word} [h : fields.Begins part words read] {get : ρ → γ}
    {next : Layout γ} {fieldWords : γ → List Word} [hnext : next.Stores fieldWords] :
    (fields.field get next).Begins (fun r => part r (get r))
      (fun r => words r ++ fieldWords (get r))
      fun bs => read bs ++ fieldWords (next.decode (bs.drop fields.size)) where
  size_eq r := by rw [Word.totalSize_append, h.size_eq, hnext.size_eq, Codec.field]
  encode_eq r := by
    rw [Word.bytesOf_append, ← h.encode_eq, ← hnext.encode_eq]
    rfl
  decode_append r rest := by
    have hlength : (Word.bytesOf (words r)).length = fields.size := by
      rw [Word.length_bytesOf, h.size_eq]
    rw [Word.bytesOf_append, List.append_assoc]
    show fields.decode _ (next.decode (List.drop fields.size _)) = part r (get r)
    rw [h.decode_append, List.drop_left' hlength, hnext.decode_append]
  bytes_read bs hlength := by
    have hsum : fields.size + next.size ≤ bs.length := hlength
    have hrest : next.size ≤ (bs.drop fields.size).length := by
      rw [List.length_drop]
      omega
    rw [Word.bytesOf_append, h.bytes_read bs (by omega), hnext.bytes_decode _ hrest]
    exact List.take_add.symm

/-- A record is stored as the words of all its fields. Its constructor has to take the fields
in the order in which they are described, and each projection has to give the field in its
place; for a given record both hold by computation. -/
theorem Begins.stores {layout : Layout ρ} {part : ρ → ρ} {words fieldWords : ρ → List Word}
    {read : List UInt8 → List Word} [h : layout.Begins part fieldWords read]
    (hwords : ∀ r, fieldWords r = words r)
    (hpart : ∀ r, part r = r := by exact fun _ => rfl)
    (hread : ∀ bs, fieldWords (layout.decode bs) = read bs := by exact fun _ => rfl) :
    layout.Stores words := by
  obtain rfl : fieldWords = words := funext hwords
  refine ⟨h.size_eq, h.encode_eq, fun r rest => ?_, fun bs hlength => ?_⟩
  · exact (h.decode_append r rest).trans (hpart r)
  · rw [hread, h.bytes_read bs hlength]

end Codec

end Minidump
