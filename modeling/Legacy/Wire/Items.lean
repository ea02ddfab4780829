import Legacy.Wire.Requests
import Legacy.Lib.Faulting
import Legacy.Lib.SortedMap
import Mathlib.Order.Fin.Basic

/-!
# Typed values in a byte buffer

The operators `<<` and `>>` of `ByteBuffer` (`src/src/shared/ByteBuffer.h`) for truth values, integers, vectors, lists
and maps, nested in any way: signed integers and truth values go as they are, unsigned ones are encoded, and a
container has the number of its elements before them. `readItems_writeItems` says that what is read is what was
written, to the end of the buffer.
-/

namespace Legacy.Wire
open Legacy.Lib

/-- The types that have both operators. -/
inductive ItemType where
  | bool
  | unsigned (w : Width)
  | signed (w : Width)
  | vector (t : ItemType)
  | list (t : ItemType)
  | map (k v : ItemType)
  deriving DecidableEq, Repr

/-- A type with the order that a map has its keys in (source `std::less`). -/
structure OrderedType where
  carrier : Type
  order : LinearOrder carrier

/-- The integers that two's complement of a width stands for. -/
abbrev Signed (w : Width) : Type := { z : Int // z.bmod (256 ^ w.sizeof) = z }

/-- The values of each type, with their order; vectors and lists are both lists. -/
def ItemType.values : ItemType → OrderedType
  | .bool => ⟨Bool, inferInstance⟩
  | .unsigned w => ⟨Fin (256 ^ w.sizeof), inferInstance⟩
  | .signed w => ⟨Signed w, inferInstance⟩
  | .vector t | .list t =>
    have := t.values.order
    ⟨List t.values.carrier, inferInstance⟩
  | .map k v =>
    have := k.values.order
    have := v.values.order
    ⟨SortedMap k.values.carrier v.values.carrier, inferInstance⟩

/-- A value of a type. -/
abbrev Value (t : ItemType) : Type := t.values.carrier

instance (t : ItemType) : LinearOrder (Value t) := t.values.order

/-- A value with its type. -/
abbrev Item : Type := (t : ItemType) × Value t

namespace ByteBuffer

instance (w : Width) : NeZero (256 ^ w.sizeof) := ⟨Nat.pos_iff_ne_zero.mp (Nat.pow_pos (by decide))⟩

/-- Writes one element after the other. -/
def writeElements {α : Type} (write : α → ByteBuffer → Except Fault ByteBuffer) :
    List α → ByteBuffer → Except Fault ByteBuffer
  | [], b => .ok b
  | x :: xs, b => do
    let b ← write x b
    writeElements write xs b

/-- source `operator<<` -/
def writeValue : (t : ItemType) → Value t → ByteBuffer → Except Fault ByteBuffer
  | .bool, value, b =>
    let v : Bool := value
    b.append .uint8 v.toNat
  | .unsigned w, value, b =>
    let v : Fin (256 ^ w.sizeof) := value
    b.write w v
  | .signed w, value, b =>
    let v : Signed w := value
    b.append w (v.val % 256 ^ w.sizeof).toNat
  | .vector t, value, b | .list t, value, b => do
    let v : List (Value t) := value
    let b ← b.write .uint32 v.length
    writeElements (writeValue t) v b
  | .map k v, value, b => do
    let m : SortedMap (Value k) (Value v) := value
    let b ← b.write .uint32 m.entries.length
    writeElements (fun i b => do
      let b ← writeValue k i.1 b
      writeValue v i.2 b) m.entries b

/-- As many values as a container has elements. -/
def readElements {α : Type} (read : Reader α) : Nat → Reader (List α)
  | 0 => return []
  | n + 1 => do
    let t ← read
    let v ← readElements read n
    return t :: v

/-- source `operator>>` -/
def readValue : (t : ItemType) → Reader (Value t)
  | .bool => do
    -- a `char` is signed
    let c ← readRaw .uint8
    return (decide (0 < (c : Int).bmod 256) : Bool)
  | .unsigned w => do
    let value ← read w
    return (Fin.ofNat (256 ^ w.sizeof) value : Fin (256 ^ w.sizeof))
  | .signed w => do
    let value ← readRaw w
    return (⟨(value : Int).bmod (256 ^ w.sizeof), Int.bmod_bmod⟩ : Signed w)
  | .vector t | .list t => do
    let vsize ← read .uint32
    readElements (readValue t) vsize
  | .map k v => do
    let msize ← read .uint32
    let entries ← readElements (do
      let i ← readValue k
      let j ← readValue v
      return (i, j)) msize
    -- the insertions of the loop do not touch the buffer
    return (SortedMap.empty.insertAll entries : SortedMap (Value k) (Value v))

/-- Writes items, one after the other. -/
def writeItems : List Item → ByteBuffer → Except Fault ByteBuffer := writeElements fun item => writeValue item.1 item.2

/-- Reads items of some types, one after the other. -/
def readItems : List ItemType → Reader (List Item)
  | [] => return []
  | t :: types => do
    let value ← readValue t
    let items ← readItems types
    return ⟨t, value⟩ :: items

/-- The bytes of a value on the wire. -/
def bytesOf : (t : ItemType) → Value t → List UInt8
  | .bool, value =>
    let v : Bool := value
    toBytes 1 v.toNat
  | .unsigned w, value =>
    let v : Fin (256 ^ w.sizeof) := value
    toBytes w.sizeof (ENCODE w v)
  | .signed w, value =>
    let v : Signed w := value
    toBytes w.sizeof (v.val % 256 ^ w.sizeof).toNat
  | .vector t, value | .list t, value =>
    let v : List (Value t) := value
    toBytes 4 (ENCODE .uint32 v.length) ++ v.flatMap (bytesOf t)
  | .map k v, value =>
    let m : SortedMap (Value k) (Value v) := value
    toBytes 4 (ENCODE .uint32 m.entries.length) ++ m.entries.flatMap fun i => bytesOf k i.1 ++ bytesOf v i.2

/-- The bytes of items on the wire. -/
def bytesOfItems (items : List Item) : List UInt8 := items.flatMap fun item => bytesOf item.1 item.2

/-- The program appends these bytes, if the buffer has room for them. -/
def Appends (write : ByteBuffer → Except Fault ByteBuffer) (bs : List UInt8) : Prop :=
  ∀ b : ByteBuffer, b.AtEnd → b.size + bs.length ≤ 10000000 →
    write b = .ok ⟨b.storage ++ bs, b.rpos, b.wpos + bs.length⟩

/-- The program reads exactly these bytes and returns `a`, wherever they are. -/
def Takes {α : Type} (read : Reader α) (bs : List UInt8) (a : α) : Prop :=
  ∀ (pre post : List UInt8) (wpos : Nat), read ⟨pre ++ bs ++ post, pre.length, wpos⟩ =
    .ok (a, ⟨pre ++ bs ++ post, pre.length + bs.length, wpos⟩)

variable {α β γ : Type} {bs cs : List UInt8} {a : α}

/-- A plain value appends its bytes. -/
lemma appends_append (w : Width) (value : Nat) : Appends (fun b => b.append w value) (toBytes w.sizeof value) := by
  intro b atEnd room
  have some : 0 < w.sizeof := by cases w <;> decide
  rw [length_toBytes] at room ⊢
  exact append_ok atEnd (by omega) w value

/-- A written value appends its encoded bytes. -/
lemma appends_write (w : Width) (value : Nat) :
    Appends (fun b => b.write w value) (toBytes w.sizeof (ENCODE w value)) :=
  appends_append w (ENCODE w value)

/-- Bytes appended one after the other. -/
lemma Appends.bind {first next : ByteBuffer → Except Fault ByteBuffer} (h : Appends first bs) (h' : Appends next cs) :
    Appends (fun b => first b >>= next) (bs ++ cs) := by
  intro b atEnd room
  rw [AtEnd, size] at atEnd
  rw [size, List.length_append] at room
  have first_run := h b atEnd (by rw [size]; omega)
  simp only [first_run, ok_bind]
  rw [h' _ ?_ ?_]
  · rw [List.append_assoc, List.length_append, Nat.add_assoc]
  · rw [AtEnd, size, List.length_append, atEnd]
  · rw [size, List.length_append]
    omega

/-- Elements append their bytes one after the other. -/
lemma appends_writeElements {write : α → ByteBuffer → Except Fault ByteBuffer} {bytes : α → List UInt8} {xs : List α}
    (h : ∀ x ∈ xs, Appends (write x) (bytes x)) : Appends (writeElements write xs) (xs.flatMap bytes) := by
  induction xs with
  | nil =>
    intro b _ _
    rw [writeElements, List.flatMap_nil, List.append_nil, List.length_nil, Nat.add_zero]
  | cons x xs ih =>
    obtain ⟨first, others⟩ := List.forall_mem_cons.mp h
    exact first.bind (ih others)

/-- Every value is appended in its wire form. -/
lemma appends_writeValue (t : ItemType) (value : Value t) : Appends (writeValue t value) (bytesOf t value) := by
  induction t with
  | bool => exact appends_append .uint8 _
  | unsigned w => exact appends_write w _
  | signed w => exact appends_append w _
  | vector t ih | list t ih =>
    exact (appends_write .uint32 _).bind (appends_writeElements fun x _ => ih x)
  | map k v ihk ihv =>
    exact (appends_write .uint32 _).bind (appends_writeElements fun i _ => (ihk i.1).bind (ihv i.2))

/-- Returning takes nothing. -/
lemma takes_pure (a : α) : Takes (pure a) [] a := by
  intro pre post wpos
  rw [List.append_nil]
  rfl

/-- Readers one after the other. -/
lemma Takes.bind {read : Reader α} {next : α → Reader β} {c : β} (h : Takes read bs a) (h' : Takes (next a) cs c) :
    Takes (read >>= next) (bs ++ cs) c := by
  intro pre post wpos
  have first := h pre (cs ++ post) wpos
  have second := h' (pre ++ bs) post wpos
  rw [List.length_append] at second
  simp only [List.append_assoc] at first second
  rw [List.append_assoc, List.append_assoc, List.length_append, ← Nat.add_assoc]
  calc (read >>= next) ⟨pre ++ (bs ++ (cs ++ post)), pre.length, wpos⟩
      = (read ⟨pre ++ (bs ++ (cs ++ post)), pre.length, wpos⟩ >>= fun p => next p.1 p.2) := rfl
    _ = _ := by rw [first, ok_bind, second]

/-- What is returned is passed through a function. -/
lemma Takes.map {read : Reader α} (h : Takes read bs a) (f : α → β) :
    Takes (read >>= fun x => pure (f x)) bs (f a) := by
  have mapped : Takes (read >>= fun x => pure (f x)) (bs ++ []) (f a) := h.bind (takes_pure (f a))
  rwa [List.append_nil] at mapped

/-- A plain value is taken back. -/
lemma takes_readRaw {w : Width} {value : Nat} (fits : value < 256 ^ w.sizeof) :
    Takes (readRaw w) (toBytes w.sizeof value) value := by
  intro pre post wpos
  rw [length_toBytes]
  exact readRaw_ok pre post wpos w value fits

/-- A written value is taken back. -/
lemma takes_read {w : Width} {value : Nat} (fits : value < 256 ^ w.sizeof) :
    Takes (read w) (toBytes w.sizeof (ENCODE w value)) value := by
  intro pre post wpos
  rw [length_toBytes]
  exact read_ok pre post wpos w value fits

/-- Elements are taken back one after the other. -/
lemma takes_readElements {read : Reader α} {bytes : α → List UInt8} {xs : List α}
    (h : ∀ x ∈ xs, Takes read (bytes x) x) : Takes (readElements read xs.length) (xs.flatMap bytes) xs := by
  induction xs with
  | nil => exact takes_pure []
  | cons x xs ih =>
    obtain ⟨first, others⟩ := List.forall_mem_cons.mp h
    exact first.bind ((ih others).map _)

/-- Every value has bytes of its own. -/
lemma bytesOf_length_pos (t : ItemType) (value : Value t) : 0 < (bytesOf t value).length := by
  cases t with
  | bool => rw [bytesOf, length_toBytes]; exact Nat.one_pos
  | unsigned w | signed w => rw [bytesOf, length_toBytes]; cases w <;> decide
  | vector t | list t | map k v =>
    rw [bytesOf, List.length_append, length_toBytes]
    exact Nat.lt_of_lt_of_le (by decide) (Nat.le_add_right 4 _)

/-- A container has no more elements than bytes. -/
lemma length_le_flatMap {bytes : α → List UInt8} {xs : List α} (some : ∀ x ∈ xs, 0 < (bytes x).length) :
    xs.length ≤ (xs.flatMap bytes).length := by
  induction xs with
  | nil => exact Nat.zero_le _
  | cons x xs ih =>
    obtain ⟨first, others⟩ := List.forall_mem_cons.mp some
    have le := ih others
    rw [List.flatMap_cons, List.length_append, List.length_cons]
    omega

/-- An element has no more bytes than its container. -/
lemma length_le_of_mem {bytes : α → List UInt8} {xs : List α} {x : α} (mem : x ∈ xs) :
    (bytes x).length ≤ (xs.flatMap bytes).length :=
  (List.sublist_flatten_of_mem (List.mem_map_of_mem mem)).length_le

/-- The elements of a container are read behind their count. -/
lemma takes_container {read : Reader α} {bytes : α → List UInt8} {xs : List α} (some : ∀ x, 0 < (bytes x).length)
    (small : (toBytes 4 (ENCODE .uint32 xs.length) ++ xs.flatMap bytes).length < 2 ^ 32)
    (h : ∀ x, (bytes x).length < 2 ^ 32 → Takes read (bytes x) x) :
    Takes (ByteBuffer.read .uint32 >>= readElements read)
      (toBytes 4 (ENCODE .uint32 xs.length) ++ xs.flatMap bytes) xs := by
  rw [List.length_append, length_toBytes] at small
  have count : xs.length ≤ (xs.flatMap bytes).length := length_le_flatMap fun x _ => some x
  have each : ∀ x ∈ xs, Takes read (bytes x) x := by
    intro x mem
    have le : (bytes x).length ≤ (xs.flatMap bytes).length := length_le_of_mem mem
    exact h x (by omega)
  have elements := takes_readElements each
  refine (takes_read (w := .uint32) ?_).bind elements
  rw [Width.sizeof]
  omega

/-- The bytes of a signed integer hold its residue. -/
lemma residue_cast (w : Width) (z : Int) : ((z % 256 ^ w.sizeof).toNat : Int) = z % 256 ^ w.sizeof :=
  Int.toNat_of_nonneg (Int.emod_nonneg _ (Int.ne_of_gt (Int.pow_pos (by decide))))

/-- A residue fits into the width. -/
lemma residue_lt (w : Width) (z : Int) : (z % 256 ^ w.sizeof).toNat < 256 ^ w.sizeof := by
  have pos : (0 : Int) < 256 ^ w.sizeof := Int.pow_pos (by decide)
  have lt := Int.emod_lt_of_pos z pos
  rw [← residue_cast] at lt
  exact_mod_cast lt

/-- The residue of a signed integer stands for it. -/
lemma residue_bmod {w : Width} {z : Int} (range : z.bmod (256 ^ w.sizeof) = z) :
    ((z % 256 ^ w.sizeof).toNat : Int).bmod (256 ^ w.sizeof) = z := by
  have reduce := Int.emod_bmod z (256 ^ w.sizeof)
  push_cast at reduce
  rw [residue_cast, reduce, range]

/-- Every value is read from its wire form, unless a count goes beyond 32 bits. -/
lemma takes_readValue (t : ItemType) (value : Value t) (small : (bytesOf t value).length < 2 ^ 32) :
    Takes (readValue t) (bytesOf t value) value := by
  induction t with
  | bool =>
    have bit : Bool.toNat value < 256 ^ Width.uint8.sizeof :=
      Nat.lt_of_le_of_lt (Bool.toNat_le _) (by decide)
    have read := (takes_readRaw bit).map fun c => (decide (0 < (c : Int).bmod 256) : Bool)
    cases value with
    | true => exact read
    | false => exact read
  | unsigned w =>
    have read := (takes_read (w := w) (Fin.isLt value)).map fun n => Fin.ofNat (256 ^ w.sizeof) n
    have same : Fin.ofNat (256 ^ w.sizeof) (Fin.val (n := 256 ^ w.sizeof) value) = value :=
      Fin.ext (Nat.mod_eq_of_lt (Fin.isLt value))
    rw [same] at read
    exact read
  | signed w =>
    obtain ⟨z, range⟩ := (value : Signed w)
    have read := (takes_readRaw (residue_lt w z)).map fun n =>
      (⟨(n : Int).bmod (256 ^ w.sizeof), Int.bmod_bmod⟩ : Signed w)
    have same : (⟨((z % 256 ^ w.sizeof).toNat : Int).bmod (256 ^ w.sizeof), Int.bmod_bmod⟩ : Signed w) = ⟨z, range⟩ :=
      Subtype.ext (residue_bmod range)
    rw [same] at read
    exact read
  | vector t ih | list t ih => exact takes_container (fun x => bytesOf_length_pos t x) small fun x le => ih x le
  | map k v ihk ihv =>
    have some (i : Value k × Value v) : 0 < (bytesOf k i.1 ++ bytesOf v i.2).length := by
      rw [List.length_append]
      exact Nat.add_pos_left (bytesOf_length_pos k i.1) _
    have entry (i : Value k × Value v) (le : (bytesOf k i.1 ++ bytesOf v i.2).length < 2 ^ 32) :
        Takes (do
          let a ← readValue k
          let b ← readValue v
          return (a, b)) (bytesOf k i.1 ++ bytesOf v i.2) i := by
      rw [List.length_append] at le
      exact (ihk i.1 (by omega)).bind ((ihv i.2 (by omega)).map _)
    have entries := (takes_container some small entry).map fun entries =>
      (SortedMap.empty.insertAll entries : SortedMap (Value k) (Value v))
    have same : (SortedMap.empty.insertAll (SortedMap.entries value) : SortedMap (Value k) (Value v)) = value :=
      SortedMap.insertAll_entries _
    rw [same, bind_assoc] at entries
    exact entries

/-- Items are read one after the other. -/
lemma takes_readItems (items : List Item) (small : (bytesOfItems items).length < 2 ^ 32) :
    Takes (readItems (items.map Sigma.fst)) (bytesOfItems items) items := by
  induction items with
  | nil => exact takes_pure []
  | cons item items ih =>
    rw [bytesOfItems, List.flatMap_cons, List.length_append] at small
    exact (takes_readValue item.1 item.2 (by omega)).bind ((ih (by rw [bytesOfItems]; omega)).map _)

/-- Items that are written to an empty buffer, with less than ten million bytes in all, are read back in their order
and types, to the end of the buffer. -/
theorem readItems_writeItems (items : List Item) (small : (bytesOfItems items).length < 10000000) :
    ∃ b, writeItems items clear = .ok b ∧ b.size = (bytesOfItems items).length ∧ b.rpos = 0 ∧
      readItems (items.map Sigma.fst) b = .ok (items, { b with rpos := b.size }) := by
  have written : Appends (writeItems items) (bytesOfItems items) :=
    appends_writeElements fun item _ => appends_writeValue item.1 item.2
  have taken := takes_readItems items (Nat.lt_trans small (by decide)) [] [] (bytesOfItems items).length
  refine ⟨⟨bytesOfItems items, 0, (bytesOfItems items).length⟩, ?_, rfl, rfl, ?_⟩
  · refine (written clear rfl ?_).trans ?_
    · rw [size, clear, List.length_nil, Nat.zero_add]
      exact Nat.le_of_lt small
    · rw [clear, List.nil_append, Nat.zero_add]
  · rw [List.nil_append, List.append_nil, List.length_nil, Nat.zero_add] at taken
    exact taken

/-- A truth value, a negative number, and a map from bytes to lists of truth values. -/
def nestedItems : List Item :=
  [⟨.bool, true⟩, ⟨.signed .uint16, ⟨-2, rfl⟩⟩,
    ⟨.map (.unsigned .uint8) (.list .bool), ⟨[((3 : Fin 256), [true, false]), ((7 : Fin 256), [])], by decide⟩⟩]

/-- These items are read back. -/
theorem readItems_nestedItems :
    ∃ b, writeItems nestedItems clear = .ok b ∧ b.size = (bytesOfItems nestedItems).length ∧ b.rpos = 0 ∧
      readItems (nestedItems.map Sigma.fst) b = .ok (nestedItems, { b with rpos := b.size }) :=
  readItems_writeItems nestedItems (by decide)

end ByteBuffer

end Legacy.Wire
