import Legacy.Sql.CharacterSave
import Mathlib.Data.List.TakeWhile

/-!
# The text of the value fields

A player's fields are written one after the other by `Player::SaveToDB` (`src/src/game/Player.cpp`, here `dataText`)
and read back by `Object::LoadValues` (`Object.cpp`) through `StrSplit` (`src/src/shared/Util.cpp`) and `atol`.
`loadValues_dataText` says that every array of fields survives, and that a text with another number of words is
refused without a change.
-/

namespace Legacy.Sql
open Legacy.Lib.Sql

/-- The loop of `StrSplit`, with the word that is being read and the words before it. -/
def strSplitFrom (sep : List Char) : List Char → List Char → List (List Char) → List (List Char)
  | [], s, r => if s.length ≠ 0 then r ++ [s] else r
  | c :: src, s, r =>
    if c ∈ sep then strSplitFrom sep src [] (if s.length ≠ 0 then r ++ [s] else r)
    else strSplitFrom sep src (s ++ [c]) r

/-- source `StrSplit` -/
def strSplit (src sep : List Char) : List (List Char) := strSplitFrom sep src [] []

/-- The white space that `atol` skips. -/
def isSpace (c : Char) : Bool := c = ' ' || (9 ≤ c.toNat && c.toNat ≤ 13)

/-- A number in the 64 bits of a `long`. -/
def clampLong (z : Int) : Int := max (-2 ^ 63) (min z (2 ^ 63 - 1))

/-- The number that the digits at the front of a text stand for. -/
def leadingNumber (text : List Char) : Nat := Nat.ofDigitChars 10 (text.takeWhile Char.isDigit) 0

/-- source `atol` -/
def atol (text : List Char) : Int :=
  match text.dropWhile isSpace with
  | '-' :: digits => clampLong (-leadingNumber digits)
  | '+' :: digits => clampLong (leadingNumber digits)
  | digits => clampLong (leadingNumber digits)

/-- The fields of an object, `n` of them (source `m_valuesCount`), once they are initialised. -/
structure ObjectValues (n : Nat) where
  uint32Values : Option (Vector UInt32 n)
  deriving DecidableEq

/-- What is stored in a field. -/
def fieldOf (z : Int) : UInt32 := UInt32.ofNat (z % 2 ^ 32).toNat

namespace ObjectValues

variable {n : Nat}

/-- The fields, all zero where they have to be initialised (source `Object::_InitValues`). -/
def values (o : ObjectValues n) : Vector UInt32 n := o.uint32Values.getD (Vector.replicate n 0)

/-- source `Object::LoadValues` -/
def loadValues (o : ObjectValues n) (data : List Char) : Bool × ObjectValues n :=
  let tokens := strSplit data [' ']
  if same : tokens.length = n then
    (true, ⟨some ⟨(tokens.map fun token => fieldOf (atol token)).toArray, by simpa using same⟩⟩)
  else (false, ⟨some o.values⟩)

end ObjectValues

variable {sep w src s : List Char} {r : List (List Char)}

/-- A word is read to its end. -/
lemma strSplitFrom_word (none : ∀ c ∈ w, c ∉ sep) :
    strSplitFrom sep (w ++ src) s r = strSplitFrom sep src (s ++ w) r := by
  induction w generalizing s with
  | nil => rw [List.nil_append, List.append_nil]
  | cons c w ih =>
    obtain ⟨first, others⟩ := List.forall_mem_cons.mp none
    rw [List.cons_append, strSplitFrom, if_neg first, ih others, List.append_assoc, List.singleton_append]

/-- Words with a separator after each of them are split where they were put together. -/
lemma strSplitFrom_flatMap {c : Char} (mem : c ∈ sep) (words : List (List Char))
    (plain : ∀ w ∈ words, w ≠ [] ∧ ∀ c ∈ w, c ∉ sep) :
    strSplitFrom sep (words.flatMap (· ++ [c])) [] r = r ++ words := by
  induction words generalizing r with
  | nil => rw [List.flatMap_nil, strSplitFrom, if_neg (by exact fun some => some rfl), List.append_nil]
  | cons w words ih =>
    obtain ⟨⟨some, first⟩, others⟩ := List.forall_mem_cons.mp plain
    have length : w.length ≠ 0 := mt List.length_eq_zero_iff.mp some
    rw [List.flatMap_cons, List.append_assoc, strSplitFrom_word first, List.singleton_append, strSplitFrom, if_pos mem,
      List.nil_append, if_pos length, ih others, List.append_assoc, List.singleton_append]

/-- A digit is no space. -/
lemma not_isSpace_of_isDigit {c : Char} (digit : c.isDigit = true) : isSpace c = false := by
  have range : 48 ≤ c.toNat ∧ c.toNat ≤ 57 := Char.isDigit_iff_toNat.mp digit
  have blank : ' '.toNat = 32 := rfl
  rw [isSpace, Bool.or_eq_false_iff, Bool.and_eq_false_iff]
  refine ⟨decide_eq_false fun eq => ?_, Or.inr (decide_eq_false (by omega))⟩
  rw [eq, blank] at range
  omega

/-- A printed number is read back. -/
lemma atol_decimal {v : Nat} (fits : v < 2 ^ 63) : atol (decimal v) = v := by
  have digits (c : Char) (mem : c ∈ decimal v) : c.isDigit = true := isDigit_of_mem_decimal mem
  have start : (decimal v).dropWhile isSpace = decimal v := by
    cases e : decimal v with
    | nil => rfl
    | cons c cs =>
      have first := not_isSpace_of_isDigit (digits c (e ▸ List.mem_cons_self))
      rw [List.dropWhile_cons_of_neg (by rw [first]; exact Bool.false_ne_true)]
  have number : leadingNumber (decimal v) = v := by
    rw [leadingNumber, List.takeWhile_eq_self_iff.mpr digits, decimal, Nat.ofDigitChars_ten_toDigits]
  have clamp : clampLong v = v := by
    rw [clampLong]
    omega
  rw [atol, start]
  -- neither sign is a digit
  split
  · next rest e => exact absurd (digits '-' (e ▸ List.mem_cons_self)) (by decide)
  · next rest e => exact absurd (digits '+' (e ▸ List.mem_cons_self)) (by decide)
  · rw [number, clamp]

/-- A field is what was printed of it. -/
lemma fieldOf_atol_decimal (v : UInt32) : fieldOf (atol (decimal v.toNat)) = v := by
  have lt := v.toNat_lt
  rw [atol_decimal (Nat.lt_trans lt (by decide)), fieldOf, Int.emod_eq_of_lt (Int.natCast_nonneg _) (by omega),
    Int.toNat_natCast, UInt32.ofNat_toNat]

/-- The text of the fields is split into their numbers. -/
lemma strSplit_dataText (values : List Nat) : strSplit (dataText values) [' '] = values.map decimal := by
  have words := strSplitFrom_flatMap (r := []) (List.mem_singleton_self ' ') (values.map decimal) fun w mem => by
    obtain ⟨v, -, rfl⟩ := List.mem_map.mp mem
    refine ⟨decimal_ne_nil v, fun c mem blank => ?_⟩
    have digit := isDigit_of_mem_decimal mem
    rw [List.mem_singleton.mp blank] at digit
    exact absurd digit (by decide)
  rw [List.flatMap_map, List.nil_append] at words
  exact words

namespace ObjectValues

/-- Every array of fields survives its storage, and a text with another number of words is refused and leaves
initialised fields alone. -/
theorem loadValues_dataText (n : Nat) (o : ObjectValues n) (saved : Vector UInt32 n) :
    o.loadValues (dataText (saved.toList.map UInt32.toNat)) = (true, ⟨some saved⟩) ∧
      ∀ text, (strSplit text [' ']).length ≠ n →
        (o.loadValues text).1 = false ∧ ∀ old, o.uint32Values = some old → (o.loadValues text).2 = ⟨some old⟩ := by
  constructor
  · have same : (strSplit (dataText (saved.toList.map UInt32.toNat)) [' ']).length = n := by
      rw [strSplit_dataText, List.length_map, List.length_map, Vector.length_toList]
    have fields : (strSplit (dataText (saved.toList.map UInt32.toNat)) [' ']).map (fun token => fieldOf (atol token)) =
        saved.toList := by
      rw [strSplit_dataText, List.map_map, List.map_map]
      exact (List.map_congr_left fun v _ => fieldOf_atol_decimal v).trans (List.map_id _)
    rw [loadValues, dif_pos same]
    simp only [fields]
    rfl
  · intro text other
    rw [loadValues, dif_neg other]
    refine ⟨rfl, fun old initialised => ?_⟩
    rw [values, initialised, Option.getD_some]

end ObjectValues

end Legacy.Sql
