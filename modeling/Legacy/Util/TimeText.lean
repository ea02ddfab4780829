import Legacy.Lib.SqlText

/-!
# Durations as texts

`secsToTimeString` and `TimeStringToSecs` (`src/src/shared/Util.cpp`), on 32-bit words. The printer leaves out a unit
that is zero; the parser adds up what it finds, and gives up at a letter that is no unit. A duration in its short form
is parsed back (`timeStringToSecs_secsToTimeString`).
-/

namespace Legacy.Util
open Legacy.Lib.Sql

/-- source `MINUTE` -/
abbrev minute : UInt32 := 60

/-- source `HOUR` -/
abbrev hour : UInt32 := minute * 60

/-- source `DAY` -/
abbrev day : UInt32 := hour * 24

/-- A number with its unit, or nothing. -/
def unitText (n : UInt32) (unit : String) : List Char := if n ≠ 0 then decimal n.toNat ++ unit.toList else []

/-- source `secsToTimeString` -/
def secsToTimeString (timeInSecs : UInt32) (shortText hoursOnly : Bool) : List Char :=
  let secs := timeInSecs % minute
  let minutes := timeInSecs % hour / minute
  let hours := timeInSecs % day / hour
  let days := timeInSecs / day
  unitText days (if shortText then "d" else " Day(s) ") ++
    (unitText hours (if shortText then "h" else " Hour(s) ") ++
      if !hoursOnly then
        unitText minutes (if shortText then "m" else " Minute(s) ") ++
          unitText secs (if shortText then "s" else " Second(s).")
      else [])

/-- What a letter multiplies by (source, the `switch` of `TimeStringToSecs`). -/
def multiplierOf : Char → Option UInt32
  | 'd' => some day
  | 'h' => some hour
  | 'm' => some minute
  | 's' => some 1
  | _ => none

/-- The loop of `TimeStringToSecs`. -/
def timeStringLoop (secs buffer : UInt32) : List Char → UInt32
  | [] => secs
  | c :: cs =>
    if c.isDigit then timeStringLoop secs (buffer * 10 + UInt32.ofNat (c.toNat - '0'.toNat)) cs
    else
      match multiplierOf c with
      | none => 0
      | some multiplier => timeStringLoop (secs + buffer * multiplier) 0 cs

/-- source `TimeStringToSecs` -/
def timeStringToSecs (timestring : List Char) : UInt32 := timeStringLoop 0 0 timestring

variable {secs : UInt32} {cs : List Char}

/-- Digits are read into the buffer. -/
lemma timeStringLoop_digits (digits : List Char) (all : ∀ c ∈ digits, c.isDigit = true) (b : Nat) :
    timeStringLoop secs (UInt32.ofNat b) (digits ++ cs) =
      timeStringLoop secs (UInt32.ofNat (Nat.ofDigitChars 10 digits b)) cs := by
  induction digits generalizing b with
  | nil => rw [List.nil_append, Nat.ofDigitChars_nil]
  | cons c digits ih =>
    obtain ⟨first, others⟩ := List.forall_mem_cons.mp all
    have buffer : UInt32.ofNat b * 10 + UInt32.ofNat (c.toNat - '0'.toNat) =
        UInt32.ofNat (10 * b + (c.toNat - '0'.toNat)) := by
      rw [UInt32.ofNat_add, UInt32.ofNat_mul, UInt32.mul_comm]
      rfl
    rw [List.cons_append, timeStringLoop, if_pos first, buffer, ih others, Nat.ofDigitChars_cons]

/-- A number with its unit is added, and so is nothing. -/
lemma timeStringLoop_unitText (n : UInt32) {unit : String} {c : Char} {multiplier : UInt32} (letter : unit.toList = [c])
    (other : c.isDigit = false) (found : multiplierOf c = some multiplier) :
    timeStringLoop secs 0 (unitText n unit ++ cs) = timeStringLoop (secs + n * multiplier) 0 cs := by
  rw [unitText]
  split
  · have digits : timeStringLoop secs 0 (decimal n.toNat ++ ([c] ++ cs)) =
        timeStringLoop secs (UInt32.ofNat (Nat.ofDigitChars 10 (decimal n.toNat) 0)) ([c] ++ cs) :=
      timeStringLoop_digits (decimal n.toNat) (fun c mem => isDigit_of_mem_decimal mem) 0
    have number : Nat.ofDigitChars 10 (decimal n.toNat) 0 = n.toNat := Nat.ofDigitChars_ten_toDigits
    rw [number, UInt32.ofNat_toNat] at digits
    rw [letter, List.append_assoc, digits, List.singleton_append, timeStringLoop,
      if_neg (by rw [other]; exact Bool.false_ne_true), found]
  · next zero =>
    rw [not_not.mp zero, List.nil_append, UInt32.zero_mul, UInt32.add_zero]

section Arithmetic

variable (t : UInt32)

/-- Days and the hours that are left are the hours. -/
lemma days_hours : t / day * day + t % day / hour * hour = t / hour * hour := by
  have lt : t.toNat < 2 ^ 32 := t.toNat_lt
  have hourNat : hour.toNat = 3600 := rfl
  have dayNat : day.toNat = 86400 := rfl
  apply UInt32.toNat_inj.mp
  simp only [UInt32.toNat_add, UInt32.toNat_mul, UInt32.toNat_div, UInt32.toNat_mod, hourNat, dayNat]
  omega

/-- Hours, and the minutes and the seconds that are left, are the whole. -/
lemma hours_minutes_secs : t / hour * hour + t % hour / minute * minute + t % minute = t := by
  have lt : t.toNat < 2 ^ 32 := t.toNat_lt
  have minuteNat : minute.toNat = 60 := rfl
  have hourNat : hour.toNat = 3600 := rfl
  apply UInt32.toNat_inj.mp
  simp only [UInt32.toNat_add, UInt32.toNat_mul, UInt32.toNat_div, UInt32.toNat_mod, minuteNat, hourNat]
  omega

end Arithmetic

/-- The short form is parsed back, as far as it goes. -/
lemma timeStringToSecs_short (t : UInt32) (hoursOnly : Bool) :
    timeStringToSecs (secsToTimeString t true hoursOnly) = if hoursOnly then t / hour * hour else t := by
  rw [timeStringToSecs, secsToTimeString]
  simp only [if_true]
  rw [timeStringLoop_unitText _ rfl rfl rfl, timeStringLoop_unitText _ rfl rfl rfl, UInt32.zero_add, days_hours]
  cases hoursOnly with
  | true => rfl
  | false =>
    have last : unitText (t % minute) "s" = unitText (t % minute) "s" ++ [] := (List.append_nil _).symm
    rw [Bool.not_false, if_pos rfl, last, timeStringLoop_unitText _ rfl rfl rfl, timeStringLoop_unitText _ rfl rfl rfl,
      timeStringLoop, UInt32.mul_one, hours_minutes_secs, if_neg Bool.false_ne_true]

/-- Every number of seconds is parsed back from its short form. -/
theorem timeStringToSecs_secsToTimeString (t : UInt32) : timeStringToSecs (secsToTimeString t true false) = t :=
  timeStringToSecs_short t false

end Legacy.Util
