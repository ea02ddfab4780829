import Legacy.Lib.SqlText
import Legacy.Wire.Requests

/-!
# The save of a character

`Player::SaveToDB` writes its `INSERT` by concatenation and sends it as a C string. The name between the
quotes is the one the client chose, changed by `normalizePlayerName` only: it is never escaped, unlike in
`ObjectMgr::GetPlayerGUIDByName`. `saveToDB_iff` says for which names the statement is the `INSERT` of that
name.
-/

namespace Legacy.Sql
open Legacy.Lib.Sql Legacy.Wire

/-- The bytes of a string as characters. -/
def asText (bytes : List UInt8) : List Char := bytes.map fun b => Char.ofNat b.toNat

/-- The first letter in upper case, the others in lower case (source `normalizePlayerName`, in the C locale). -/
def normalizePlayerName : List Char → List Char
  | [] => []
  | c :: cs => c.toUpper :: cs.map Char.toLower

/-- The name of the character that is created, unless no name was chosen (source
`WorldSession::HandleCharCreate` and `Player::Create`). -/
def handleCharCreate (new_name : List UInt8) : Option (List Char) :=
  if new_name = [] then none else some (normalizePlayerName (asText new_name))

/-- What the save writes beside the name (source `m_uint32Values` and the fields before it). -/
structure CharacterRow where
  guidLow : Nat
  accountId : Nat
  mapId : Nat
  positionX : Nat
  positionY : Nat
  values : List Nat
  deriving DecidableEq, Repr

/-- The values, each with a space after it. -/
def dataText (values : List Nat) : List Char := values.flatMap fun v => decimal v ++ [' ']

/-- The text of the statement (source `Player::SaveToDB`). -/
def saveText (m_name : List Char) (p : CharacterRow) : List Char :=
  "INSERT INTO characters ( guid, accountid, name, mapid, pos_x, pos_y,".toList ++
    " data ) VALUES (".toList ++
    decimal p.guidLow ++ ", ".toList ++
    decimal p.accountId ++ ", '".toList ++
    m_name ++ "', ".toList ++
    decimal p.mapId ++ ", ".toList ++
    decimal p.positionX ++ ", ".toList ++
    decimal p.positionY ++ ", '".toList ++
    dataText p.values ++ "') ".toList

/-- A C string ends at its first zero (source `ss.str().c_str()`). -/
def cStr (text : List Char) : List Char := text.takeWhile (· ≠ nul)

/-- The statement that reaches the database. -/
def saveToDB (m_name : List Char) (p : CharacterRow) : List Char := cStr (saveText m_name p)

/-- The statement is one `INSERT` with one tuple of seven values, the third of which is the name. -/
def SavesName (m_name : List Char) (p : CharacterRow) : Prop :=
  ∃ ins, parse (saveToDB m_name p) = some ins ∧ ins.values.length = 7 ∧ ins.values[2]? = some (.str m_name)

/-- The name has no zero and means itself in a literal. -/
def Quotable (name : List Char) : Prop := nul ∉ name ∧ Plain name
  deriving Decidable

section Normal

variable {c d : Char} {name : List Char}

/-- A character that is no letter is in neither range. -/
lemma not_letter (other : d.isAlpha = false) :
    ¬ (d.val ≥ 'A'.val ∧ d.val ≤ 'Z'.val) ∧ (¬ d.val ≥ 'a'.val ∨ ¬ d.val ≤ 'z'.val) := by
  obtain ⟨upper, lower⟩ := Bool.or_eq_false_iff.mp other
  exact ⟨of_decide_eq_false upper, (Bool.and_eq_false_iff.mp lower).imp of_decide_eq_false of_decide_eq_false⟩

/-- No letter becomes another character in lower case. -/
lemma toLower_eq_iff (other : d.isAlpha = false) : c.toLower = d ↔ c = d := by
  have letter := not_letter other
  delta Char.toLower
  split
  · refine iff_of_false ?_ ?_
    · rintro rfl
      grind
    · rintro rfl
      grind
  · rfl

/-- No letter becomes another character in upper case. -/
lemma toUpper_eq_iff (other : d.isAlpha = false) : c.toUpper = d ↔ c = d := by
  have letter := not_letter other
  delta Char.toUpper
  split
  · refine iff_of_false ?_ ?_
    · rintro rfl
      grind
    · rintro rfl
      grind
  · rfl

/-- Lower case keeps whether a text begins with a character that is no letter. -/
lemma head_map_toLower (other : d.isAlpha = false) (cs : List Char) :
    (cs.map Char.toLower).head? = some d ↔ cs.head? = some d := by
  cases cs with
  | nil => rfl
  | cons c cs => simp only [List.map_cons, List.head?_cons, Option.some_inj, toLower_eq_iff other]

/-- Letters do not matter at the head of a name. -/
lemma quotable_cons_congr {c' : Char} {cs cs' : List Char} (head : ∀ d : Char, d.isAlpha = false → (c' = d ↔ c = d))
    (next : ∀ d : Char, d.isAlpha = false → (cs'.head? = some d ↔ cs.head? = some d))
    (rest : Quotable cs' ↔ Quotable cs) : Quotable (c' :: cs') ↔ Quotable (c :: cs) := by
  have cons (c : Char) (cs : List Char) : Quotable (c :: cs) ↔
      (¬ c = nul ∧ ¬ c = quote ∧ (c = backslash → cs.head? = some '%' ∨ cs.head? = some '_')) ∧ Quotable cs := by
    simp only [Quotable, Plain, List.mem_cons, not_or, eq_comm (a := nul), ne_eq]
    tauto
  rw [cons, cons, head nul rfl, head quote rfl, head backslash rfl, next _ rfl, next _ rfl, rest]

/-- Lower case keeps whether a name can be quoted. -/
lemma quotable_map_toLower (cs : List Char) : Quotable (cs.map Char.toLower) ↔ Quotable cs := by
  induction cs with
  | nil => rfl
  | cons c cs ih =>
    exact quotable_cons_congr (fun _ => toLower_eq_iff) (fun _ other => head_map_toLower other cs) ih

/-- Letters do not matter. -/
lemma quotable_normalizePlayerName (name : List Char) : Quotable (normalizePlayerName name) ↔ Quotable name := by
  cases name with
  | nil => rfl
  | cons c cs =>
    exact quotable_cons_congr (fun _ => toUpper_eq_iff) (fun _ other => head_map_toLower other cs)
      (quotable_map_toLower cs)

end Normal

section Text

variable {name : List Char} {p : CharacterRow}

/-- The statement up to its tuple. -/
def saveColumns : List Char :=
  "INSERT INTO characters ( guid, accountid, name, mapid, pos_x, pos_y,".toList ++ " data ) VALUES (".toList

/-- The tokens of the statement up to its tuple. -/
def columnTokens : List Token :=
  [.word "INSERT".toList, .word "INTO".toList, .word "characters".toList, .openParen, .word "guid".toList, .comma,
    .word "accountid".toList, .comma, .word "name".toList, .comma, .word "mapid".toList, .comma,
    .word "pos_x".toList, .comma, .word "pos_y".toList, .comma, .word "data".toList, .closeParen,
    .word "VALUES".toList, .openParen]

/-- The statement up to the quote before the name. -/
def saveHead (p : CharacterRow) : List Char :=
  saveColumns ++ ((decimal p.guidLow ++ ", ".toList) ++ ((decimal p.accountId ++ ", ".toList) ++ [quote]))

/-- The numbers between the name and the values. -/
def middle (p : CharacterRow) : List Char :=
  ", ".toList ++ ((decimal p.mapId ++ ", ".toList) ++ ((decimal p.positionX ++ ", ".toList) ++
    (decimal p.positionY ++ ", ".toList)))

/-- The statement from the quote after the name. -/
def saveTail (p : CharacterRow) : List Char :=
  quote :: (middle p ++ quote :: (dataText p.values ++ quote :: ") ".toList))

/-- The statement is its head, the name and its tail. -/
lemma saveText_eq (name : List Char) (p : CharacterRow) : saveText name p = saveHead p ++ (name ++ saveTail p) := by
  have first : ", '".toList = ", ".toList ++ [quote] := by decide
  have second : "', ".toList = quote :: ", ".toList := by decide
  have last : "') ".toList = quote :: ") ".toList := by decide
  unfold saveText saveHead saveTail middle saveColumns
  simp only [first, second, last, List.append_assoc, List.cons_append, List.nil_append]

/-- The columns are read as their tokens. -/
lemma run_columns : run .idle saveColumns = some (.idle, columnTokens) := by decide +kernel

/-- A number with a comma. -/
lemma run_number (n : Nat) : run .idle (decimal n ++ ", ".toList) = some (.idle, [.word (decimal n), .comma]) := by
  rw [run_append, run_decimal]
  rfl

/-- The statement up to the name is read whatever the numbers are. -/
lemma run_saveHead (p : CharacterRow) : run .idle (saveHead p) = some (.lit .inside [], columnTokens ++
    [.word (decimal p.guidLow), .comma, .word (decimal p.accountId), .comma]) := by
  rw [saveHead, run_append, run_columns, Option.bind_some, run_append, run_number, Option.bind_some, run_append,
    run_number]
  rfl

/-- The columns are those of the table, whatever the tuple is. -/
lemma statement_columns (ts : List Token) : statement (columnTokens ++ ts) =
    (tuple ts).map (⟨"characters".toList, ["guid".toList, "accountid".toList, "name".toList, "mapid".toList,
      "pos_x".toList, "pos_y".toList, "data".toList], ·⟩) := rfl

/-- The values of the tuple from the name on, for the rest of a text after the quote before the name. -/
def valuesFrom (text : List Char) : Option (List Value) := (lexFrom (.lit .inside []) text).bind tuple

/-- The statement saves the name when five values are read from the name on, and the name is the first. -/
lemma parse_iff (name text : List Char) :
    (∃ ins, parse (saveHead p ++ text) = some ins ∧ ins.values.length = 7 ∧ ins.values[2]? = some (.str name)) ↔
      ∃ vs, valuesFrom text = some vs ∧ vs.length = 5 ∧ vs.head? = some (.str name) := by
  rw [parse, lexFrom_append (run_saveHead p), valuesFrom]
  cases lexFrom (.lit .inside []) text with
  | none => simp
  | some ts =>
    rw [Option.map_some, Option.bind_some, Option.bind_some, List.append_assoc, statement_columns]
    simp only [List.cons_append, List.nil_append, tuple_cons (value_decimal _)]
    cases tuple ts with
    | none => simp
    | some vs => simp [List.head?_eq_getElem?]

end Text

section Tail

variable {p : CharacterRow} {v : List Char} {st : LitState} {c : Char}

/-- A digit is neither quote nor backslash. -/
lemma ordinary_of_isDigit (digit : c.isDigit = true) : c ≠ quote ∧ c ≠ backslash := by
  constructor
  · rintro rfl
    cases digit
  · rintro rfl
    cases digit

/-- A separator is neither quote nor backslash. -/
lemma ordinary_of_mem_sep (mem : c ∈ ", ".toList) : c ≠ quote ∧ c ≠ backslash := by
  have either : c = ',' ∨ c = ' ' := by simpa using mem
  obtain rfl | rfl := either
  · decide
  · decide

/-- A number is without quote and backslash. -/
lemma ordinary_of_mem_number {n : Nat} (mem : c ∈ decimal n ++ ", ".toList) : c ≠ quote ∧ c ≠ backslash := by
  obtain digit | sep := List.mem_append.mp mem
  · exact ordinary_of_isDigit (isDigit_of_mem_decimal digit)
  · exact ordinary_of_mem_sep sep

/-- The numbers between name and values are plain. -/
lemma plain_middle (p : CharacterRow) : Plain (middle p) := by
  refine plain_of_ordinary fun c mem => ?_
  obtain sep | mem := List.mem_append.mp mem
  · exact ordinary_of_mem_sep sep
  · obtain map | mem := List.mem_append.mp mem
    · exact ordinary_of_mem_number map
    · obtain x | y := List.mem_append.mp mem
      · exact ordinary_of_mem_number x
      · exact ordinary_of_mem_number y

/-- The text of the values is plain. -/
lemma plain_dataText (values : List Nat) : Plain (dataText values) := by
  refine plain_of_ordinary fun c mem => ?_
  obtain ⟨n, -, mem⟩ := List.mem_flatMap.mp mem
  obtain digit | space := List.mem_append.mp mem
  · exact ordinary_of_isDigit (isDigit_of_mem_decimal digit)
  · obtain rfl := List.mem_singleton.mp space
    decide

/-- The tail is the end of the name, the numbers and the values. -/
lemma saveTail_eq (p : CharacterRow) :
    saveTail p = quote :: (middle p ++ [quote]) ++ (dataText p.values ++ quote :: ") ".toList) := by
  rw [saveTail]
  simp only [List.append_assoc, List.cons_append, List.nil_append]

/-- A literal that ends at the quote after the name is followed by the other four values. -/
lemma valuesFrom_tail (v : List Char) (p : CharacterRow) :
    (lexFrom (.lit .inside v) (saveTail p)).bind tuple =
      some [.str v, .num p.mapId, .num p.positionX, .num p.positionY, .str (dataText p.values)] := by
  have read : run (.lit .inside v) (quote :: (middle p ++ [quote])) = some (.lit .inside [],
      [.str v, .comma, .word (decimal p.mapId), .comma, .word (decimal p.positionX), .comma,
        .word (decimal p.positionY), .comma]) := by
    have ended : run (.lit .inside v) (quote :: ", ".toList) = some (.idle, [.str v, .comma]) := rfl
    have parts : quote :: (middle p ++ [quote]) = (quote :: ", ".toList) ++ ((decimal p.mapId ++ ", ".toList) ++
        ((decimal p.positionX ++ ", ".toList) ++ ((decimal p.positionY ++ ", ".toList) ++ [quote]))) := by
      rw [middle]
      simp only [List.append_assoc, List.cons_append]
    rw [parts, run_append, ended, Option.bind_some, run_append, run_number, Option.bind_some, run_append, run_number,
      Option.bind_some, run_append, run_number]
    rfl
  have values : run (.lit .inside []) (dataText p.values) = some (.lit .inside (dataText p.values), []) :=
    run_plain (plain_dataText p.values)
  rw [saveTail_eq, lexFrom_append read, lexFrom_append values]
  have ended (v : List Char) : lexFrom (.lit .inside v) (quote :: ") ".toList) = some [.str v, .closeParen] := rfl
  rw [ended]
  simp only [Option.map_some, Option.bind_some, List.cons_append, List.nil_append]
  rw [tuple_cons (a := .str v) rfl, tuple_cons (value_decimal _), tuple_cons (value_decimal _),
    tuple_cons (value_decimal _)]
  rfl

/-- The values are empty, or start with a digit. -/
lemma dataText_cases (values : List Nat) :
    dataText values = [] ∨ ∃ c cs, dataText values = c :: cs ∧ c.isDigit = true := by
  cases values with
  | nil => exact .inl rfl
  | cons n values =>
    cases e : decimal n with
    | nil => exact absurd e (decimal_ne_nil n)
    | cons c cs =>
      refine .inr ⟨c, cs ++ [' '] ++ dataText values, ?_, isDigit_of_mem_decimal (e ▸ List.mem_cons_self ..)⟩
      rw [dataText, List.flatMap_cons, e]
      rfl

/-- A literal that does not end at the quote after the name ends at the next one, before a digit, or never. -/
lemma valuesFrom_swallowed (goes : st ≠ .inside) (v : List Char) (p : CharacterRow) :
    (lexFrom (.lit st v) (saveTail p)).bind tuple = none := by
  obtain ⟨v1, swallowed⟩ : ∃ v1, step (.lit st v) quote = some (.lit .inside v1, []) := by
    cases st with
    | inside => exact absurd rfl goes
    | escaped => exact ⟨_, rfl⟩
    | quoted => exact ⟨_, rfl⟩
  have read : run (.lit st v) (quote :: (middle p ++ [quote])) = some (.lit .quoted (v1 ++ middle p), []) := by
    rw [run_cons_nil swallowed, run_append, run_plain (plain_middle p)]
    rfl
  rw [saveTail_eq, lexFrom_append read]
  obtain empty | ⟨c, cs, values, digit⟩ := dataText_cases p.values
  · rw [empty]
    rfl
  · have ne : c ≠ quote := (ordinary_of_isDigit digit).1
    have begun : run (.lit .quoted (v1 ++ middle p)) [c] = some (.word [c], [.str (v1 ++ middle p)]) := by
      rw [run, step, if_neg ne, start_digit digit]
      rfl
    have parts : dataText p.values ++ quote :: ") ".toList = [c] ++ (cs ++ quote :: ") ".toList) := by
      rw [values]
      rfl
    rw [parts, lexFrom_append begun]
    cases rest : lexFrom (.word [c]) (cs ++ quote :: ") ".toList) with
    | none => rfl
    | some ts =>
      obtain ⟨w, ts', rfl⟩ := lexFrom_word rest
      exact tuple_str_word (v1 ++ middle p) w ts'

end Tail

section Cut

variable {name text : List Char} {p : CharacterRow}

/-- A zero cuts the text off. -/
lemma length_cStr (zero : nul ∈ name) (text : List Char) : (cStr (name ++ text)).length < name.length := by
  induction name with
  | nil => cases zero
  | cons c name ih =>
    rw [cStr, List.cons_append, List.takeWhile_cons]
    split_ifs with goes
    · obtain rfl | rest := List.mem_cons.mp zero
      · simp at goes
      · exact Nat.succ_lt_succ (ih rest)
    · exact Nat.succ_pos _

/-- A name without a null character stands whole before what follows. -/
lemma cStr_append (whole : nul ∉ name) (text : List Char) : cStr (name ++ text) = name ++ cStr text := by
  refine List.takeWhile_append_of_pos fun c mem => ?_
  have ne : c ≠ nul := fun eq => whole (eq ▸ mem)
  simpa using ne

/-- A digit is no null character. -/
lemma nul_ne_of_isDigit {c : Char} (digit : c.isDigit = true) : c ≠ nul := by
  rintro rfl
  cases digit

end Cut

section Names

variable {name : List Char}

/-- A literal that has ended before its text did is not the name. -/
lemma head_ne {v : List Char} {ts : List Token} {vs : List Value} (lt : v.length < name.length)
    (e : tuple (.str v :: ts) = some vs) : vs.head? ≠ some (.str name) := by
  rw [head_of_tuple e, value]
  intro eq
  cases eq
  exact Nat.lt_irrefl _ lt

/-- A text that is cut off inside the name has no value that is the name. -/
lemma not_saved_of_cut {text : List Char} (lt : text.length < name.length) {vs : List Value}
    (e : valuesFrom text = some vs) : vs.head? ≠ some (.str name) := by
  rw [valuesFrom, lexFrom] at e
  cases read : run (.lit .inside []) text with
  | none => simp [read] at e
  | some r =>
    obtain ⟨s', ts⟩ := r
    rw [read, Option.bind_some] at e
    obtain ⟨st', v', rfl, rfl, -⟩ | ⟨v', ts', rfl, short⟩ := run_lit read
    · cases st' with
      | inside => cases e
      | escaped => cases e
      | quoted => cases e
    · cases last : finish s' with
      | none => simp [last] at e
      | some more =>
        rw [last, Option.map_some, Option.bind_some] at e
        simp only [List.length_nil, LitState.held, Nat.zero_add] at short
        exact head_ne (short.trans lt) e

/-- The values from a name without zeros on are those of the row if and only if the name is plain. -/
lemma values_iff (name : List Char) (p : CharacterRow) :
    (∃ vs, valuesFrom (name ++ saveTail p) = some vs ∧ vs.length = 5 ∧ vs.head? = some (.str name)) ↔ Plain name := by
  cases read : run (.lit .inside []) name with
  | none =>
    refine iff_of_false ?_ fun plain => ?_
    · rintro ⟨vs, e, -⟩
      rw [valuesFrom, lexFrom, run_append, read] at e
      cases e
    · rw [run_plain plain] at read
      cases read
  | some r =>
    obtain ⟨s', ts⟩ := r
    have other (differs : ¬ ∃ v, s' = .lit .inside v ∧ ts = []) : ¬ Plain name := by
      intro plain
      rw [run_plain plain] at read
      cases read
      exact differs ⟨_, rfl, rfl⟩
    rw [valuesFrom, lexFrom_append read]
    obtain ⟨st', v', rfl, rfl, -⟩ | ⟨v', ts', rfl, short⟩ := run_lit read
    · by_cases ends : st' = .inside
      · -- the quote after the name ends the literal
        subst ends
        have values := valuesFrom_tail v' p
        simp only [List.nil_append, Option.map_id'] at values ⊢
        rw [values]
        constructor
        · rintro ⟨vs, e, -, head⟩
          cases e
          cases head
          exact plain_of_run read (by simp)
        · intro plain
          rw [run_plain plain] at read
          cases read
          exact ⟨_, rfl, rfl, rfl⟩
      · -- the quote after the name is part of the literal
        refine iff_of_false ?_ (other ?_)
        · rintro ⟨vs, e, -⟩
          simp only [List.nil_append, Option.map_id', valuesFrom_swallowed ends] at e
          cases e
        · rintro ⟨v, same, -⟩
          cases same
          exact ends rfl
    · -- the literal ends inside the name
      refine iff_of_false ?_ (other ?_)
      · rintro ⟨vs, e, -, head⟩
        cases rest : lexFrom s' (saveTail p) with
        | none => simp [rest] at e
        | some more =>
          rw [rest, Option.map_some, Option.bind_some] at e
          simp only [List.length_nil, LitState.held, Nat.zero_add] at short
          exact head_ne short e head
      · rintro ⟨v, -, none⟩
        cases none

end Names

section Save

variable {name : List Char} {p : CharacterRow}

/-- A number has no null character. -/
lemma nul_notMem_number (n : Nat) : nul ∉ decimal n ++ ", ".toList := by
  rw [List.mem_append, not_or]
  exact ⟨fun mem => nul_ne_of_isDigit (isDigit_of_mem_decimal mem) rfl, by decide⟩

/-- The text of the values has no null character. -/
lemma nul_notMem_dataText (values : List Nat) : nul ∉ dataText values := by
  rw [dataText, List.mem_flatMap]
  rintro ⟨n, -, mem⟩
  obtain digit | space := List.mem_append.mp mem
  · exact nul_ne_of_isDigit (isDigit_of_mem_decimal digit) rfl
  · cases List.mem_singleton.mp space

/-- The head has no null character. -/
lemma nul_notMem_saveHead (p : CharacterRow) : nul ∉ saveHead p := by
  have columns : nul ∉ saveColumns := by decide
  have ends : nul ∉ [quote] := by decide
  exact List.not_mem_append columns (List.not_mem_append (nul_notMem_number _)
    (List.not_mem_append (nul_notMem_number _) ends))

/-- The tail has no null character. -/
lemma nul_notMem_saveTail (p : CharacterRow) : nul ∉ saveTail p := by
  have sep : nul ∉ ", ".toList := by decide
  have ends : nul ∉ quote :: ") ".toList := by decide
  have middle : nul ∉ middle p := List.not_mem_append sep (List.not_mem_append (nul_notMem_number _)
    (List.not_mem_append (nul_notMem_number _) (nul_notMem_number _)))
  have quoted {text : List Char} (whole : nul ∉ text) : nul ∉ quote :: text :=
    List.not_mem_cons_of_ne_of_not_mem (by decide) whole
  exact quoted (List.not_mem_append middle (quoted (List.not_mem_append (nul_notMem_dataText _) ends)))

/-- The statement saves exactly the names that are quotable. -/
lemma savesName_iff (name : List Char) (p : CharacterRow) : SavesName name p ↔ Quotable name := by
  have sent : saveToDB name p = saveHead p ++ cStr (name ++ saveTail p) := by
    rw [saveToDB, saveText_eq, cStr_append (nul_notMem_saveHead p)]
  rw [SavesName, sent, parse_iff, Quotable]
  by_cases zero : nul ∈ name
  · refine iff_of_false ?_ fun quotable => quotable.1 zero
    rintro ⟨vs, e, -, head⟩
    exact not_saved_of_cut (length_cStr zero _) e head
  · have whole : cStr (name ++ saveTail p) = name ++ saveTail p := by
      have tail := cStr_append (nul_notMem_saveTail p) []
      rw [List.append_nil] at tail
      rw [cStr_append zero, tail]
      exact congrArg _ (List.append_nil _)
    rw [whole, values_iff]
    exact (and_iff_right zero).symm

/-- The statement of a save is one `INSERT` of the name of the character if and only if the chosen name has no zero
and no quote, and every backslash in it is followed by a percent sign or an underscore. -/
theorem saveToDB_iff {new_name : List UInt8} (accepted : handleCharCreate new_name = some name) (p : CharacterRow) :
    SavesName name p ↔ Quotable (asText new_name) := by
  rw [handleCharCreate] at accepted
  split_ifs at accepted
  cases accepted
  rw [savesName_iff, quotable_normalizePlayerName]

/-- The name Bob is saved by every row. -/
theorem saveToDB_bob :
    SavesName "Bob".toList ⟨7, 3, 10816, 442, 758, [1, 0]⟩ ∧ Quotable (asText [98, 111, 66]) := by
  have quotable : Quotable (asText [98, 111, 66]) := by decide +kernel
  exact ⟨(saveToDB_iff (by decide +kernel) _).mpr quotable, quotable⟩

/-- The packet that chooses the name O'neil. -/
def quotePacket : ByteBuffer := ⟨([2, 79, 39, 110, 101, 105, 108] : List UInt8).map ByteBuffer.encodeByte, 0, 7⟩

/-- The name O'neil is read from a packet and accepted, and its statement is no `INSERT`. -/
theorem not_saveToDB_quote :
    (readCharCreate ⟨false, false, false, false, false, true, 0, 0, fun _ => none⟩ quotePacket).map Prod.fst =
        .ok (some (.selectName [79, 39, 110, 101, 105, 108])) ∧
      ∃ name, handleCharCreate [79, 39, 110, 101, 105, 108] = some name ∧
        ¬ SavesName name ⟨7, 3, 10816, 442, 758, [1, 0]⟩ := by
  have broken : parse (saveToDB (normalizePlayerName (asText [79, 39, 110, 101, 105, 108]))
      ⟨7, 3, 10816, 442, 758, [1, 0]⟩) = none := by
    decide +kernel
  refine ⟨rfl, _, rfl, ?_⟩
  rintro ⟨ins, e, -⟩
  rw [broken] at e
  cases e

end Save

end Legacy.Sql
