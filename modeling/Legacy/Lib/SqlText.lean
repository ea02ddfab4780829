import Mathlib.Tactic.Common
import Mathlib.Data.List.Basic

/-!
# The text of an `INSERT`

A reader for `INSERT` statements with one tuple of literal values, under the rules of MySQL for
single-quoted literals: a doubled quote stands for a quote, a backslash escapes the character after it, and
`\%` and `\_` keep their backslash. The lexer is an automaton that runs over the characters (`run`), so that a
text may be read part by part (`run_append`). Whatever else SQL has (comments, operators, other quotes) is no
token here: a statement with it is not an `INSERT` of literal values. `run_plain` and `plain_of_run` say which
texts stand for themselves inside a literal.
-/

namespace Legacy.Lib.Sql

/-- The quote of a literal. -/
def quote : Char := Char.ofNat 39

/-- The character that escapes the next one in a literal. -/
def backslash : Char := Char.ofNat 92

/-- The end of a C string. -/
def nul : Char := Char.ofNat 0

/-- Where the lexer is inside a literal: in the text, after a backslash, or after a quote that ends the
literal unless another one follows. -/
inductive LitState where
  | inside | escaped | quoted
  deriving DecidableEq, Repr

/-- Where the lexer is: between tokens, in a word or in a literal, with what was read of it. -/
inductive LexState where
  | idle
  | word (w : List Char)
  | lit (st : LitState) (v : List Char)
  deriving DecidableEq, Repr

/-- A token: a name, keyword or number, the value of a literal, or punctuation. -/
inductive Token where
  | word (w : List Char)
  | str (v : List Char)
  | openParen | closeParen | comma
  deriving DecidableEq, Repr

/-- What a backslash and the character after it stand for. -/
def unescape (c : Char) : List Char :=
  if c = '%' ∨ c = '_' then [backslash, c]
  else if c = '0' then [nul]
  else if c = 'b' then [Char.ofNat 8]
  else if c = 't' then [Char.ofNat 9]
  else if c = 'n' then [Char.ofNat 10]
  else if c = 'r' then [Char.ofNat 13]
  else if c = 'Z' then [Char.ofNat 26]
  else [c]

/-- A character of a name, keyword or number. -/
def isWordChar (c : Char) : Bool := c.isAlphanum || c = '_'

/-- The start of a token. -/
def start (c : Char) : Option (LexState × List Token) :=
  if c = quote then some (.lit .inside [], [])
  else if c = '(' then some (.idle, [.openParen])
  else if c = ')' then some (.idle, [.closeParen])
  else if c = ',' then some (.idle, [.comma])
  else if c.isWhitespace then some (.idle, [])
  else if isWordChar c then some (.word [c], [])
  else none

/-- One character of the text, with the tokens that it ends. -/
def step : LexState → Char → Option (LexState × List Token)
  | .idle, c => start c
  | .word w, c =>
    if isWordChar c then some (.word (w ++ [c]), [])
    else (start c).map fun r => (r.1, .word w :: r.2)
  | .lit .inside v, c =>
    if c = quote then some (.lit .quoted v, [])
    else if c = backslash then some (.lit .escaped v, [])
    else some (.lit .inside (v ++ [c]), [])
  | .lit .escaped v, c => some (.lit .inside (v ++ unescape c), [])
  | .lit .quoted v, c =>
    if c = quote then some (.lit .inside (v ++ [quote]), [])
    else (start c).map fun r => (r.1, .str v :: r.2)

/-- A part of the text, with the tokens that end in it. -/
def run : LexState → List Char → Option (LexState × List Token)
  | st, [] => some (st, [])
  | st, c :: cs =>
    (step st c).bind fun r => (run r.1 cs).map fun q => (q.1, r.2 ++ q.2)

/-- The end of the text: a word or a literal may end there. -/
def finish : LexState → Option (List Token)
  | .idle => some []
  | .word w => some [.word w]
  | .lit .quoted v => some [.str v]
  | .lit _ _ => none

/-- The tokens of the rest of a text. -/
def lexFrom (st : LexState) (text : List Char) : Option (List Token) :=
  (run st text).bind fun r => (finish r.1).map (r.2 ++ ·)

/-- A literal value. -/
inductive Value where
  | num (n : Nat)
  | str (v : List Char)
  deriving DecidableEq, Repr

/-- A statement `INSERT INTO table ( columns ) VALUES ( values )`. -/
structure Insert where
  table : List Char
  columns : List (List Char)
  values : List Value
  deriving DecidableEq, Repr

/-- A name of a column. -/
def column : Token → Option (List Char)
  | .word w => some w
  | _ => none

/-- A number or a literal. -/
def value : Token → Option Value
  | .word w => if w.all Char.isDigit then some (.num (Nat.ofDigitChars 10 w 0)) else none
  | .str v => some (.str v)
  | _ => none

/-- A list with commas up to a closing parenthesis, and what follows it. -/
def listOf {α : Type} (item : Token → Option α) : List Token → Option (List α × List Token)
  | t :: .comma :: ts => (item t).bind fun a => (listOf item ts).map fun r => (a :: r.1, r.2)
  | t :: .closeParen :: ts => (item t).map fun a => ([a], ts)
  | _ => none

/-- The tuple of values, which ends the statement. -/
def tuple (ts : List Token) : Option (List Value) :=
  match listOf value ts with
  | some (values, []) => some values
  | _ => none

/-- The statement of some tokens. -/
def statement : List Token → Option Insert
  | .word insert :: .word into :: .word table :: .openParen :: ts =>
    if insert = "INSERT".toList ∧ into = "INTO".toList then
      match listOf column ts with
      | some (columns, .word values :: .openParen :: ts) =>
        if values = "VALUES".toList then (tuple ts).map (⟨table, columns, ·⟩) else none
      | _ => none
    else none
  | _ => none

/-- The `INSERT` that a text is. -/
def parse (text : List Char) : Option Insert := (lexFrom .idle text).bind statement

/-- The text means itself inside a literal: it has no quote, and every backslash is followed by a percent sign
or an underscore. -/
def Plain : List Char → Prop
  | [] => True
  | c :: cs => c ≠ quote ∧ (c = backslash → cs.head? = some '%' ∨ cs.head? = some '_') ∧ Plain cs

instance decidablePlain : DecidablePred Plain
  | [] => inferInstanceAs (Decidable True)
  | c :: cs =>
    have := decidablePlain cs
    inferInstanceAs (Decidable (c ≠ quote ∧ (c = backslash → cs.head? = some '%' ∨ cs.head? = some '_') ∧ Plain cs))

section Runs

/-- A text may be read part by part. -/
lemma run_append (st : LexState) (a b : List Char) :
    run st (a ++ b) = (run st a).bind fun r => (run r.1 b).map fun q => (q.1, r.2 ++ q.2) := by
  induction a generalizing st with
  | nil => simp [run]
  | cons c a ih =>
    rw [List.cons_append, run, run]
    cases step st c with
    | none => rfl
    | some r =>
      simp only [Option.bind_some, ih]
      cases run r.1 a with
      | none => rfl
      | some q => simp [Function.comp_def]

/-- The rest of a text after a part that was read. -/
lemma lexFrom_append {st st' : LexState} {a : List Char} {ts : List Token} (e : run st a = some (st', ts))
    (b : List Char) : lexFrom st (a ++ b) = (lexFrom st' b).map (ts ++ ·) := by
  rw [lexFrom, lexFrom, run_append, e, Option.bind_some]
  cases run st' b with
  | none => rfl
  | some r => simp [Function.comp_def, List.append_assoc]

/-- The lexer goes on behind a character. -/
lemma run_cons {st st' : LexState} {c : Char} {ts : List Token} (e : step st c = some (st', ts)) (cs : List Char) :
    run st (c :: cs) = (run st' cs).map fun q => (q.1, ts ++ q.2) := by
  rw [run, e, Option.bind_some]

/-- A step that ends no token. -/
lemma run_cons_nil {st st' : LexState} {c : Char} (e : step st c = some (st', [])) (cs : List Char) :
    run st (c :: cs) = run st' cs := by
  rw [run_cons e]
  cases run st' cs with
  | none => rfl
  | some q => rfl

end Runs

section Literals

/-- What was read of a literal and is not part of its value yet. -/
def LitState.held : LitState → List Char
  | .inside => []
  | .escaped => [backslash]
  | .quoted => [quote]

variable {st st' : LitState} {v v' cs : List Char} {c : Char} {s' : LexState} {ts : List Token}

/-- A quote may end a literal. -/
lemma step_quote (v : List Char) : step (.lit .inside v) quote = some (.lit .quoted v, []) := rfl

/-- A backslash begins an escape. -/
lemma step_backslash (v : List Char) : step (.lit .inside v) backslash = some (.lit .escaped v, []) := rfl

/-- Other characters stand for themselves. -/
lemma step_other (noQuote : c ≠ quote) (noSlash : c ≠ backslash) (v : List Char) :
    step (.lit .inside v) c = some (.lit .inside (v ++ [c]), []) := by
  rw [step, if_neg noQuote, if_neg noSlash]

/-- A doubled quote stands for one. -/
lemma step_doubled (v : List Char) : step (.lit .quoted v) quote = some (.lit .inside (v ++ [quote]), []) := rfl

/-- An escape stands for two characters at most. -/
lemma length_unescape (c : Char) : (unescape c).length ≤ 2 := by
  rw [unescape]
  split_ifs <;> simp

/-- A character of a literal is read, or the literal has ended before it. -/
lemma step_lit (e : step (.lit st v) c = some (s', ts)) :
    (∃ st' v', s' = .lit st' v' ∧ ts = [] ∧ v'.length + st'.held.length ≤ v.length + st.held.length + 1) ∨
      st = .quoted ∧ ∃ ts', ts = .str v :: ts' := by
  cases st with
  | inside =>
    rw [step] at e
    split_ifs at e
    · cases e
      exact .inl ⟨.quoted, v, rfl, rfl, Nat.le_refl _⟩
    · cases e
      exact .inl ⟨.escaped, v, rfl, rfl, Nat.le_refl _⟩
    · cases e
      refine .inl ⟨.inside, _, rfl, rfl, ?_⟩
      rw [List.length_append, List.length_singleton]
      exact Nat.le_refl _
  | escaped =>
    cases e
    refine .inl ⟨.inside, _, rfl, rfl, ?_⟩
    have le := length_unescape c
    simp only [List.length_append, LitState.held, List.length_cons, List.length_nil]
    omega
  | quoted =>
    rw [step] at e
    split_ifs at e
    · cases e
      refine .inl ⟨.inside, _, rfl, rfl, ?_⟩
      simp only [List.length_append, LitState.held, List.length_cons, List.length_nil]
      omega
    · cases begun : start c with
      | none =>
        rw [begun] at e
        cases e
      | some r =>
        rw [begun] at e
        cases e
        exact .inr ⟨rfl, r.2, rfl⟩

/-- A literal goes on at the end of a text, or its value is the first token; no value is longer than what was
read of it. -/
lemma run_lit (e : run (.lit st v) cs = some (s', ts)) :
    (∃ st' v', s' = .lit st' v' ∧ ts = [] ∧ v'.length + st'.held.length ≤ v.length + st.held.length + cs.length) ∨
      ∃ v' ts', ts = .str v' :: ts' ∧ v'.length < v.length + st.held.length + cs.length := by
  induction cs generalizing st v with
  | nil =>
    cases e
    exact .inl ⟨st, v, rfl, rfl, Nat.le_refl _⟩
  | cons c cs ih =>
    cases here : step (.lit st v) c with
    | none =>
      rw [run, here] at e
      cases e
    | some r =>
      obtain ⟨s1, ts1⟩ := r
      obtain ⟨st1, v1, rfl, rfl, le⟩ | ⟨rfl, ts', rfl⟩ := step_lit here
      · rw [run_cons_nil here] at e
        obtain ⟨st', v', rfl, rfl, le'⟩ | ⟨v', ts', rfl, lt⟩ := ih e
        · refine .inl ⟨st', v', rfl, rfl, ?_⟩
          simp only [List.length_cons]
          omega
        · refine .inr ⟨v', ts', rfl, ?_⟩
          simp only [List.length_cons]
          omega
      · rw [run_cons here] at e
        cases rest : run s1 cs with
        | none =>
          rw [rest] at e
          cases e
        | some q =>
          rw [rest] at e
          cases e
          refine .inr ⟨v, ts' ++ q.2, rfl, ?_⟩
          simp only [List.length_cons, LitState.held, List.length_cons, List.length_nil]
          omega

/-- The text means itself in a literal of which this much was read. -/
def PlainFrom : LitState → List Char → Prop
  | .inside, cs => Plain cs
  | .escaped, cs => (cs.head? = some '%' ∨ cs.head? = some '_') ∧ Plain cs
  | .quoted, _ => False

/-- A plain text goes into its literal. -/
lemma run_plainFrom (plain : PlainFrom st cs) :
    run (.lit st v) cs = some (.lit .inside (v ++ st.held ++ cs), []) := by
  induction cs generalizing st v with
  | nil =>
    cases st with
    | inside => simp [run, LitState.held]
    | escaped => simp [PlainFrom] at plain
    | quoted => cases plain
  | cons c cs ih =>
    cases st with
    | inside =>
      obtain ⟨noQuote, escape, rest⟩ := plain
      by_cases slash : c = backslash
      · subst slash
        have tail : PlainFrom .escaped cs := ⟨escape rfl, rest⟩
        rw [run_cons_nil (step_backslash v), ih tail]
        simp [LitState.held]
      · have tail : PlainFrom .inside cs := rest
        rw [run_cons_nil (step_other noQuote slash v), ih tail]
        simp [LitState.held]
    | escaped =>
      obtain ⟨wild, -, -, rest⟩ := plain
      have here : step (.lit .escaped v) c = some (.lit .inside (v ++ [backslash, c]), []) := by
        rw [step, unescape, if_pos (by simpa using wild)]
      have tail : PlainFrom .inside cs := rest
      rw [run_cons_nil here, ih tail]
      simp [LitState.held]
    | quoted => cases plain

/-- A plain text stands for itself. -/
lemma run_plain (plain : Plain cs) : run (.lit .inside v) cs = some (.lit .inside (v ++ cs), []) := by
  have text : PlainFrom .inside cs := plain
  have run := run_plainFrom (v := v) text
  rwa [LitState.held, List.append_nil] at run

/-- Only an escaped wildcard keeps its backslash. -/
lemma wild_of_length (two : 2 ≤ (unescape c).length) : c = '%' ∨ c = '_' := by
  by_contra tame
  rw [unescape, if_neg tame] at two
  split_ifs at two <;> simp at two

/-- A text is plain when a literal goes on after it with all that was read of it. -/
lemma plainFrom_of_run (e : run (.lit st v) cs = some (.lit .inside v', []))
    (all : v'.length = v.length + st.held.length + cs.length) : PlainFrom st cs := by
  induction cs generalizing st v with
  | nil =>
    cases e
    trivial
  | cons c cs ih =>
    rw [List.length_cons] at all
    cases st with
    | inside =>
      simp only [LitState.held, List.length_nil] at all
      by_cases isQuote : c = quote
      · -- the quote would have to be doubled, and then one of the two is missing
        subst isQuote
        rw [run_cons_nil (step_quote v)] at e
        exact (ih e (by simp only [LitState.held, List.length_singleton]; omega)).elim
      · by_cases slash : c = backslash
        · subst slash
          rw [run_cons_nil (step_backslash v)] at e
          obtain ⟨wild, tail⟩ : PlainFrom .escaped cs :=
            ih e (by simp only [LitState.held, List.length_singleton]; omega)
          exact ⟨isQuote, fun _ => wild, tail⟩
        · rw [run_cons_nil (step_other isQuote slash v)] at e
          have tail : PlainFrom .inside cs :=
            ih e (by simp only [LitState.held, List.length_append, List.length_singleton, List.length_nil]; omega)
          exact ⟨isQuote, fun eq => absurd eq slash, tail⟩
    | escaped =>
      have here : step (.lit .escaped v) c = some (.lit .inside (v ++ unescape c), []) := rfl
      rw [run_cons_nil here] at e
      obtain ⟨_, _, same, -, le⟩ | ⟨_, _, none, -⟩ := run_lit e
      · -- an escaped wildcard keeps its backslash, and nothing else that is escaped is as long as it was
        cases same
        simp only [LitState.held, List.length_append, List.length_singleton, List.length_nil] at all le
        have wild := wild_of_length (c := c) (by omega)
        have two : (unescape c).length = 2 := by
          rw [unescape, if_pos wild]
          rfl
        have tail : PlainFrom .inside cs :=
          ih e (by simp only [LitState.held, List.length_append, two, List.length_nil]; omega)
        refine ⟨by simpa using wild, ?_, fun slash => ?_, tail⟩
        · rintro rfl
          exact absurd wild (by decide)
        · subst slash
          exact absurd wild (by decide)
      · cases none
    | quoted =>
      by_cases isQuote : c = quote
      · subst isQuote
        rw [run_cons_nil (step_doubled v)] at e
        obtain ⟨_, _, same, -, le⟩ | ⟨_, _, none, -⟩ := run_lit e
        · cases same
          simp only [LitState.held, List.length_append, List.length_singleton, List.length_nil] at all le
          omega
        · cases none
      · rw [run, step, if_neg isQuote] at e
        cases begun : start c with
        | none =>
          rw [begun] at e
          cases e
        | some r =>
          cases rest : run r.1 cs with
          | none => simp [begun, rest] at e
          | some q => simp [begun, rest] at e

/-- A text that leaves a literal open with as many characters as it has is plain. -/
lemma plain_of_run (e : run (.lit .inside v) cs = some (.lit .inside v', []))
    (all : v'.length = v.length + cs.length) : Plain cs := by
  have text : PlainFrom .inside cs := plainFrom_of_run e all
  exact text

/-- A text without quotes and backslashes is plain. -/
lemma plain_of_ordinary (ordinary : ∀ c ∈ cs, c ≠ quote ∧ c ≠ backslash) : Plain cs := by
  induction cs with
  | nil => trivial
  | cons c cs ih =>
    obtain ⟨noQuote, noSlash⟩ := ordinary c (List.mem_cons_self ..)
    exact ⟨noQuote, fun slash => absurd slash noSlash, ih fun d mem => ordinary d (List.mem_cons_of_mem _ mem)⟩

end Literals

section Words

variable {c : Char} {w cs : List Char} {n : Nat} {ts : List Token}

/-- The decimal digits of a number. -/
def decimal (n : Nat) : List Char := Nat.toDigits 10 n

/-- A number is written in digits. -/
lemma isDigit_of_mem_decimal (mem : c ∈ decimal n) : c.isDigit = true :=
  Nat.isDigit_of_mem_toDigits (by decide) (by decide) mem

/-- A number is written with one digit at least. -/
lemma decimal_ne_nil (n : Nat) : decimal n ≠ [] := Nat.toDigits_ne_nil

/-- The number with these digits. -/
lemma value_decimal (n : Nat) : value (.word (decimal n)) = some (.num n) := by
  have digits : (decimal n).all Char.isDigit = true := List.all_eq_true.mpr fun c mem => isDigit_of_mem_decimal mem
  rw [value, if_pos digits, decimal, Nat.ofDigitChars_ten_toDigits]

/-- Digits belong to words. -/
lemma isWordChar_of_isDigit (digit : c.isDigit = true) : isWordChar c = true := by
  simp [isWordChar, Char.isAlphanum, digit]

/-- A digit is nothing but the start of a word. -/
lemma start_digit (digit : c.isDigit = true) : start c = some (.word [c], []) := by
  have ne (d : Char) (other : d.isDigit = false) : c ≠ d := by
    rintro rfl
    rw [digit] at other
    cases other
  have space : c.isWhitespace = false := by
    simp [Char.isWhitespace, ne]
  rw [start, if_neg (ne quote rfl), if_neg (ne _ rfl), if_neg (ne _ rfl), if_neg (ne _ rfl), space,
    if_neg Bool.false_ne_true, if_pos (isWordChar_of_isDigit digit)]

/-- The characters of a word go into it. -/
lemma run_word (chars : ∀ c ∈ cs, isWordChar c = true) : run (.word w) cs = some (.word (w ++ cs), []) := by
  induction cs generalizing w with
  | nil => simp [run]
  | cons c cs ih =>
    have here : step (.word w) c = some (.word (w ++ [c]), []) := by
      rw [step, if_pos (chars c (List.mem_cons_self ..))]
    rw [run_cons_nil here, ih fun d mem => chars d (List.mem_cons_of_mem _ mem)]
    simp

/-- A number is one word. -/
lemma run_decimal (n : Nat) : run .idle (decimal n) = some (.word (decimal n), []) := by
  have digits (c : Char) (mem : c ∈ decimal n) : c.isDigit = true := isDigit_of_mem_decimal mem
  cases e : decimal n with
  | nil => exact absurd e (decimal_ne_nil n)
  | cons c cs =>
    rw [e] at digits
    have here : step .idle c = some (.word [c], []) := start_digit (digits c (List.mem_cons_self ..))
    rw [run_cons_nil here]
    exact run_word fun d mem => isWordChar_of_isDigit (digits d (List.mem_cons_of_mem _ mem))

/-- The rest of a text in a word starts with that word. -/
lemma lexFrom_word (e : lexFrom (.word w) cs = some ts) : ∃ w' ts', ts = .word w' :: ts' := by
  induction cs generalizing w with
  | nil =>
    cases e
    exact ⟨w, [], rfl⟩
  | cons c cs ih =>
    by_cases goes : isWordChar c = true
    · have here : step (.word w) c = some (.word (w ++ [c]), []) := by rw [step, if_pos goes]
      rw [lexFrom, run_cons_nil here] at e
      exact ih e
    · rw [lexFrom, run, step, if_neg goes] at e
      cases begun : start c with
      | none => simp [begun] at e
      | some r =>
        cases rest : run r.1 cs with
        | none => simp [begun, rest] at e
        | some q =>
          cases last : finish q.1 with
          | none => simp [begun, rest, last] at e
          | some ts' =>
            simp only [begun, rest, last, Option.map_some, Option.bind_some, Option.some_inj] at e
            exact ⟨w, _, e.symm⟩

end Words

section Tuples

variable {t : Token} {ts : List Token} {v : List Char} {vs : List Value} {a : Value}

/-- The tuple starts with the value of the first token. -/
lemma head_of_tuple (e : tuple (t :: ts) = some vs) : vs.head? = value t := by
  cases ts with
  | nil => cases e
  | cons t' ts =>
    cases t' with
    | word w => cases e
    | str v => cases e
    | openParen => cases e
    | closeParen =>
      cases known : value t with
      | none => simp [tuple, listOf, known] at e
      | some a =>
        cases ts with
        | nil =>
          simp only [tuple, listOf, known, Option.map_some, Option.some_inj] at e
          rw [← e, List.head?_cons]
        | cons t' ts => simp [tuple, listOf, known] at e
    | comma =>
      cases known : value t with
      | none => simp [tuple, listOf, known] at e
      | some a =>
        cases rest : listOf value ts with
        | none => simp [tuple, listOf, known, rest] at e
        | some r =>
          obtain ⟨as, more⟩ := r
          cases more with
          | nil =>
            simp only [tuple, listOf, known, rest, Option.bind_some, Option.map_some, Option.some_inj] at e
            rw [← e, List.head?_cons]
          | cons t' ts => simp [tuple, listOf, known, rest] at e

/-- A literal cannot be followed by a word. -/
lemma tuple_str_word (v w : List Char) (ts : List Token) : tuple (.str v :: .word w :: ts) = none := rfl

/-- A value before a comma is the first of its tuple. -/
lemma tuple_cons (known : value t = some a) (ts : List Token) :
    tuple (t :: .comma :: ts) = (tuple ts).map (a :: ·) := by
  rw [tuple, tuple, listOf, known]
  cases listOf value ts with
  | none => rfl
  | some r =>
    obtain ⟨as, more⟩ := r
    cases more with
    | nil => rfl
    | cons t' ts => rfl

end Tuples

end Legacy.Lib.Sql
