import Mathlib.Data.List.Infix

/-!
# Chat commands

Model of the command tables of `ChatHandler` (`src/src/game/Chat.cpp`). A table is a list of entries without
the `NULL` name that ends it, and entries refer to their sub-tables by address. Texts are C strings, given as
their bytes.

`invoked_iff` says which entry a text runs: one that the session has the rank for, reached by words that
abbreviate the names on the way.
-/

namespace Legacy.Chat

/-- An entry of a command table (source `ChatCommand`); `ι` are the addresses of tables, `H` the handlers. -/
structure ChatCommand (ι H : Type*) where
  name : List UInt8
  securityLevel : Nat
  handler : H
  childCommands : Option ι
  deriving DecidableEq, Repr

/-- What the execution of a text comes to: the answer of the function, and the entry whose handler is called with
its arguments. -/
structure Execution (ι H : Type*) where
  found : Bool
  invoked : Option (ChatCommand ι H × List UInt8)
  deriving DecidableEq, Repr

/-- What `ChatHandler::ParseCommands` returns, says and calls. -/
structure Parsed (ι H : Type*) where
  result : Nat
  sysMessage : Option String
  invoked : Option (ChatCommand ι H × List UInt8)
  deriving DecidableEq, Repr

/-- The assertions that a chat packet or an attack comes to. -/
inductive Assertion where
  /-- `ASSERT(text)` in `ChatHandler::ParseCommands`. -/
  | text
  /-- `ASSERT(*text)` in `ChatHandler::ParseCommands`. -/
  | firstChar
  /-- `ASSERT(attacker)` in `WorldSession::HandlePlayerAttackOpcode`. -/
  | attacker
  deriving DecidableEq, Repr

/-- A blank, a full stop and an exclamation mark. -/
abbrev space : UInt8 := 32

/-- The character `.`, with which a command begins. -/
abbrev dot : UInt8 := 46

/-- The character `!`, with which a command begins. -/
abbrev exclamation : UInt8 := 33

/-- Lower case of the letters of ASCII. -/
def tolower (c : UInt8) : UInt8 := if 65 ≤ c ∧ c ≤ 90 then c + 32 else c

/-- The second string abbreviates the first (source `ChatHandler::hasStringAbbr`). -/
def hasStringAbbr : List UInt8 → List UInt8 → Bool
  | _, [] => true
  | [], _ :: _ => false
  | c₁ :: s1, c₂ :: s2 => tolower c₁ = tolower c₂ && hasStringAbbr s1 s2

/-- The first word of a text. -/
def word (text : List UInt8) : List UInt8 := text.takeWhile (· ≠ space)

/-- The text after the first word and the blanks that follow it. -/
def arguments (text : List UInt8) : List UInt8 := (text.dropWhile (· ≠ space)).dropWhile (· = space)

/-- What stands behind a word is shorter than the text. -/
lemma arguments_length {text : List UInt8} (some : word text ≠ []) : (arguments text).length < text.length := by
  have split := congrArg List.length (List.takeWhile_append_dropWhile (p := (· ≠ space)) (l := text))
  have shorter := (List.dropWhile_sublist (l := text.dropWhile (· ≠ space)) (· = space)).length_le
  have first := List.length_pos_of_ne_nil some
  rw [List.length_append] at split
  rw [word] at first
  rw [arguments]
  omega

section
variable {ι H : Type*}

/-- The entry that the loop over a table ends with (source, the loop of `ChatHandler::ExecuteCommandInTable`). -/
def select (security : Nat) (cmd : List UInt8) : List (ChatCommand ι H) → Option (ChatCommand ι H)
  | [] => none
  | e :: table =>
    if e.name.length ≠ 0 && !hasStringAbbr e.name cmd then select security cmd table
    else if e.childCommands.isSome then some e
    -- the rank is not asked for on the way to a sub-table
    else if security < e.securityLevel then select security cmd table
    else some e

/-- source `ChatHandler::ExecuteCommandInTable`; the answer of a sub-table and that of a handler are dropped -/
def executeCommandInTable (tables : ι → List (ChatCommand ι H)) (security : Nat) (table : ι) (text : List UInt8) :
    Execution ι H :=
  if word text = [] then ⟨false, none⟩
  else
    match select security (word text) (tables table) with
    | none => ⟨false, none⟩
    | some e =>
      match e.childCommands with
      | some sub => ⟨true, (executeCommandInTable tables security sub (arguments text)).invoked⟩
      | none => ⟨true, some (e, if e.name.length ≠ 0 then arguments text else text)⟩
termination_by text.length
decreasing_by exact arguments_length ‹_›

/-- A text that starts like a command and is not a line of dots (source, the guards of
`ChatHandler::ParseCommands`). -/
def startsCommand (text : List UInt8) : Bool :=
  (text.head? = some exclamation || text.head? = some dot) && !(text.length < 2) &&
    !(text.take 2 = [dot, dot] || text.take 2 = [exclamation, exclamation])

/-- source `ChatHandler::ParseCommands`; `none` is the null pointer -/
def parseCommands (tables : ι → List (ChatCommand ι H)) (root : ι) (security : Nat) :
    Option (List UInt8) → Except Assertion (Parsed ι H)
  | none => .error .text
  | some text =>
    if text = [] then .error .firstChar
    else if !startsCommand text then .ok ⟨0, none, none⟩
    else
      let executed := executeCommandInTable tables security root text.tail
      .ok ⟨1, if executed.found then none else some "Command not found.", executed.invoked⟩

/-- A word stands for the name of an entry: it is a prefix of it, letter case aside, or the name is empty. -/
def ChatCommand.Answers (e : ChatCommand ι H) (cmd : List UInt8) : Prop :=
  e.name = [] ∨ cmd.map tolower <+: e.name.map tolower

/-- An entry of the table that the word stands for; the entries before it that it stands for as well are
commands above the rank of the session. -/
def Chosen (security : Nat) (cmd : List UInt8) (table : List (ChatCommand ι H)) (e : ChatCommand ι H) : Prop :=
  ∃ before after, table = before ++ e :: after ∧ e.Answers cmd ∧
    ∀ e' ∈ before, e'.Answers cmd → e'.childCommands = none ∧ security < e'.securityLevel

/-- The words of a text lead from a table to a command with its arguments. -/
inductive Leads (tables : ι → List (ChatCommand ι H)) (security : Nat) :
    ι → List UInt8 → ChatCommand ι H → List UInt8 → Prop
  | command {table text e} :
    word text ≠ [] →
    Chosen security (word text) (tables table) e →
    e.childCommands = none →
    Leads tables security table text e (if e.name.length ≠ 0 then arguments text else text)
  | table {table text e sub e' args} :
    word text ≠ [] →
    Chosen security (word text) (tables table) e →
    e.childCommands = some sub →
    Leads tables security sub (arguments text) e' args →
    Leads tables security table text e' args

variable {tables : ι → List (ChatCommand ι H)} {security : Nat} {cmd text args : List UInt8} {t : ι}
  {e : ChatCommand ι H} {table : List (ChatCommand ι H)}

/-- An abbreviation is a prefix, letter case aside. -/
lemma hasStringAbbr_iff {s1 s2 : List UInt8} :
    hasStringAbbr s1 s2 = true ↔ s2.map tolower <+: s1.map tolower := by
  fun_induction hasStringAbbr s1 s2 with
  | case1 s1 => exact iff_of_true rfl List.nil_prefix
  | case2 c₂ s2 =>
    exact iff_of_false Bool.false_ne_true fun prefixed => List.cons_ne_nil _ _ (List.prefix_nil.mp prefixed)
  | case3 c₁ s1 c₂ s2 ih =>
    rw [Bool.and_eq_true, decide_eq_true_iff, ih, List.map_cons, List.map_cons, List.cons_prefix_cons, eq_comm]

/-- The loop goes past the entries that do not answer. -/
lemma skips_iff : (e.name.length ≠ 0 && !hasStringAbbr e.name cmd) = true ↔ ¬e.Answers cmd := by
  rw [ChatCommand.Answers, ← hasStringAbbr_iff, not_or]
  simp

/-- The chosen entry is the first one, or is chosen after it. -/
lemma chosen_cons {a : ChatCommand ι H} : Chosen security cmd (a :: table) e ↔
    (a = e ∧ e.Answers cmd) ∨
      ((a.Answers cmd → a.childCommands = none ∧ security < a.securityLevel) ∧ Chosen security cmd table e) := by
  constructor
  · intro chosen
    obtain ⟨before, after, split, answers, passed⟩ := chosen
    cases before with
    | nil => exact Or.inl ⟨(List.cons.inj split).1, answers⟩
    | cons b before =>
      obtain ⟨rfl, rest⟩ := List.cons.inj split
      refine Or.inr ⟨passed a List.mem_cons_self, before, after, rest, answers, fun e' mem => ?_⟩
      exact passed e' (List.mem_cons_of_mem _ mem)
  · intro first
    obtain ⟨rfl, answers⟩ | ⟨skipped, before, after, rfl, answers, passed⟩ := first
    · exact ⟨[], table, rfl, answers, fun e' mem => absurd mem List.not_mem_nil⟩
    · refine ⟨a :: before, after, rfl, answers, fun e' mem => ?_⟩
      rcases List.mem_cons.mp mem with rfl | mem
      · exact skipped
      · exact passed e' mem

/-- The loop over a table ends with the entry that the word chooses, if the session has the rank for it. -/
lemma select_eq_some : select security cmd table = some e ↔
    Chosen security cmd table e ∧ (e.childCommands = none → e.securityLevel ≤ security) := by
  fun_induction select security cmd table with
  | case1 =>
    refine iff_of_false (fun found => absurd found.symm (Option.some_ne_none _)) ?_
    rintro ⟨⟨before, after, split, -⟩, -⟩
    cases before <;> cases split
  | case2 a table skips ih =>
    have other := skips_iff.mp skips
    rw [ih, chosen_cons]
    refine and_congr_left fun _ => ⟨fun chosen => Or.inr ⟨fun answers => absurd answers other, chosen⟩, fun first => ?_⟩
    rcases first with ⟨rfl, answers⟩ | ⟨-, chosen⟩
    · exact absurd answers other
    · exact chosen
  | case3 a table answers sub =>
    have here := not_not.mp (mt skips_iff.mpr answers)
    have some := Option.isSome_iff_ne_none.mp sub
    constructor
    · intro found
      cases found
      exact ⟨chosen_cons.mpr (Or.inl ⟨rfl, here⟩), fun none => absurd none some⟩
    · rintro ⟨chosen, -⟩
      rcases chosen_cons.mp chosen with ⟨rfl, -⟩ | ⟨skipped, -⟩
      · rfl
      · exact absurd (skipped here).1 some
  | case4 a table answers leaf above ih =>
    have none := Option.not_isSome_iff_eq_none.mp leaf
    rw [ih, chosen_cons]
    constructor
    · rintro ⟨chosen, permitted⟩
      exact ⟨Or.inr ⟨fun _ => ⟨none, above⟩, chosen⟩, permitted⟩
    · rintro ⟨⟨rfl, -⟩ | ⟨-, chosen⟩, permitted⟩
      · exact absurd (permitted none) (Nat.not_le.mpr above)
      · exact ⟨chosen, permitted⟩
  | case5 a table answers leaf permitted =>
    have here := not_not.mp (mt skips_iff.mpr answers)
    constructor
    · intro found
      cases found
      exact ⟨chosen_cons.mpr (Or.inl ⟨rfl, here⟩), fun _ => Nat.not_lt.mp permitted⟩
    · rintro ⟨chosen, -⟩
      rcases chosen_cons.mp chosen with ⟨rfl, -⟩ | ⟨skipped, -⟩
      · rfl
      · exact absurd (skipped here).2 permitted

/-- What a text runs in a table. -/
lemma executeCommandInTable_invoked : (executeCommandInTable tables security t text).invoked = some (e, args) ↔
    Leads tables security t text e args ∧ e.securityLevel ≤ security := by
  constructor
  · fun_induction executeCommandInTable tables security t text with
    | case1 => intro invoked; cases invoked
    | case2 => intro invoked; cases invoked
    | case3 t text some e₁ found sub child ih =>
      intro invoked
      obtain ⟨leads, permitted⟩ := ih invoked
      exact ⟨Leads.table some (select_eq_some.mp found).1 child leads, permitted⟩
    | case4 t text some e₁ found leaf =>
      intro invoked
      cases invoked
      obtain ⟨chosen, permitted⟩ := select_eq_some.mp found
      exact ⟨Leads.command some chosen leaf, permitted leaf⟩
  · rintro ⟨leads, permitted⟩
    induction leads with
    | command some chosen leaf =>
      rw [executeCommandInTable, if_neg some, select_eq_some.mpr ⟨chosen, fun _ => permitted⟩]
      simp [leaf]
    | table some chosen child _ ih =>
      have found := select_eq_some.mpr ⟨chosen, fun none => absurd (child.symm.trans none) (Option.some_ne_none _)⟩
      rw [executeCommandInTable, if_neg some, found]
      simp [child, ih permitted]

/-- What a line of chat runs. -/
def Parsed.runs (parsed : Except Assertion (Parsed ι H)) : Option (ChatCommand ι H × List UInt8) :=
  match parsed with
  | .ok parsed => parsed.invoked
  | .error _ => none

/-- A text runs a command, in a table or as a line of chat, exactly if the session has the rank of that command
and the words of the text lead to it: each word on the way stands for an entry, and the entries that it passes
over though it stands for them are commands above the rank of the session. A line of chat has to start like a
command. -/
theorem invoked_iff (tables : ι → List (ChatCommand ι H)) (root : ι) (security : Nat) (text : List UInt8)
    (e : ChatCommand ι H) (args : List UInt8) :
    ((executeCommandInTable tables security root text).invoked = some (e, args) ↔
      Leads tables security root text e args ∧ e.securityLevel ≤ security) ∧
    (Parsed.runs (parseCommands tables root security (some text)) = some (e, args) ↔
      startsCommand text = true ∧ Leads tables security root text.tail e args ∧ e.securityLevel ≤ security) := by
  refine ⟨executeCommandInTable_invoked, ?_⟩
  rw [parseCommands, ← executeCommandInTable_invoked]
  split
  · next empty =>
    subst empty
    exact iff_of_false (fun none => absurd none.symm (Option.some_ne_none _)) fun starts => Bool.false_ne_true starts.1
  · split
    · next other =>
      refine iff_of_false (fun none => absurd none.symm (Option.some_ne_none _)) fun starts => ?_
      rw [starts.1] at other
      exact Bool.false_ne_true other
    · next starts =>
      have starts : startsCommand text = true := by simpa using starts
      exact (and_iff_right starts).symm

end

end Legacy.Chat
