import Legacy.Chat.Commands

/-!
# The arrays of chat commands

The tables of `ChatHandler::getCommandTable` (`src/src/game/Chat.cpp`) as the arrays that they are, and the loop of
`ChatHandler::ExecuteCommandInTable` with its reads: an entry whose name is `NULL` ends it, and nothing else does.
`contained_of_terminated` says that such an entry in every table keeps the search inside; no table has one, and
`contained_iff` says for which texts the search stays inside all the same.
-/

namespace Legacy.Chat

section
variable {ι H : Type*}

/-- The loop over an array, in which `none` is an entry without a name: the entry that it ends with, `some none` if
that one has no name, and `none` if the loop reads beyond the array. -/
def search (security : Nat) (cmd : List UInt8) :
    List (Option (ChatCommand ι H)) → Option (Option (ChatCommand ι H))
  | [] => none
  | none :: _ => some none
  | some e :: rows =>
    if e.name.length ≠ 0 && !hasStringAbbr e.name cmd then search security cmd rows
    else if e.childCommands.isSome then some (some e)
    else if security < e.securityLevel then search security cmd rows
    else some (some e)

/-- source `ChatHandler::ExecuteCommandInTable`, on arrays; `none` is a read beyond one -/
def executeInArray (arrays : ι → List (Option (ChatCommand ι H))) (security : Nat) (table : ι) (text : List UInt8) :
    Option (Execution ι H) :=
  if word text = [] then some ⟨false, none⟩
  else
    match search security (word text) (arrays table) with
    | none => none
    | some none => some ⟨false, none⟩
    | some (some e) =>
      match e.childCommands with
      | some sub => (executeInArray arrays security sub (arguments text)).map fun run => ⟨true, run.invoked⟩
      | none => some ⟨true, some (e, if e.name.length ≠ 0 then arguments text else text)⟩
termination_by text.length
decreasing_by exact arguments_length ‹_›

/-- The entries of an array before the one that ends it. -/
def entries : List (Option (ChatCommand ι H)) → List (ChatCommand ι H)
  | [] => []
  | none :: _ => []
  | some e :: rows => e :: entries rows

/-- What the loop over an array comes to, next to what is selected from the entries. -/
inductive Ends (security : Nat) (cmd : List UInt8) (rows : List (Option (ChatCommand ι H))) :
    Option (Option (ChatCommand ι H)) → Prop
  | found {e} : select security cmd (entries rows) = some e → Ends security cmd rows (some (some e))
  | terminated : select security cmd (entries rows) = none → none ∈ rows → Ends security cmd rows (some none)
  | beyond : select security cmd (entries rows) = none → none ∉ rows → Ends security cmd rows none

variable {arrays : ι → List (Option (ChatCommand ι H))} {security : Nat} {cmd text : List UInt8} {t : ι}
  {e : ChatCommand ι H} {rows : List (Option (ChatCommand ι H))} {result : Option (Option (ChatCommand ι H))}
  {run : Execution ι H}

/-- A search that ends has found what its table selects. -/
lemma Ends.eq_found (ends : Ends security cmd rows result) (selected : select security cmd (entries rows) = some e) :
    result = some (some e) := by
  cases ends with
  | found selected' => rw [Option.some.inj (selected'.symm.trans selected)]
  | terminated missing | beyond missing => cases missing.symm.trans selected

/-- An entry that is passed changes nothing. -/
lemma Ends.cons {a : ChatCommand ι H}
    (passed : select security cmd (a :: entries rows) = select security cmd (entries rows))
    (ends : Ends security cmd rows result) : Ends security cmd (some a :: rows) result := by
  cases ends with
  | found selected => exact .found (passed.trans selected)
  | terminated missing mem => exact .terminated (passed.trans missing) (List.mem_cons_of_mem _ mem)
  | beyond missing absent =>
    refine .beyond (passed.trans missing) fun mem => ?_
    rcases List.mem_cons.mp mem with eq | mem
    · cases eq
    · exact absent mem

/-- The loop finds what is selected, ends with an entry without a name or leaves the array. -/
lemma search_ends (security : Nat) (cmd : List UInt8) (rows : List (Option (ChatCommand ι H))) :
    Ends security cmd rows (search security cmd rows) := by
  fun_induction search security cmd rows with
  | case1 => exact .beyond rfl List.not_mem_nil
  | case2 rows => exact .terminated rfl List.mem_cons_self
  | case3 a rows skips ih => exact ih.cons (by rw [select, if_pos skips])
  | case4 a rows answers sub => exact .found (by rw [entries, select, if_neg answers, if_pos sub])
  | case5 a rows answers leaf above ih => exact ih.cons (by rw [select, if_neg answers, if_neg leaf, if_pos above])
  | case6 a rows answers leaf permitted =>
    exact .found (by rw [entries, select, if_neg answers, if_neg leaf, if_neg permitted])

/-- What the loop finds is what is selected. -/
lemma select_of_found (found : search security cmd rows = some (some e)) :
    select security cmd (entries rows) = some e := by
  have ends := search_ends security cmd rows
  rw [found] at ends
  cases ends with
  | found selected => exact selected

/-- The loop ends without an entry at one without a name, and nothing is selected. -/
lemma select_of_ended (ended : search security cmd rows = some none) :
    select security cmd (entries rows) = none ∧ none ∈ rows := by
  have ends := search_ends security cmd rows
  rw [ended] at ends
  cases ends with
  | terminated missing mem => exact ⟨missing, mem⟩

/-- A search that stays inside the arrays is the one of their entries. -/
lemma executeInArray_eq (inside : executeInArray arrays security t text = some run) :
    run = executeCommandInTable (fun t => entries (arrays t)) security t text := by
  fun_induction executeInArray arrays security t text generalizing run with
  | case1 t text noWord =>
    rw [executeCommandInTable, if_pos noWord]
    exact (Option.some.inj inside).symm
  | case2 => cases inside
  | case3 t text some_ ended =>
    rw [executeCommandInTable, if_neg some_, (select_of_ended ended).1]
    exact (Option.some.inj inside).symm
  | case4 t text some_ e found sub child ih =>
    obtain ⟨inner, here, rfl⟩ := Option.map_eq_some_iff.mp inside
    rw [executeCommandInTable, if_neg some_, select_of_found found]
    simp only [child, ih here]
  | case5 t text some_ e found leaf =>
    rw [executeCommandInTable, if_neg some_, select_of_found found]
    simp only [leaf]
    exact (Option.some.inj inside).symm

/-- With an entry that ends it in every array, every search stays inside. -/
theorem contained_of_terminated (arrays : ι → List (Option (ChatCommand ι H))) (terminated : ∀ t, none ∈ arrays t)
    (security : Nat) (t : ι) (text : List UInt8) : (executeInArray arrays security t text).isSome := by
  fun_induction executeInArray arrays security t text with
  | case1 => rfl
  | case2 t text some_ left =>
    have ends := search_ends security (word text) (arrays t)
    rw [left] at ends
    cases ends with
    | beyond _ absent => exact absurd (terminated t) absent
  | case3 => rfl
  | case4 t text some_ e found sub child ih => rwa [Option.isSome_map]
  | case5 => rfl

/-- Each word of a text stands for an entry of the table that it is looked up in, a sub-table or a command that the
session has the rank for, until a command is reached or the words run out. -/
inductive Matched (tables : ι → List (ChatCommand ι H)) (security : Nat) : ι → List UInt8 → Prop
  | done {table text} :
    word text = [] →
    Matched tables security table text
  | command {table text e} :
    word text ≠ [] →
    Chosen security (word text) (tables table) e →
    e.childCommands = none →
    e.securityLevel ≤ security →
    Matched tables security table text
  | table {table text e sub} :
    word text ≠ [] →
    Chosen security (word text) (tables table) e →
    e.childCommands = some sub →
    Matched tables security sub (arguments text) →
    Matched tables security table text

/-- Without an entry that ends it, a search stays inside only where it finds something. -/
lemma executeInArray_isSome_iff (unterminated : ∀ t, none ∉ arrays t) :
    (executeInArray arrays security t text).isSome ↔ Matched (fun t => entries (arrays t)) security t text := by
  constructor
  · fun_induction executeInArray arrays security t text with
    | case1 t text noWord => exact fun _ => Matched.done noWord
    | case2 => intro inside; cases inside
    | case3 t text some_ ended => exact absurd (select_of_ended ended).2 (unterminated t)
    | case4 t text some_ e found sub child ih =>
      intro inside
      rw [Option.isSome_map] at inside
      have chosen := (select_eq_some.mp (select_of_found found)).1
      exact Matched.table some_ chosen child (ih inside)
    | case5 t text some_ e found leaf =>
      intro _
      obtain ⟨chosen, permitted⟩ := select_eq_some.mp (select_of_found found)
      exact Matched.command some_ chosen leaf (permitted leaf)
  · intro matched
    induction matched with
    | done noWord => rw [executeInArray, if_pos noWord, Option.isSome_some]
    | command some_ chosen leaf permitted =>
      have found := (search_ends ..).eq_found (select_eq_some.mpr ⟨chosen, fun _ => permitted⟩)
      rw [executeInArray, if_neg some_, found]
      simp only [leaf, Option.isSome_some]
    | table some_ chosen child _ ih =>
      have found := (search_ends ..).eq_found (select_eq_some.mpr
        ⟨chosen, fun leaf => absurd (child.symm.trans leaf) (Option.some_ne_none _)⟩)
      rw [executeInArray, if_neg some_, found]
      simp only [child, Option.isSome_map]
      exact ih

end

/-- The arrays of `ChatHandler::getCommandTable`. -/
inductive CommandTable where
  | debugCommandTable | lookupCommandTable | npcCommandTable | petCommandTable | itemCommandTable
  | vendorCommandTable | commandTable
  deriving DecidableEq, Repr

/-- The handlers of the commands. -/
inductive CommandHandler where
  | handleGetItemState | handleLookupAreaCommand | handleLookupNpcCommand | handleLookupItemCommand
  | handleNpcTalkCommand | handleNpcInfoCommand | handleNpcAddCommand | handleNpcDeleteCommand | handleNpcEditCommand
  | handlePetAddCommand | handlePetReleaseCommand | handleItemAddCommand | handleVendorAddItemCommand
  | handleVendorDelItemCommand | handleWarpCommand | handleUnstuckCommand | handleChangeLevelCommand
  | handleChangeLevelPetCommand | handleSaveCommand | handleRestCommand | handleSaveAllCommand | handleBanCommand
  | handleUnBanCommand | handleLevelUpCommand | handleModifyGoldCommand | handlePasswordCommand
  deriving DecidableEq, Repr

/-- source `SEC_PLAYER` to `SEC_ADMINISTRATOR` -/
abbrev secPlayer : Nat := 0

/-- source `SEC_MODERATOR` -/
abbrev secModerator : Nat := 1

/-- source `SEC_GAMEMASTER` -/
abbrev secGamemaster : Nat := 2

/-- source `SEC_ADMINISTRATOR` -/
abbrev secAdministrator : Nat := 3

/-- The entry of a command. -/
def command (name : String) (securityLevel : Nat) (handler : CommandHandler) :
    Option (ChatCommand CommandTable (Option CommandHandler)) :=
  some ⟨name.toUTF8.data.toList, securityLevel, some handler, none⟩

/-- The entry of a sub-table. -/
def subTable (name : String) (securityLevel : Nat) (childCommands : CommandTable) :
    Option (ChatCommand CommandTable (Option CommandHandler)) :=
  some ⟨name.toUTF8.data.toList, securityLevel, none, some childCommands⟩

/-- source `ChatHandler::getCommandTable` -/
def getCommandTable : CommandTable → List (Option (ChatCommand CommandTable (Option CommandHandler)))
  | .debugCommandTable => [command "getitemstate" secAdministrator .handleGetItemState]
  | .lookupCommandTable =>
    [command "area" secModerator .handleLookupAreaCommand,
      command "npc" secModerator .handleLookupNpcCommand,
      command "item" secModerator .handleLookupItemCommand]
  | .npcCommandTable =>
    [command "talk" secGamemaster .handleNpcTalkCommand,
      command "info" secGamemaster .handleNpcInfoCommand,
      command "add" secGamemaster .handleNpcAddCommand,
      command "del" secGamemaster .handleNpcDeleteCommand,
      command "edit" secGamemaster .handleNpcEditCommand]
  | .petCommandTable =>
    [command "add" secGamemaster .handlePetAddCommand,
      command "release" secGamemaster .handlePetReleaseCommand]
  | .itemCommandTable => [command "add" secGamemaster .handleItemAddCommand]
  | .vendorCommandTable =>
    [command "add" secGamemaster .handleVendorAddItemCommand,
      command "del" secGamemaster .handleVendorDelItemCommand]
  | .commandTable =>
    [subTable "debug" secModerator .debugCommandTable,
      subTable "lookup" secGamemaster .lookupCommandTable,
      subTable "npc" secGamemaster .npcCommandTable,
      subTable "item" secGamemaster .itemCommandTable,
      subTable "pet" secGamemaster .petCommandTable,
      subTable "vendor" secGamemaster .vendorCommandTable,
      command "warp" secGamemaster .handleWarpCommand,
      command "unstuck" secPlayer .handleUnstuckCommand,
      command "changelevel" secGamemaster .handleChangeLevelCommand,
      command "changelevelpet" secGamemaster .handleChangeLevelPetCommand,
      command "save" secPlayer .handleSaveCommand,
      command "rest" secPlayer .handleRestCommand,
      command "saveall" secGamemaster .handleSaveAllCommand,
      command "ban" secAdministrator .handleBanCommand,
      command "unban" secAdministrator .handleUnBanCommand,
      command "levelup" secAdministrator .handleLevelUpCommand,
      command "gold" secModerator .handleModifyGoldCommand,
      command "password" secPlayer .handlePasswordCommand]

/-- No table ends with an entry without a name. -/
lemma none_not_mem_getCommandTable (t : CommandTable) : none ∉ getCommandTable t := by
  cases t <;> simp [getCommandTable, command, subTable]

/-- The search for a text stays inside the tables exactly if each of its words stands, in the table that it is
looked up in, for a sub-table or for a command that the session has the rank for, until a command is reached or the
words run out. -/
theorem contained_iff (security : Nat) (t : CommandTable) (text : List UInt8) :
    (executeInArray getCommandTable security t text).isSome ↔
      Matched (fun t => entries (getCommandTable t)) security t text :=
  executeInArray_isSome_iff none_not_mem_getCommandTable

/-- The text `z` stands for no command, so the loop goes on behind the last one. -/
theorem not_contained :
    ¬∀ (security : Nat) (text : List UInt8), (executeInArray getCommandTable security .commandTable text).isSome := by
  intro contained
  have inside := contained 0 [122]
  have beyond : executeInArray getCommandTable 0 .commandTable [122] = none := by
    have missing : search 0 (word [122]) (getCommandTable .commandTable) = none := by decide
    rw [executeInArray, if_neg (by decide), missing]
  rw [beyond] at inside
  cases inside

end Legacy.Chat
