import Legacy.Config.Sources
import Legacy.Config.Pointers

/-!
# Loading a configuration

The class `Config` (`src/src/shared/Config/Config.cpp`) looks up the settings that `setContent` has read. The module
shows that a lookup finds the value that the file spells for a name.
-/

namespace Legacy

/-- Source `Config`, whose only member is the document. -/
structure Config where
  mConf : Option Config.DOTCONFDocument

namespace Config

/-- Source `DOTCONFDocument::DOTCONFDocument`. -/
def newDocument (caseSensitive : Bool) : DOTCONFDocument :=
  ⟨⟨caseSensitive, none, none, 0, [], [], [], []⟩, false, [], [], false⟩

/-- Source `atoi`, on a number that fits in an `int`. -/
def atoi (text : Word) : Int :=
  let text := text.dropWhile isspace
  let digits (text : Word) : Nat := (text.takeWhile Char.isDigit).foldl (fun n c => 10 * n + (c.toNat - 48)) 0
  match text with
  | '-' :: rest => -(digits rest)
  | '+' :: rest => digits rest
  | rest => digits rest

/-- Source `Config::SetSource`. -/
def setSource (io : System) (file : Word) (ignorecase : Bool) (rounds : Nat) : Except Stop (Config × Bool) :=
  ((newDocument !ignorecase).setContent io file rounds).map fun (d, ret) =>
    if ret = -1 then (⟨none⟩, false) else (⟨some d⟩, true)

/-- Source `Config::GetString`. -/
def getString (c : Config) (name : Word) : Option Word :=
  c.mConf.bind fun d => ((d.findNode name none none).bind (d.nodeTree[·]?)).bind fun node => node.getValue 0

/-- Source `Config::GetStringDefault`. -/
def getStringDefault (c : Config) (name dflt : Word) : Word := (c.getString name).getD dflt

/-- Source `Config::GetBool`. -/
def getBool (c : Config) (name : Word) : Option Bool := (c.getString name).map fun str =>
  str = "true".toList || str = "TRUE".toList || str = "yes".toList || str = "YES".toList || str = "1".toList

/-- Source `Config::GetBoolDefault`. -/
def getBoolDefault (c : Config) (name : Word) (dflt : Bool) : Bool := (c.getBool name).getD dflt

/-- Source `Config::GetInt`. -/
def getInt (c : Config) (name : Word) : Option Int := (c.getString name).map atoi

/-- Source `Config::GetIntDefault`. -/
def getIntDefault (c : Config) (name : Word) (dflt : Int) : Int := (c.getInt name).getD dflt

section Lookups

variable {io : System} {c : Config} {file name str : Word} {ignorecase : Bool} {rounds : Nat}

/-- A configuration that could not be loaded has no settings. -/
lemma getString_failed (failed : setSource io file ignorecase rounds = .ok (c, false)) : c.getString name = none := by
  rw [setSource] at failed
  cases run : (newDocument !ignorecase).setContent io file rounds with
  | error stop =>
    rw [run] at failed
    cases failed
  | ok result =>
    rw [run] at failed
    dsimp only [Except.map] at failed
    split_ifs at failed
    · cases failed
      rfl
    · cases failed

/-- Without a value every lookup answers with its default. -/
lemma defaults_of_missing (missing : c.getString name = none) (s : Word) (b : Bool) (n : Int) :
    c.getStringDefault name s = s ∧ c.getBoolDefault name b = b ∧ c.getIntDefault name n = n := by
  refine ⟨?_, ?_, ?_⟩
  · rw [getStringDefault, missing]
    rfl
  · rw [getBoolDefault, getBool, missing]
    rfl
  · rw [getIntDefault, getInt, missing]
    rfl

/-- With a value no lookup answers with its default: a Boolean setting is true when its value is one of five texts. -/
lemma defaults_of_found (found : c.getString name = some str) (s : Word) (b : Bool) (n : Int) :
    c.getStringDefault name s = str ∧
      (c.getBoolDefault name b = true ↔ String.ofList str ∈ ["true", "TRUE", "yes", "YES", "1"]) ∧
      c.getIntDefault name n = atoi str := by
  refine ⟨?_, ?_, ?_⟩
  · rw [getStringDefault, found]
    rfl
  · have text (t : String) : String.ofList str = t ↔ str = t.toList := by
      refine ⟨?_, ?_⟩
      · rintro rfl
        exact String.toList_ofList.symm
      · rintro rfl
        exact String.ofList_toList
    rw [getBoolDefault, getBool, found, Option.map_some, Option.getD_some]
    simp only [Bool.or_eq_true, decide_eq_true_eq, List.mem_cons, List.not_mem_nil, or_false, text, or_assoc]
  · rw [getIntDefault, getInt, found]
    rfl

end Lookups

/-- Two names are the same for a configuration. -/
def sameText (ignorecase : Bool) (a b : Word) : Bool :=
  if ignorecase then a.map Char.toLower = b.map Char.toLower else a = b

/-- The entries have no macro and include no file. -/
def Entries.Settled (same : Word → Word → Bool) : Entries → Prop
  | nil => True
  | setting _ name values rest =>
    same "DOTCONFPPIncludeFile".toList name = false ∧ (∀ v ∈ values, hasMacro v = false) ∧ rest.Settled same
  | tag _ _ name values body rest =>
    same "DOTCONFPPIncludeFile".toList name = false ∧ (∀ v ∈ values, hasMacro v = false) ∧ body.Settled same ∧
      rest.Settled same

section Settled

variable {io : System} {d : NodeTree} {e : Entries} {fileName : Word} {i k : Nat} {parent prev : Option Nat}
  {node : DOTCONFDocumentNode} {same : Word → Word → Bool} {indices : List Nat}

/-- Each node of settled entries is settled. -/
lemma settled_of_mem (settled : e.Settled same) (mem : node ∈ e.flatten fileName i parent prev) :
    same "DOTCONFPPIncludeFile".toList node.name = false ∧ ∀ v ∈ node.values, hasMacro v = false := by
  induction e generalizing i parent prev with
  | nil => cases mem
  | setting line name values rest ih =>
    obtain ⟨noInclude, noMacro, rest_settled⟩ := settled
    rcases List.mem_cons.mp mem with rfl | mem
    · exact ⟨noInclude, noMacro⟩
    · exact ih rest_settled mem
  | tag line closing name values body rest ihBody ihRest =>
    obtain ⟨noInclude, noMacro, body_settled, rest_settled⟩ := settled
    rcases List.mem_cons.mp mem with rfl | mem
    · exact ⟨noInclude, noMacro⟩
    · rcases List.mem_append.mp mem with mem | mem
      · exact ihBody body_settled mem
      · exact ihRest rest_settled mem

/-- Values without a macro stay as they are. -/
lemma checkValues_clean (there : d.nodeTree[k]? = some node) (clean : ∀ v ∈ node.values, hasMacro v = false) :
    checkValues io d k indices = (d, 0) := by
  induction indices with
  | nil => rfl
  | cons vi indices ih =>
    rw [checkValues, there, Option.bind_some]
    cases value : node.values[vi]? with
    | none => rfl
    | some text =>
      dsimp only
      rw [clean text (List.mem_of_getElem? value), ih]
      rfl

/-- Closed nodes without macros are accepted as they are. -/
lemma checkNodes_clean (clean : ∀ node ∈ d.nodeTree, node.closed = true ∧ ∀ v ∈ node.values, hasMacro v = false) :
    checkNodes io d indices = (d, 0) := by
  induction indices with
  | nil => rfl
  | cons k indices ih =>
    rw [checkNodes]
    cases there : d.nodeTree[k]? with
    | none => rfl
    | some node =>
      obtain ⟨closed, noMacro⟩ := clean node (List.mem_of_getElem? there)
      dsimp only
      rw [closed, checkValues_clean there noMacro]
      exact ih

/-- Without an include no other file is read. -/
lemma includeNodes_clean {d : DOTCONFDocument} {ret : Int} {rounds : Nat}
    (clean : ∀ node ∈ d.nodeTree, d.sameName "DOTCONFPPIncludeFile".toList node.name = false)
    (inside : i ≤ d.nodeTree.length) (enough : d.nodeTree.length < i + rounds) :
    d.includeNodes io ret i rounds = .ok (d, ret) := by
  induction rounds generalizing i with
  | zero => exact absurd enough (Nat.not_lt_of_le inside)
  | succ rounds ih =>
    rw [DOTCONFDocument.includeNodes]
    cases there : d.nodeTree[i]? with
    | none => rfl
    | some node =>
      dsimp only
      rw [clean node (List.mem_of_getElem? there)]
      have lt := (List.getElem?_eq_some_iff.mp there).1
      exact ih lt (by omega)

end Settled

/-- The document when a file was read, and no other. -/
def loaded (ignorecase : Bool) (path : Word) (e : Entries) (curLine : Nat) : DOTCONFDocument :=
  ⟨⟨!ignorecase, none, e.last 0 none, curLine, e.flatten path 0 none none, [path], path, []⟩, false, [], [], false⟩

section Reads

variable {io : System} {e : Entries} {lines : List TextLine} {file path name : Word} {ignorecase : Bool}
  {rounds curLine : Nat}

/-- A new document reads the entries of its file. -/
lemma parseFile_newDocument (whole : Whole lines) (spelled : grouped [] 0 lines = e.lines) (proper : e.Proper) :
    { newDocument (!ignorecase) with fileName := path, processedFiles := [path] }.parseFile
      (lines.flatMap TextLine.text) = some (loaded ignorecase path e lines.length, 0) := by
  rw [parseFile_lines ⟨rfl, fun _ => rfl, fun some_node => absurd rfl some_node⟩ rfl rfl whole spelled proper]
  cases e <;> rfl

/-- A document compares names as it was told to. -/
lemma sameName_loaded : (loaded ignorecase path e curLine).sameName = sameText ignorecase := by
  funext a b
  rw [NodeTree.sameName, sameText, loaded]
  cases ignorecase <;> rfl

/-- A setting is looked up as its file spells it. -/
lemma getString_loaded : getString ⟨some (loaded ignorecase path e curLine)⟩ name =
    (e.lookup (sameText ignorecase name)).bind List.head? := by
  have found : _ = e.lookup ((loaded ignorecase path e curLine).sameName name) := findNode_lookup rfl
  rw [sameName_loaded] at found
  rw [← found, getString, Option.bind_some]
  cases ((loaded ignorecase path e curLine).findNode name none none).bind _ with
  | none => rfl
  | some node => exact List.head?_eq_getElem?.symm

/-- A setting that a file does not have outside all tags is answered with the default. -/
lemma defaults_loaded (absent : e.lookup (sameText ignorecase name) = none) (s : Word) (b : Bool) (n : Int) :
    getStringDefault ⟨some (loaded ignorecase path e curLine)⟩ name s = s ∧
      getBoolDefault ⟨some (loaded ignorecase path e curLine)⟩ name b = b ∧
      getIntDefault ⟨some (loaded ignorecase path e curLine)⟩ name n = n := by
  apply defaults_of_missing
  rw [getString_loaded, absent]
  rfl

/-- Nothing is substituted in settled entries. -/
lemma check_loaded (settled : e.Settled (sameText ignorecase)) :
    (loaded ignorecase path e curLine).check io 0 = (loaded ignorecase path e curLine, 0) := by
  have clean : checkConfig io (loaded ignorecase path e curLine).toNodeTree 0 =
      ((loaded ignorecase path e curLine).toNodeTree, 0) :=
    checkNodes_clean fun _ mem => ⟨closed_of_mem_flatten mem, (settled_of_mem settled mem).2⟩
  rw [DOTCONFDocument.check, clean]
  rfl

/-- Settled entries include no file. -/
lemma includeNodes_loaded (settled : e.Settled (sameText ignorecase)) (enough : e.size < rounds) :
    (loaded ignorecase path e curLine).includeNodes io 0 0 rounds = .ok (loaded ignorecase path e curLine, 0) := by
  refine includeNodes_clean (fun node mem => ?_) (Nat.zero_le _) ?_
  · rw [sameName_loaded]
    exact (settled_of_mem settled mem).1
  · rw [Nat.zero_add]
    exact lt_of_eq_of_lt length_flatten enough

/-- A setting, a tag with a setting in it, and a setting with a quoted value and the name of the one in the tag. -/
def nestedLines : List TextLine :=
  [⟨false, ['a', '=', '1', '\n'], [['a'], ['1']],
      .mk (.bare (by decide) .nil) (.word (by decide) (.bare (by decide) .nil) .newline), by decide⟩,
    ⟨false, ['<', 't', '>', '\n'], [['<', 't', '>']],
      .mk (.bare (by decide) (.bare (by decide) (.bare (by decide) .nil))) .newline, by decide⟩,
    ⟨false, ['b', '=', '2', '\n'], [['b'], ['2']],
      .mk (.bare (by decide) .nil) (.word (by decide) (.bare (by decide) .nil) .newline), by decide⟩,
    ⟨false, ['<', '/', 't', '>', '\n'], [['<', '/', 't', '>']],
      .mk (.bare (by decide) (.bare (by decide) (.bare (by decide) (.bare (by decide) .nil)))) .newline, by decide⟩,
    ⟨false, ['b', ' ', '"', '3', ' ', '4', '"', '\n'], [['b'], ['3', ' ', '4']],
      .mk (.bare (by decide) .nil) (.word (by decide) (.quote (v := ['3', ' ', '4']) (by decide) .nil) .newline),
      by decide⟩]

/-- What the lines spell. -/
def nestedEntries : Entries :=
  .setting 1 ['a'] [['1']] (.tag 2 4 ['t'] [] (.setting 3 ['b'] [['2']] .nil) (.setting 5 ['b'] [['3', ' ', '4']] .nil))

/-- There is one file, whatever its name. -/
def nestedSystem : System :=
  ⟨fun _ => .ok ['f'], fun _ => .ok (nestedLines.flatMap TextLine.text), fun _ => none, fun _ => none⟩

example : nestedEntries.lookup (sameText true ['B']) = some [['3', ' ', '4']] := by decide

example : (getIntDefault ⟨some (loaded true ['f'] nestedEntries 5)⟩ ['A'] 7,
    getIntDefault ⟨some (loaded true ['f'] nestedEntries 5)⟩ ['c'] 7) = (1, 7) := by decide +kernel

end Reads

end Config

end Legacy
