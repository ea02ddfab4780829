import Legacy.Config.Reading
import Mathlib.Data.List.TakeWhile

/-!
# The text of a configuration file

A configuration file is written in lines, of which a backslash at the end joins one to the next. The module shows that
the parser reads the entries of a file from any such text, and that looking for a name finds the first setting or tag
with it that is not inside a tag.
-/

namespace Legacy.Config

/-- A line of a file with the words on it, where every `Char` is a byte. It has fewer than the 510 bytes that `fgets`
reads at once into the buffer of `parseFile`, so that it is neither cut nor reported as too long. -/
structure TextLine where
  more : Bool
  text : List Char
  words : List Word
  spelled : Line more text words
  short : text.length < 510

/-- The words of the lines that are read together, with the number of the last of these lines. -/
def grouped (words : List Word) (curLine : Nat) : List TextLine → List (Nat × List Word)
  | [] => []
  | line :: lines =>
    if line.more then grouped (words ++ line.words) (curLine + 1) lines
    else if words ++ line.words = [] then grouped [] (curLine + 1) lines
    else (curLine + 1, words ++ line.words) :: grouped [] (curLine + 1) lines

/-- The last line is not to be continued. -/
def Whole (lines : List TextLine) : Prop := ∀ line ∈ lines.getLast?, line.more = false

section Chunks

variable {d : DOTCONFDocument} {t t' : NodeTree} {room : Nat} {str text rest : List Char} {lines : List TextLine}
  {ret : Int} {words : List Word}

/-- A line that fits in what is left of the buffer is read as a whole. -/
lemma fgets_line (unbroken : Unbroken text) (fits : text.length < room) :
    fgets room str (text ++ '\n' :: rest) = (str ++ text ++ ['\n']) :: fgets 510 [] rest := by
  induction text generalizing room str with
  | nil =>
    rw [List.append_nil, List.nil_append, fgets, if_pos (Or.inl rfl)]
  | cons c text ih =>
    have notLast : ¬(c = '\n' ∨ room ≤ 1) := by
      rintro (eq | full)
      · exact (unbroken c List.mem_cons_self).1 eq
      · rw [List.length_cons] at fits
        omega
    rw [List.cons_append, fgets, if_neg notLast, ih (fun d mem => unbroken d (List.mem_cons_of_mem c mem)) (by
      rw [List.length_cons] at fits
      omega), List.append_assoc str, List.singleton_append]

/-- Short lines are read one by one. -/
lemma fgets_lines (lines : List TextLine) : fgets 510 [] (lines.flatMap TextLine.text) = lines.map TextLine.text := by
  induction lines with
  | nil => rfl
  | cons line lines ih =>
    obtain ⟨t, eq, unbroken⟩ := line.spelled.unbroken
    have fits : t.length < 510 := by
      have short := line.short
      rw [eq, List.length_append] at short
      omega
    rw [List.flatMap_cons, List.map_cons, eq, List.append_assoc, List.singleton_append, fgets_line unbroken fits, ih,
      List.nil_append]

/-- A line of words returns `-1` or `0`. -/
lemma ret_parseWords {d d' : NodeTree} {s : LineState} (run : parseWords d s words = some (d', ret))
    (ok : ret ≠ -1) : ret = 0 := by
  induction words generalizing d s with
  | nil =>
    cases run
    rfl
  | cons word words ih =>
    obtain ⟨⟨d₁, s₁, ret₁⟩, -, run⟩ := Option.bind_eq_some_iff.mp run
    dsimp only at run
    split_ifs at run
    · cases run
      exact absurd rfl ok
    · exact ih run

/-- A round of the loop over a line of a text. -/
lemma parseChunk_line (line : TextLine) (bare : d.quoted = false) (kept : d.mempoolFreed = false) :
    d.parseChunk line.text =
      if line.more then some ({ d with curLine := d.curLine + 1, words := d.words ++ line.words }, 1)
      else if d.words ++ line.words = [] then some ({ d with curLine := d.curLine + 1, words := [] }, 0)
      else (parseLine { d.toNodeTree with curLine := d.curLine + 1 } (d.words ++ line.words)).map fun (tree, ret) =>
        ({ d with toNodeTree := tree, words := [] }, ret) := by
  obtain ⟨t, eq, unbroken⟩ := line.spelled.unbroken
  have whole : line.text.takeWhile (· ≠ nul) = line.text := by
    refine List.takeWhile_eq_self_iff.mpr fun c mem => decide_eq_true ?_
    rw [eq] at mem
    rcases List.mem_append.mp mem with mem | mem
    · exact (unbroken c mem).2
    · cases List.mem_singleton.mp mem
      decide
  have notEmpty : line.text ≠ [] := by
    rw [eq]
    exact List.append_ne_nil_of_right_ne_nil _ (List.cons_ne_nil _ _)
  have feed : line.text.getLast? = some '\n' := by rw [eq, List.getLast?_concat]
  have short := line.short
  rw [DOTCONFDocument.parseChunk]
  dsimp only
  rw [whole, if_neg notEmpty, if_pos feed, DOTCONFDocument.warn, if_neg (Nat.not_le_of_lt short)]
  dsimp only
  rw [bare, cleanupLine_line line.spelled, DOTCONFDocument.parseCleaned]
  dsimp only
  cases line.more with
  | true => rfl
  | false =>
    simp only [Bool.false_eq_true, if_false, decide_true, Bool.true_and, Bool.not_eq_true']
    rw [if_neg (by decide)]
    by_cases empty : d.words ++ line.words = []
    · rw [empty, if_neg (by decide), if_pos rfl]
    · rw [if_neg empty, if_pos (List.isEmpty_eq_false_iff.mpr empty), kept, if_neg (by decide)]

/-- The loop of `parseFile` over the lines of a text does what the groups of their words do. -/
lemma parseChunks_lines (ret : Int) (whole : Whole lines) (bare : d.quoted = false) (kept : d.mempoolFreed = false)
    (started : lines = [] → d.words = [] ∧ ret = 0)
    (run : parseGroups t (grouped d.words d.curLine lines) = some (t', 0))
    (same : d.toNodeTree = { t with curLine := d.curLine }) :
    d.parseChunks ret (lines.map TextLine.text) = some ({ d with
      toNodeTree := { t' with curLine := d.curLine + lines.length }
      words := [] }, 0) := by
  induction lines generalizing d t ret with
  | nil =>
    obtain ⟨noWords, rfl⟩ := started rfl
    cases run
    rw [List.map_nil, DOTCONFDocument.parseChunks, List.length_nil, Nat.add_zero, ← same, ← noWords]
  | cons line lines ih =>
    have whole' : Whole lines := by
      intro last mem
      refine whole last ?_
      rw [List.getLast?_cons, Option.mem_def.mp mem]
      rfl
    have length : d.curLine + (line :: lines).length = d.curLine + 1 + lines.length := by
      rw [List.length_cons, Nat.add_assoc, Nat.add_comm 1]
    have ends : lines = [] → line.more = false := by
      rintro rfl
      exact whole line rfl
    rw [List.map_cons, DOTCONFDocument.parseChunks, parseChunk_line line bare kept, length]
    rw [grouped] at run
    cases more : line.more with
    | true =>
      rw [more, if_pos rfl] at run
      rw [if_pos rfl, Option.bind_some]
      dsimp only
      rw [if_neg (by decide)]
      have rest := ih (d := { d with curLine := d.curLine + 1, words := d.words ++ line.words }) (t := t) 1
        whole' bare kept (fun none => absurd ((ends none).symm.trans more) (by decide)) run (by rw [same])
      exact rest
    | false =>
      rw [more, if_neg (by decide)] at run
      rw [if_neg (by decide)]
      by_cases empty : d.words ++ line.words = []
      · rw [if_pos empty] at run
        rw [if_pos empty, Option.bind_some]
        dsimp only
        rw [if_neg (by decide)]
        exact ih (d := { d with curLine := d.curLine + 1, words := [] }) (t := t) 0 whole' bare kept
          (fun _ => ⟨rfl, rfl⟩) run (by rw [same])
      · rw [if_neg empty, parseGroups] at run
        obtain ⟨⟨t₁, ret₁⟩, first, rest⟩ := Option.bind_eq_some_iff.mp run
        obtain ⟨nodes, curParent, curPrev, stderr, frame⟩ := parseLine_frame first
        have line₁ := congrArg NodeTree.curLine frame
        dsimp only at rest line₁
        split_ifs at rest with failed
        · cases rest
        have tree :
            ({ d.toNodeTree with curLine := d.curLine + 1 } : NodeTree) = { t with curLine := d.curLine + 1 } := by
          rw [same]
        rw [if_neg empty, tree, first, Option.map_some, Option.bind_some]
        dsimp only
        rw [if_neg failed]
        have go := ih (d := { d with toNodeTree := t₁, words := [] }) (t := t₁) ret₁ whole' bare kept
          (fun _ => ⟨rfl, ret_parseWords first failed⟩)
          (by rw [line₁]; exact rest) rfl
        rw [line₁] at go
        exact go

end Chunks

section Files

variable {d : DOTCONFDocument} {e : Entries} {lines : List TextLine} {fileName name : Word} {i : Nat} {p : Option Nat}
  {node : DOTCONFDocumentNode}

/-- A file is read as the entries that it spells: their nodes come behind the nodes that the document has already. -/
lemma parseFile_lines (ready : { d.toNodeTree with curParent := none }.Ready fileName) (noWords : d.words = [])
    (kept : d.mempoolFreed = false) (whole : Whole lines) (spelled : grouped [] 0 lines = e.lines) (proper : e.Proper) :
    d.parseFile (lines.flatMap TextLine.text) = some ({ d with
      toNodeTree :=
        { ({ d.toNodeTree with curParent := none } : NodeTree).read fileName e with curLine := lines.length }
      quoted := false }, 0) := by
  obtain ⟨line, run⟩ := parseGroups_lines proper { d.toNodeTree with curLine := 0, curParent := none }
    ⟨ready.file, ready.fresh, ready.prev⟩
  rw [DOTCONFDocument.parseFile, fgets_lines]
  rw [← spelled] at run
  have read := parseChunks_lines (d := { d with curLine := 0, curParent := none, quoted := false }) 0 whole rfl kept
    (fun _ => ⟨noWords, rfl⟩) (by rw [noWords]; exact run) rfl
  rw [read, Nat.zero_add, ← noWords]
  rfl

/-- The values of the first setting or tag with a name that is not inside a tag. -/
def Entries.lookup (same : Word → Bool) : Entries → Option (List Word)
  | nil => none
  | setting _ name values rest => if same name then some values else rest.lookup same
  | tag _ _ name values _ rest => if same name then some values else rest.lookup same

/-- The nodes of the entries are inside the tag that the entries are in, or inside a tag of theirs. -/
lemma parent_of_mem_flatten {prev : Option Nat} (mem : node ∈ e.flatten fileName i p prev) :
    node.parentNode = p ∨ node.parentNode.isSome = true := by
  induction e generalizing i p prev with
  | nil => cases mem
  | setting line name values rest ih =>
    rcases List.mem_cons.mp mem with rfl | mem
    · exact Or.inl rfl
    · exact ih mem
  | tag line closing name values body rest ihBody ihRest =>
    rcases List.mem_cons.mp mem with rfl | mem
    · exact Or.inl rfl
    · rcases List.mem_append.mp mem with mem | mem
      · rcases ihBody mem with eq | inside
        · rw [eq]
          exact Or.inr rfl
        · exact Or.inr inside
      · exact ihRest mem

variable (fileName) in
/-- The first node with a name outside all tags is that of the first entry with it. -/
lemma find?_flatten (same : Word → Bool) (prev : Option Nat) :
    ((e.flatten fileName i none prev).find? fun node => node.parentNode = none && same node.name).map
      DOTCONFDocumentNode.values = e.lookup same := by
  induction e generalizing i prev with
  | nil => rfl
  | setting line name values rest ih =>
    rw [Entries.flatten, List.find?_cons, Entries.lookup]
    cases same name with
    | true => rfl
    | false => exact ih _
  | tag line closing name values body rest ihBody ihRest =>
    rw [Entries.flatten, List.find?_cons, Entries.lookup]
    cases same name with
    | true => rfl
    | false =>
      have skip : (body.flatten fileName (i + 1) (some i) none).find?
          (fun node => node.parentNode = none && same node.name) = none := by
        refine List.find?_eq_none.mpr fun node mem => ?_
        have inside : node.parentNode ≠ none := by
          rcases parent_of_mem_flatten mem with eq | inside
          · rw [eq]
            exact Option.some_ne_none i
          · exact Option.isSome_iff_ne_none.mp inside
        rw [decide_eq_false inside, Bool.false_and]
        exact Bool.false_ne_true
      show (List.find? _ (_ ++ _)).map _ = _
      rw [List.find?_append, skip, Option.none_or]
      exact ihRest _

/-- Looking for a name finds the values of the first entry with it outside all tags. -/
lemma findNode_lookup (tree : d.nodeTree = e.flatten fileName 0 none none) :
    ((d.findNode name none none).bind (d.nodeTree[·]?)).map DOTCONFDocumentNode.values =
      e.lookup (d.sameName name) := by
  have found := find?_flatten fileName (e := e) (i := 0) (d.sameName name) none
  rw [← tree, List.find?_eq_bind_findIdx?_getElem?] at found
  rw [← found, DOTCONFDocument.findNode]
  show (((d.nodeTree.drop 0).findIdx? _).map (· + 0) |>.bind _).map _ = _
  simp only [List.drop_zero, Nat.add_zero, Option.map_id']

end Files

end Legacy.Config
