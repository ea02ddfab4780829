import Legacy.Config.Loading
import Mathlib.Data.List.Nodup
import Mathlib.Data.List.Perm.Subperm

/-!
# Included files

The loop of `setContent` over the nodes goes on over the nodes of the files that it includes. The module shows that
loading a configuration ends whenever the file system has finitely many files, also when files include each other or
themselves: it is done, with an error perhaps, and has read no file twice, or it has followed a pointer that is
`NULL` or whose memory was given back.
-/

namespace Legacy.Config

section Files

variable {io : System} {d d' : DOTCONFDocument} {words : List Word} {chunk : List Char} {chunks : List (List Char)}
  {ret : Int}

/-- A line that was cut into words is no new file. -/
lemma files_parseCleaned {c : Cleanup} {ret' : Int} (run : d.parseCleaned c ret = some (d', ret')) :
    d'.processedFiles = d.processedFiles := by
  rw [DOTCONFDocument.parseCleaned] at run
  dsimp only at run
  split_ifs at run
  · cases run
    rfl
  · obtain ⟨⟨tree, ret₁⟩, line, eq⟩ := Option.map_eq_some_iff.mp run
    cases eq
    obtain ⟨nodes, curParent, curPrev, stderr, rfl⟩ := parseLine_frame line
    rfl
  · cases run
    rfl

/-- Nor is a line of a text. -/
lemma files_parseChunk (run : d.parseChunk chunk = some (d', ret)) : d'.processedFiles = d.processedFiles := by
  obtain ⟨stderr, warned⟩ := warn_eq (d := { d with curLine := d.curLine + 1 }) (chunk.takeWhile (· ≠ nul))
  rw [DOTCONFDocument.parseChunk] at run
  dsimp only at run
  rw [warned] at run
  by_cases empty : chunk.takeWhile (· ≠ nul) = []
  · rw [if_pos empty] at run
    cases run
  · rw [if_neg empty] at run
    have same := files_parseCleaned run
    exact same

/-- Nor are all its lines. -/
lemma files_parseChunks {ret' : Int} (run : d.parseChunks ret chunks = some (d', ret')) :
    d'.processedFiles = d.processedFiles := by
  induction chunks generalizing d ret with
  | nil =>
    cases run
    rfl
  | cons chunk chunks ih =>
    obtain ⟨⟨d₁, ret₁⟩, first, run⟩ := Option.bind_eq_some_iff.mp run
    dsimp only at run
    split_ifs at run
    · cases run
      exact files_parseChunk first
    · exact (ih run).trans (files_parseChunk first)

/-- Reading a text does not change which files were read. -/
lemma files_parseFile {text : List Char} (run : d.parseFile text = some (d', ret)) :
    d'.processedFiles = d.processedFiles := by
  rw [DOTCONFDocument.parseFile] at run
  have same := files_parseChunks run
  exact same

/-- Neither does a macro. -/
lemma files_macroSubstitute {d : NodeTree} {k vi : Nat} {node : DOTCONFDocumentNode} {text : Word} :
    (macroSubstitute io d k vi node text).1.processedFiles = d.processedFiles := by
  rw [macroSubstitute]
  generalize macroLoop io d k vi false [] none [] text = result
  obtain ⟨value, failed⟩ := result
  cases failed <;> rfl

/-- Neither does the check of a node. -/
lemma files_checkValues {d : NodeTree} {k : Nat} {indices : List Nat} :
    (checkValues io d k indices).1.processedFiles = d.processedFiles := by
  induction indices generalizing d with
  | nil => rfl
  | cons vi indices ih =>
    rw [checkValues]
    split
    case h_1 node text there value =>
      split_ifs with found
      · generalize eq : macroSubstitute io d k vi node text = result
        have same : result.1.processedFiles = d.processedFiles := by
          rw [← eq]
          exact files_macroSubstitute
        dsimp only
        split_ifs
        · exact same
        · exact ih.trans same
      · exact ih
    case h_2 => rfl

/-- Neither does the check of all nodes. -/
lemma files_checkNodes {d : NodeTree} {indices : List Nat} :
    (checkNodes io d indices).1.processedFiles = d.processedFiles := by
  induction indices generalizing d with
  | nil => rfl
  | cons k indices ih =>
    rw [checkNodes]
    cases d.nodeTree[k]? with
    | none => rfl
    | some node =>
      dsimp only
      split_ifs
      · rfl
      · exact files_checkValues
      · exact ih.trans files_checkValues

/-- Nor what that check does to the pool. -/
lemma files_check {start : Nat} : (d.check io start).1.processedFiles = d.processedFiles := files_checkNodes

end Files

section Includes

variable {io : System} {d d' : DOTCONFDocument} {tag : DOTCONFDocumentNode} {value : Word} {values paths : List Word}
  {ret ret' : Int} {next : Option Int}

/-- What an included file can do: it was read before, it cannot be read, or it is read now. -/
inductive IncludeStep (io : System) (d : DOTCONFDocument) : DOTCONFDocument → Option Int → Prop where
  | skipped : IncludeStep io d d none
  | failed {after} : after.processedFiles = d.processedFiles → IncludeStep io d after (some (-1))
  | read {name path after code} : io.realpath name = .ok path → path ∉ d.processedFiles →
      after.processedFiles = d.processedFiles ++ [path] → IncludeStep io d after (some code)

/-- Every included file is one of these. -/
lemma includeFile_step (run : d.includeFile io tag value = .ok (d', next)) : IncludeStep io d d' next := by
  rw [DOTCONFDocument.includeFile] at run
  dsimp only at run
  cases access : io.access value with
  | some reason =>
    rw [access] at run
    cases run
    exact .failed rfl
  | none =>
    rw [access] at run
    dsimp only at run
    cases real : io.realpath value with
    | error reason =>
      rw [real] at run
      cases run
      exact .failed rfl
    | ok path =>
      rw [real] at run
      dsimp only at run
      split_ifs at run with before
      · cases run
        exact .skipped
      cases opens : io.fopen value with
      | error reason =>
        rw [opens] at run
        cases run
        exact .read real before rfl
      | ok text =>
        rw [opens] at run
        dsimp only at run
        split at run
        · cases run
        case h_2 d₁ ret₁ parsed =>
          have files := files_parseFile parsed
          split_ifs at run
          · cases run
            exact .read real before files
          · cases run
            exact .read real before (files_check.trans files)
          · cases run
            exact .read real before (files_check.trans files)

/-- An included file needs no bound on the rounds. -/
lemma includeFile_ne_rounds : d.includeFile io tag value ≠ .error .rounds := by
  rw [DOTCONFDocument.includeFile]
  dsimp only
  split
  · exact fun h => by cases h
  split
  · exact fun h => by cases h
  split_ifs
  · exact fun h => by cases h
  split
  · exact fun h => by cases h
  split
  · exact fun h => by cases h
  split_ifs
  · exact fun h => by cases h
  · exact fun h => by cases h
  · exact fun h => by cases h

/-- The files were read once each, and they are files of the file system. -/
def Once (paths files : List Word) : Prop := files.Nodup ∧ files ⊆ paths

/-- Files that were read once each are not more than there are. -/
lemma Once.length_le {files : List Word} (once : Once paths files) : files.length ≤ paths.length :=
  (once.1.subperm once.2).length_le

/-- No more files are read than there are: a file that is included is new, or nothing is read. -/
lemma IncludeStep.once (step : IncludeStep io d d' next)
    (known : ∀ name path, io.realpath name = .ok path → path ∈ paths) (once : Once paths d.processedFiles) :
    Once paths d'.processedFiles ∧ (next = none → d' = d) ∧
      (∀ ret, next = some ret → ret ≠ -1 → d.processedFiles.length < d'.processedFiles.length) := by
  cases step with
  | skipped => exact ⟨once, fun _ => rfl, fun ret eq => by cases eq⟩
  | failed same =>
    rw [same]
    refine ⟨once, (fun eq => by cases eq), fun ret eq ok => ?_⟩
    cases eq
    exact absurd rfl ok
  | @read name path after code real fresh files =>
    rw [files]
    refine ⟨⟨?_, ?_⟩, (fun eq => by cases eq), fun _ _ _ => ?_⟩
    · rw [← List.concat_eq_append]
      exact once.1.concat fresh
    · exact List.append_subset.mpr ⟨once.2, List.cons_subset.mpr ⟨known name path real, List.nil_subset _⟩⟩
    · rw [List.length_append]
      exact Nat.lt_succ_self _

/-- The files of an include need no bound on the rounds. -/
lemma includeFiles_ne_rounds : d.includeFiles io tag ret values ≠ .error .rounds := by
  induction values generalizing d ret with
  | nil => exact fun h => by cases h
  | cons value values ih =>
    rw [DOTCONFDocument.includeFiles]
    cases run : d.includeFile io tag value with
    | error stop =>
      intro eq
      cases eq
      exact includeFile_ne_rounds run
    | ok result =>
      obtain ⟨d₁, next⟩ := result
      cases next with
      | none => exact fun h => by cases h
      | some ret₁ =>
        show (if ret₁ = -1 then _ else _) ≠ _
        split_ifs
        · exact fun h => by cases h
        · exact ih

/-- After the files of an include the document is the one before, or there is a file more that was read. -/
lemma includeFiles_once (known : ∀ name path, io.realpath name = .ok path → path ∈ paths)
    (once : Once paths d.processedFiles) (run : d.includeFiles io tag ret values = .ok (d', ret')) :
    Once paths d'.processedFiles ∧
      (ret' ≠ -1 → d' = d ∨ d.processedFiles.length < d'.processedFiles.length) := by
  induction values generalizing d ret with
  | nil =>
    cases run
    exact ⟨once, fun _ => Or.inl rfl⟩
  | cons value values ih =>
    rw [DOTCONFDocument.includeFiles] at run
    cases first : d.includeFile io tag value with
    | error stop =>
      rw [first] at run
      cases run
    | ok result =>
      obtain ⟨d₁, next⟩ := result
      obtain ⟨once₁, same, more⟩ := (includeFile_step first).once known once
      rw [first] at run
      cases next with
      | none =>
        cases run
        exact ⟨once₁, fun _ => Or.inl (same rfl)⟩
      | some ret₁ =>
        change (if ret₁ = -1 then _ else _) = _ at run
        split_ifs at run with failed
        · cases run
          exact ⟨once₁, fun ok => absurd rfl ok⟩
        · obtain ⟨once', more'⟩ := ih once₁ run
          refine ⟨once', fun ok => Or.inr ?_⟩
          have lt := more ret₁ rfl failed
          rcases more' ok with eq | lt'
          · rw [eq]
            exact lt
          · exact lt.trans lt'

end Includes

/-- With enough rounds there is always the same result, and it has the property. -/
def Ends (P : DOTCONFDocument → Prop) (f : Nat → Except Stop (DOTCONFDocument × Int)) : Prop :=
  ∃ r bound, (∀ rounds, bound ≤ rounds → f rounds = r) ∧ r ≠ .error .rounds ∧ ∀ d ret, r = .ok (d, ret) → P d

section Ends

variable {P : DOTCONFDocument → Prop} {f g : Nat → Except Stop (DOTCONFDocument × Int)}
  {stop : Stop}

/-- A result that is there at once. -/
lemma ends_ok (result : DOTCONFDocument × Int) (holds : P result.1) : Ends P fun _ => .ok result := by
  refine ⟨.ok result, 0, fun _ _ => rfl, (fun eq => by cases eq), fun d ret eq => ?_⟩
  cases eq
  exact holds

/-- A fault that is there at once. -/
lemma ends_error (other : stop ≠ .rounds) : Ends P fun _ => .error stop := by
  refine ⟨.error stop, 0, fun _ _ => rfl, fun eq => ?_, fun d ret eq => by cases eq⟩
  cases eq
  exact other rfl

/-- One round more. -/
lemma Ends.succ (ends : Ends P f) (eq : ∀ rounds, g (rounds + 1) = f rounds) : Ends P g := by
  obtain ⟨r, bound, same, inTime, holds⟩ := ends
  refine ⟨r, bound + 1, fun rounds enough => ?_, inTime, holds⟩
  obtain ⟨k, rfl⟩ := Nat.exists_eq_add_of_le' (Nat.le_of_add_left_le enough)
  rw [eq]
  exact same k (Nat.le_of_succ_le_succ enough)

/-- What is done behind the loop keeps the end and the property. -/
lemma Ends.bind (ends : Ends P f) {k : DOTCONFDocument × Int → Except Stop (DOTCONFDocument × Int)}
    (keeps : ∀ d ret, P d → ∃ r, k (d, ret) = .ok r ∧ P r.1) : Ends P fun rounds => (f rounds).bind k := by
  obtain ⟨r, bound, same, inTime, holds⟩ := ends
  cases r with
  | error stop =>
    refine ⟨.error stop, bound, fun rounds enough => ?_, inTime, fun d ret eq => by cases eq⟩
    show (f rounds).bind k = _
    rw [same rounds enough]
    rfl
  | ok result =>
    obtain ⟨d, ret⟩ := result
    obtain ⟨r, eq, kept⟩ := keeps d ret (holds d ret rfl)
    refine ⟨.ok r, bound, fun rounds enough => ?_, (fun eq => by cases eq), fun d' ret' eq => ?_⟩
    · show (f rounds).bind k = _
      rw [same rounds enough]
      exact eq
    · cases eq
      exact kept

end Ends

section Loading

variable {io : System} {d : DOTCONFDocument} {paths : List Word}

/-- The loop over the nodes ends: every round takes a node, and nodes are added only when a file is read. -/
lemma includeNodes_ends (known : ∀ name path, io.realpath name = .ok path → path ∈ paths) (d : DOTCONFDocument)
    (ret : Int) (i : Nat) (once : Once paths d.processedFiles) :
    Ends (fun d => Once paths d.processedFiles) (d.includeNodes io ret i) := by
  have step : ∀ rounds, d.includeNodes io ret i (rounds + 1) = _ := fun rounds => DOTCONFDocument.includeNodes.eq_2 ..
  cases there : d.nodeTree[i]? with
  | none =>
    refine (ends_ok (d, ret) once).succ fun rounds => ?_
    rw [step, there]
  | some tag =>
    have lt := (List.getElem?_eq_some_iff.mp there).1
    by_cases includes : d.sameName "DOTCONFPPIncludeFile".toList tag.name = true
    · cases run : d.includeFiles io tag ret tag.values with
      | error stop =>
        have other : stop ≠ .rounds := fun eq => includeFiles_ne_rounds (run.trans (congrArg Except.error eq))
        refine (ends_error other).succ fun rounds => ?_
        rw [step, there]
        dsimp only
        rw [if_pos includes, run]
        rfl
      | ok result =>
        obtain ⟨d₁, ret₁⟩ := result
        obtain ⟨once₁, reads⟩ := includeFiles_once known once run
        by_cases failed : ret₁ = -1
        · refine (ends_ok (d₁, -1) once₁).succ fun rounds => ?_
          rw [step, there]
          dsimp only
          rw [if_pos includes, run]
          exact if_pos failed
        · have bounded := once₁.length_le
          have rest := includeNodes_ends known d₁ ret₁ (i + 1) once₁
          refine rest.succ fun rounds => ?_
          rw [step, there]
          dsimp only
          rw [if_pos includes, run]
          exact if_neg failed
    · have rest := includeNodes_ends known d ret (i + 1) once
      refine rest.succ fun rounds => ?_
      rw [step, there]
      dsimp only
      rw [if_neg includes]
termination_by (paths.length - d.processedFiles.length, d.nodeTree.length - i)
decreasing_by
  · rcases reads failed with rfl | more
    · exact Prod.Lex.right _ (Nat.sub_lt_sub_left lt (Nat.lt_succ_self _))
    · exact Prod.Lex.left _ _ (Nat.sub_lt_sub_left (more.trans_le bounded) more)
  · exact Prod.Lex.right _ (Nat.sub_lt_sub_left lt (Nat.lt_succ_self _))

/-- The required options are no new files. -/
lemma files_checkRequiredOptions {names : List Word} :
    (d.checkRequiredOptions names).1.processedFiles = d.processedFiles := by
  induction names with
  | nil => rfl
  | cons name names ih =>
    rw [DOTCONFDocument.checkRequiredOptions]
    split_ifs
    · exact ih
    · rfl

/-- A new document is loaded from its file and the files that this includes. -/
lemma setContent_once (caseSensitive : Bool) (file : Word)
    (known : ∀ name path, io.realpath name = .ok path → path ∈ paths) :
    Ends (fun d => Once paths d.processedFiles) fun rounds =>
      (newDocument caseSensitive).setContent io file rounds := by
  cases real : io.realpath file with
  | error reason =>
    simp only [DOTCONFDocument.setContent, real]
    exact ends_ok _ ⟨List.nodup_nil, List.nil_subset paths⟩
  | ok path =>
    have once : Once paths [path] :=
      ⟨List.nodup_singleton path, List.cons_subset.mpr ⟨known file path real, List.nil_subset paths⟩⟩
    cases opens : io.fopen path with
    | error reason =>
      simp only [DOTCONFDocument.setContent, real, opens]
      exact ends_ok _ once
    | ok text =>
      simp only [DOTCONFDocument.setContent, real, opens]
      cases parsed : DOTCONFDocument.parseFile _ text with
      | none => exact ends_error (by decide)
      | some result =>
        obtain ⟨d, ret⟩ := result
        have files : d.processedFiles = [path] := files_parseFile parsed
        have once' : Once paths (d.check io 0).1.processedFiles := by
          rw [files_check, files]
          exact once
        dsimp only
        split_ifs with failed bad
        · exact ends_ok _ (files ▸ once)
        · exact ends_ok _ once'
        · refine (includeNodes_ends known (d.check io 0).1 _ 0 once').bind
            fun d₁ ret₁ once₁ => ?_
          dsimp only
          split_ifs
          · exact ⟨_, rfl, once₁⟩
          · exact ⟨_, rfl, once₁⟩
          · refine ⟨_, rfl, ?_⟩
            rw [files_checkRequiredOptions]
            exact once₁

/-- Loading a configuration ends when the file system has finitely many files, however they include each other. Beyond a
bound the rounds of the loop do not matter; the end is a fault, or a document for which no file was read twice. -/
theorem setContent_ends (caseSensitive : Bool) (file : Word)
    (known : ∀ name path, io.realpath name = .ok path → path ∈ paths) :
    ∃ r bound, (∀ rounds, bound ≤ rounds → (newDocument caseSensitive).setContent io file rounds = r) ∧
      r ≠ .error .rounds ∧ ∀ d ret, r = .ok (d, ret) → d.processedFiles.Nodup := by
  obtain ⟨r, bound, same, inTime, once⟩ := setContent_once caseSensitive file known
  exact ⟨r, bound, same, inTime, fun d ret eq => (once d ret eq).1⟩

/-- Two files that include each other, and the first one also itself. -/
def mutualSystem : System where
  realpath name := if name = ['g'] then .ok ['g'] else .ok ['f']
  fopen path :=
    if path = ['g'] then .ok "DOTCONFPPIncludeFile ./f\nx=1\n".toList
    else .ok "DOTCONFPPIncludeFile g\nDOTCONFPPIncludeFile f\ny=2\n".toList
  access _ := none
  getenv _ := none

/-- The files that include each other are read once each. -/
theorem setContent_ends_mutual :
    ∃ r bound, (∀ rounds, bound ≤ rounds → (newDocument false).setContent mutualSystem ['f'] rounds = r) ∧
      r ≠ .error .rounds ∧ ∀ d ret, r = .ok (d, ret) → d.processedFiles.Nodup :=
  have known : ∀ name path, mutualSystem.realpath name = .ok path → path ∈ [['f'], ['g']] := by
    intro name path real
    dsimp only [mutualSystem] at real
    split_ifs at real
    · cases real
      exact List.mem_cons_of_mem _ List.mem_cons_self
    · cases real
      exact List.mem_cons_self
  setContent_ends false ['f'] known

example : ((newDocument false).setContent mutualSystem ['f'] 9).map
    (fun r => (r.1.processedFiles, r.1.nodeTree.length)) = .ok ([['f'], ['g']], 5) := by decide +kernel

/-- A tag with a value behind its closing tag, or files of which the first ends in a line that is to be continued, with
a macro before it. -/
def faultySystem : System where
  realpath name := .ok name
  fopen path :=
    if path = ['s'] then .ok "<a>\n</a x\n".toList
    else if path = ['f'] then .ok "DOTCONFPPIncludeFile g h\n".toList
    else if path = ['g'] then .ok "x=$\x7bA:-1\x7d\ny=2\\".toList
    else .ok "z=3\n".toList
  access _ := none
  getenv _ := none

example : ((newDocument false).setContent faultySystem ['s'] 9).map (fun _ => ()) = .error .fault ∧
    ((newDocument false).setContent faultySystem ['f'] 9).map (fun _ => ()) = .error .fault ∧
    ((newDocument false).setContent faultySystem ['g'] 9).map (fun r => (r.1.words, r.2)) =
      .ok ([['y'], ['2']], 1) := by decide +kernel

end Loading

end Legacy.Config
