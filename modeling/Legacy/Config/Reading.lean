import Legacy.Config.Document

/-!
# What a configuration file says

A file is for settings, which have a name and values, and for tags around other settings. `Entries` is such a file in
its own terms, and `flatten` is the list of nodes that stands for it. The module shows that the parser makes exactly
these nodes of a file, whichever way its lines are written.
-/

namespace Legacy.Config

/-- The settings and tags of a file, each with the number of its line. -/
inductive Entries where
  | nil
  | setting (line : Nat) (name : Word) (values : List Word) (rest : Entries)
  | tag (line closing : Nat) (name : Word) (values : List Word) (body rest : Entries)
deriving DecidableEq, Repr

/-- The end of the words of an opening tag. -/
def closeLast (w : Word) : List Word → List Word
  | [] => [w ++ ['>']]
  | v :: vs => w :: closeLast v vs

namespace Entries

/-- The lines with words of the file, in order. -/
def lines : Entries → List (Nat × List Word)
  | nil => []
  | setting line name values rest => (line, name :: values) :: rest.lines
  | tag line closing name values body rest =>
    (line, closeLast ('<' :: name) values) :: (body.lines ++ (closing, ['<' :: '/' :: name ++ ['>']]) :: rest.lines)

/-- The number of nodes of the entries. -/
def size : Entries → Nat
  | nil => 0
  | setting _ _ _ rest => rest.size + 1
  | tag _ _ _ _ body rest => body.size + rest.size + 1

/-- The first node, when the nodes begin at an index. -/
def first (i : Nat) : Entries → Option Nat
  | nil => none
  | _ => some i

/-- The last node that is not inside a tag of these entries. -/
def last (i : Nat) (prev : Option Nat) : Entries → Option Nat
  | nil => prev
  | setting _ _ _ rest => rest.last (i + 1) (some i)
  | tag _ _ _ _ body rest => rest.last (i + 1 + body.size) (some i)

/-- The nodes of the entries, from index `i` on, inside the node `parent` and behind the node `prev`. -/
def flatten (fileName : Word) (i : Nat) (parent prev : Option Nat) : Entries → List DOTCONFDocumentNode
  | nil => []
  | setting line name values rest =>
    ⟨prev, rest.first (i + 1), parent, none, values, name, line, fileName, true⟩ ::
      rest.flatten fileName (i + 1) parent (some i)
  | tag line _ name values body rest =>
    ⟨prev, rest.first (i + 1 + body.size), parent, body.first (i + 1), values, name, line, fileName, true⟩ ::
      (body.flatten fileName (i + 1) (some i) none ++ rest.flatten fileName (i + 1 + body.size) parent (some i))

end Entries

/-- A word that is not taken for a tag, or for the end of one. -/
def Plain (w : Word) : Prop := w ≠ [] ∧ w.head? ≠ some '<' ∧ w.getLast? ≠ some '>'

instance (w : Word) : Decidable (Plain w) := inferInstanceAs (Decidable (_ ∧ _))

/-- The name of a tag. -/
def TagName (w : Word) : Prop := w.head? ≠ some '/' ∧ w.getLast? ≠ some '>'

instance (w : Word) : Decidable (TagName w) := inferInstanceAs (Decidable (_ ∧ _))

/-- The words of the entries are read as what they are. -/
def Entries.Proper : Entries → Prop
  | nil => True
  | setting _ name values rest => Plain name ∧ (∀ v ∈ values, Plain v) ∧ rest.Proper
  | tag _ _ name values body rest => TagName name ∧ (∀ v ∈ values, Plain v) ∧ body.Proper ∧ rest.Proper

/-- The loop of `parseFile` over the lines that have words. -/
def parseGroups (d : NodeTree) : List (Nat × List Word) → Option (NodeTree × Int)
  | [] => some (d, 0)
  | (line, words) :: groups => (parseLine { d with curLine := line } words).bind fun (d, ret) =>
    if ret = -1 then some (d, -1) else parseGroups d groups

namespace NodeTree

/-- The parent of the next node and the node to its left. -/
def place (d : NodeTree) : Option Nat × Option Nat :=
  match d.nodeTree.getLast? with
  | none => (none, none)
  | some prev => if prev.closed then (d.curParent, d.curPrev) else (some (d.nodeTree.length - 1), none)

/-- The nodes once one of them points at the next node. -/
def linked (d : NodeTree) : List DOTCONFDocumentNode :=
  match d.nodeTree.getLast? with
  | none => []
  | some prev =>
    if prev.closed then
      match d.curPrev with
      | none => d.nodeTree
      | some p => d.nodeTree.modify p fun node => { node with nextNode := some d.nodeTree.length }
    else d.nodeTree.modify (d.nodeTree.length - 1) fun node => { node with childNode := some d.nodeTree.length }

/-- A line has entered a node with its values. -/
def entered (d : NodeTree) (fileName name : Word) (values : List Word) (closed : Bool) : NodeTree :=
  { d with
    nodeTree := d.linked ++ [⟨d.place.2, none, d.place.1, none, values, name, d.curLine, fileName, closed⟩]
    curParent := d.place.1
    curPrev := some d.nodeTree.length }

/-- The next node can be entered. -/
structure Ready (d : NodeTree) (fileName : Word) : Prop where
  file : d.processedFiles.getLast? = some fileName
  fresh : d.nodeTree = [] → d.curParent = none
  prev : d.nodeTree ≠ [] → d.curPrev.isSome = true

end NodeTree

section Lines

variable {d d' : NodeTree} {fileName name v : Word} {values words : List Word} {closed : Bool} {i : Nat}
  {node : DOTCONFDocumentNode} {nodes nodes' : List DOTCONFDocumentNode}

/-- The node behind others is changed. -/
lemma modify_append {f : DOTCONFDocumentNode → DOTCONFDocumentNode} (nodes nodes' : List DOTCONFDocumentNode)
    (node : DOTCONFDocumentNode) : (nodes ++ node :: nodes').modify nodes.length f = nodes ++ f node :: nodes' := by
  induction nodes with
  | nil => rfl
  | cons n nodes ih => exact congrArg (n :: ·) ih

/-- Linking a node makes none. -/
lemma length_linked : d.linked.length = d.nodeTree.length := by
  unfold NodeTree.linked
  cases last : d.nodeTree.getLast? with
  | none => rw [List.getLast?_eq_none_iff.mp last]
  | some prev =>
    dsimp only
    split_ifs
    · cases d.curPrev with
      | none => rfl
      | some p => exact List.length_modify ..
    · exact List.length_modify ..

/-- A ready document enters a new node. -/
lemma addNode_eq (ready : d.Ready fileName) : d.addNode name closed = some (d.entered fileName name [] closed) := by
  rw [NodeTree.addNode, ready.file, Option.bind_some, NodeTree.entered, NodeTree.linked, NodeTree.place]
  cases last : d.nodeTree.getLast? with
  | none =>
    dsimp only
    rw [ready.fresh (List.getLast?_eq_none_iff.mp last)]
    rfl
  | some prev =>
    dsimp only
    split_ifs with back
    · obtain ⟨p, eq⟩ := Option.isSome_iff_exists.mp (ready.prev fun none => by rw [none] at last; cases last)
      rw [eq]
      rfl
    · rfl

/-- A word among the values of a line is added to them. -/
lemma parseWords_value (tree : d.nodeTree = nodes ++ [node]) (plain : Plain v) :
    parseWords d ⟨true, some nodes.length, false⟩ (v :: words) =
      parseWords { d with nodeTree := nodes ++ [{ node with values := node.values ++ [v] }] }
        ⟨true, some nodes.length, false⟩ words := by
  obtain ⟨notEmpty, noTag, noEnd⟩ := plain
  rw [parseWords, parseWord, trim]
  simp only [noTag, noEnd, notEmpty, decide_false, Bool.or_self, Bool.not_false, Bool.and_self, if_true, if_false,
    Option.map_some, Option.bind_some]
  rw [NodeTree.pushValue, tree, modify_append]
  rfl

/-- The last value of an opening tag. -/
lemma parseWords_lastValue (tree : d.nodeTree = nodes ++ [node]) (plain : Plain v) :
    parseWords d ⟨true, some nodes.length, false⟩ [v ++ ['>']] =
      some ({ d with nodeTree := nodes ++ [{ node with values := node.values ++ [v] }] }, 0) := by
  obtain ⟨notEmpty, noTag, -⟩ := plain
  have noTag' : (v ++ ['>']).head? ≠ some '<' := by
    rw [List.head?_append_of_ne_nil _ notEmpty]
    exact noTag
  have notEmpty' : v ++ ['>'] ≠ [] := List.append_ne_nil_of_right_ne_nil _ (List.cons_ne_nil _ _)
  rw [parseWords, parseWord, trim]
  simp only [noTag', notEmpty', List.getLast?_concat, List.dropLast_concat, decide_false, decide_true, Bool.or_self,
    Bool.not_false, Bool.and_self, if_true, if_false, Option.map_some, Option.bind_some]
  rw [NodeTree.pushValue, tree, modify_append]
  rfl

/-- Plain words are the values of the last node. -/
lemma parseWords_values (plain : ∀ v ∈ values, Plain v) (tree : d.nodeTree = nodes ++ [node]) :
    parseWords d ⟨true, some nodes.length, false⟩ values =
      some ({ d with nodeTree := nodes ++ [{ node with values := node.values ++ values }] }, 0) := by
  induction values generalizing d node with
  | nil =>
    rw [List.append_nil, ← tree]
    rfl
  | cons v values ih =>
    rw [parseWords_value tree (plain v List.mem_cons_self), ih (fun w mem => plain w (List.mem_cons_of_mem _ mem)) rfl]
    dsimp only
    rw [List.append_assoc, List.singleton_append]

/-- So are those of which the last one has a `>` at its end. -/
lemma parseWords_closeLast (plain : ∀ w ∈ v :: values, Plain w) (tree : d.nodeTree = nodes ++ [node]) :
    parseWords d ⟨true, some nodes.length, false⟩ (closeLast v values) =
      some ({ d with nodeTree := nodes ++ [{ node with values := node.values ++ v :: values }] }, 0) := by
  induction values generalizing d node v with
  | nil => exact parseWords_lastValue tree (plain v List.mem_cons_self)
  | cons w values ih =>
    rw [closeLast, parseWords_value tree (plain v List.mem_cons_self),
      ih (fun w mem => plain w (List.mem_cons_of_mem _ mem)) rfl]
    dsimp only
    rw [List.append_assoc, List.singleton_append]

/-- The line of a setting enters its node. -/
lemma parseLine_setting (ready : d.Ready fileName) (plain : Plain name) (values_plain : ∀ v ∈ values, Plain v) :
    parseLine d (name :: values) = some (d.entered fileName name values true, 0) := by
  obtain ⟨notEmpty, noTag, noEnd⟩ := plain
  rw [parseLine, parseWords, parseWord, trim]
  simp only [noTag, noEnd, notEmpty, decide_false, Bool.or_self, Bool.not_false, Bool.and_true, if_false,
    Bool.false_eq_true, Bool.false_and, ne_eq, not_false_eq_true, decide_true]
  rw [addNode_eq ready, Option.map_some, Option.bind_some, ← length_linked, parseWords_values values_plain rfl]
  rfl

/-- The line of an opening tag enters its node, which stays open. -/
lemma parseLine_tag (ready : d.Ready fileName) (tag : TagName name) (plain : ∀ v ∈ values, Plain v) :
    parseLine d (closeLast ('<' :: name) values) = some (d.entered fileName name values false, 0) := by
  have opens : ('<' :: name)[1]? ≠ some '/' := by
    cases name with
    | nil => exact fun eq => by cases eq
    | cons c name => exact tag.1
  cases values with
  | nil =>
    rw [closeLast, parseLine, parseWords, parseWord, trim]
    simp only [List.head?_cons, if_false, Bool.and_false, decide_true, Bool.false_eq_true, List.getLast?_concat,
      List.dropLast_concat, if_true, opens, decide_false]
    rw [addNode_eq ready]
    rfl
  | cons v values =>
    have goesOn : ('<' :: name).getLast? ≠ some '>' := by
      cases name with
      | nil => exact fun eq => by cases eq
      | cons c name =>
        rw [List.getLast?_cons_cons]
        exact tag.2
    rw [closeLast, parseLine, parseWords, parseWord, trim]
    simp only [List.head?_cons, reduceCtorEq, if_false, Bool.and_false, decide_true, Bool.or_true, Bool.not_true,
      Bool.false_eq_true, goesOn, opens, decide_false, if_true]
    rw [addNode_eq ready, Option.map_some, Option.bind_some, ← length_linked, parseWords_closeLast plain rfl]
    rfl

/-- A closing tag closes the last open node with its name. -/
lemma parseLine_close (last : d.lastOpen name = some i) :
    parseLine d ['<' :: '/' :: name ++ ['>']] = some (d.closeNode i, 0) := by
  have step : parseWord d ⟨false, none, false⟩ ('<' :: '/' :: name ++ ['>']) =
      some (d.closeNode i, ⟨true, none, true⟩, 0) := by
    rw [parseWord, trim]
    simp only [List.head?_cons, decide_true, List.getLast?_concat, List.dropLast_concat, if_true]
    have drop : ('<' :: '/' :: name).drop 2 = name := rfl
    rw [drop, last]
    rfl
  rw [parseLine, parseWords, step]
  rfl

/-- A closing tag closes the last open node, when the nodes behind it are closed. -/
lemma lastOpen_eq (tree : d.nodeTree = nodes ++ node :: nodes') (same : d.sameName name node.name = true)
    (isOpen : node.closed = false) (rest : ∀ n ∈ nodes', n.closed = true) : d.lastOpen name = some nodes.length := by
  rw [NodeTree.lastOpen, tree, List.reverse_append, List.reverse_cons, List.append_assoc, List.findIdx?_append]
  have skip : nodes'.reverse.findIdx? (fun n => d.sameName name n.name && !n.closed) = none := by
    refine List.findIdx?_eq_none_iff.mpr fun n mem => ?_
    rw [rest n (List.mem_reverse.mp mem), Bool.not_true, Bool.and_false]
  rw [skip, Option.none_or, List.singleton_append, List.findIdx?_cons, same, isOpen]
  simp only [Bool.not_false, Bool.and_self, if_true, Option.map_some, Nat.zero_add, List.length_reverse,
    List.length_append, List.length_cons, Option.some_inj]
  omega

/-- A name is the same as itself. -/
lemma sameName_refl (d : NodeTree) (name : Word) : d.sameName name name = true := by
  unfold NodeTree.sameName
  split_ifs
  · exact decide_eq_true rfl
  · exact decide_eq_true rfl

end Lines

section Groups

variable {d d' : NodeTree} {fileName : Word} {e : Entries} {groups groups' : List (Nat × List Word)} {i : Nat}
  {parent prev : Option Nat}

/-- The lines of a text are parsed one part after the other. -/
lemma parseGroups_append (run : parseGroups d groups = some (d', 0)) :
    parseGroups d (groups ++ groups') = parseGroups d' groups' := by
  induction groups generalizing d with
  | nil =>
    cases run
    rfl
  | cons group groups ih =>
    obtain ⟨line, words⟩ := group
    obtain ⟨⟨d₁, ret⟩, first, rest⟩ := Option.bind_eq_some_iff.mp run
    dsimp only at rest
    rw [List.cons_append, parseGroups, first, Option.bind_some]
    dsimp only
    split_ifs at rest ⊢ with failed
    · cases rest
    · exact ih rest

/-- The nodes of the entries are closed. -/
lemma closed_of_mem_flatten {node : DOTCONFDocumentNode} (mem : node ∈ e.flatten fileName i parent prev) :
    node.closed = true := by
  induction e generalizing i parent prev with
  | nil => cases mem
  | setting line name values rest ih =>
    rcases List.mem_cons.mp mem with rfl | mem
    · rfl
    · exact ih mem
  | tag line closing name values body rest ihBody ihRest =>
    rcases List.mem_cons.mp mem with rfl | mem
    · rfl
    · rcases List.mem_append.mp mem with mem | mem
      · exact ihBody mem
      · exact ihRest mem

/-- There are as many nodes as entries. -/
lemma length_flatten : (e.flatten fileName i parent prev).length = e.size := by
  induction e generalizing i parent prev with
  | nil => rfl
  | setting line name values rest ih => exact congrArg (· + 1) ih
  | tag line closing name values body rest ihBody ihRest =>
    rw [Entries.flatten, List.length_cons, List.length_append, ihBody, ihRest, Entries.size]

/-- The first entry has the first node. -/
lemma first_of_ne_nil (some_entry : e ≠ .nil) : e.first i = some i := by
  cases e with
  | nil => exact absurd rfl some_entry
  | setting line name values rest => rfl
  | tag line closing name values body rest => rfl

/-- The nodes that the nodes of the entries come behind, which point at the first of them. -/
def NodeTree.bound (d : NodeTree) (e : Entries) : List DOTCONFDocumentNode := if e = .nil then d.nodeTree else d.linked

/-- What is left when the entries have been read: their nodes behind the nodes that were there before. -/
def NodeTree.read (d : NodeTree) (fileName : Word) (e : Entries) : NodeTree :=
  { d with
    nodeTree := d.bound e ++ e.flatten fileName d.nodeTree.length d.place.1 d.place.2
    curParent := if e = .nil then d.curParent else d.place.1
    curPrev := e.last d.nodeTree.length d.curPrev }

/-- Behind a closed node the next one stands beside the last. -/
lemma place_of_closed {prev : DOTCONFDocumentNode} (last : d.nodeTree.getLast? = some prev)
    (closed : prev.closed = true) : d.place = (d.curParent, d.curPrev) := by
  rw [NodeTree.place, last]
  exact if_pos closed

/-- The node that was entered is the last one. -/
lemma getLast?_entered {name : Word} {values : List Word} {closed : Bool} :
    (d.entered fileName name values closed).nodeTree.getLast? =
      some ⟨d.place.2, none, d.place.1, none, values, name, d.curLine, fileName, closed⟩ :=
  List.getLast?_concat

/-- One node more. -/
lemma length_entered {name : Word} {values : List Word} {closed : Bool} :
    (d.entered fileName name values closed).nodeTree.length = d.nodeTree.length + 1 := by
  rw [NodeTree.entered, List.length_append, length_linked, List.length_singleton]

/-- Behind a setting the next node stands beside it. -/
lemma place_entered {name : Word} {values : List Word} :
    (d.entered fileName name values true).place = (d.place.1, some d.nodeTree.length) :=
  place_of_closed getLast?_entered rfl

/-- Behind an opening tag the next node stands inside it. -/
lemma place_entered_tag {name : Word} {values : List Word} :
    (d.entered fileName name values false).place = (some d.nodeTree.length, none) := by
  rw [NodeTree.place, getLast?_entered, length_entered]
  rfl

/-- A setting points at the entry after it. -/
lemma bound_entered {name : Word} {values : List Word} :
    (d.entered fileName name values true).bound e = d.linked ++ [⟨d.place.2, e.first (d.nodeTree.length + 1), d.place.1,
      none, values, name, d.curLine, fileName, true⟩] := by
  unfold NodeTree.bound
  split_ifs with empty
  · rw [empty]
    rfl
  · rw [NodeTree.linked, getLast?_entered, length_entered]
    show (d.linked ++ [_]).modify d.nodeTree.length _ = _
    rw [← length_linked, modify_append, first_of_ne_nil empty]

/-- An opening tag points at the first entry inside it. -/
lemma bound_entered_tag {name : Word} {values : List Word} :
    (d.entered fileName name values false).bound e = d.linked ++ [⟨d.place.2, none, d.place.1,
      e.first (d.nodeTree.length + 1), values, name, d.curLine, fileName, false⟩] := by
  unfold NodeTree.bound
  split_ifs with empty
  · rw [empty]
    rfl
  · rw [NodeTree.linked, getLast?_entered, length_entered]
    show (d.linked ++ [_]).modify (d.nodeTree.length + 1 - 1) _ = _
    rw [Nat.add_sub_cancel, ← length_linked, modify_append, first_of_ne_nil empty]

/-- The document is ready for the next node. -/
lemma ready_entered (ready : d.Ready fileName) (closed : Bool) (name : Word) (values : List Word) :
    (d.entered fileName name values closed).Ready fileName :=
  ⟨ready.file, fun none => absurd none (List.append_ne_nil_of_right_ne_nil _ (List.cons_ne_nil _ _)), fun _ => rfl⟩

/-- The tree once a tag was opened, its entries were read, and it was closed. -/
def NodeTree.tagged (d : NodeTree) (fileName name : Word) (values : List Word) (body : Entries) : NodeTree :=
  { d with
    nodeTree := d.linked ++ ⟨d.place.2, none, d.place.1, body.first (d.nodeTree.length + 1), values, name, d.curLine,
      fileName, true⟩ :: body.flatten fileName (d.nodeTree.length + 1) (some d.nodeTree.length) none
    curParent := d.place.1
    curPrev := some d.nodeTree.length }

/-- The closing tag closes its own node, whatever is inside it. -/
lemma parseLine_closing {name : Word} {values : List Word} {line : Nat} :
    parseLine { (d.entered fileName name values false).read fileName e with curLine := line }
        ['<' :: '/' :: name ++ ['>']] =
      some ({ d.tagged fileName name values e with curLine := line }, 0) := by
  have tree : ((d.entered fileName name values false).read fileName e).nodeTree = d.linked ++
      ⟨d.place.2, none, d.place.1, e.first (d.nodeTree.length + 1), values, name, d.curLine, fileName, false⟩ ::
        e.flatten fileName (d.nodeTree.length + 1) (some d.nodeTree.length) none := by
    rw [NodeTree.read, bound_entered_tag, place_entered_tag, length_entered, List.append_assoc, List.singleton_append]
  have last := lastOpen_eq (d := { (d.entered fileName name values false).read fileName e with curLine := line }) tree
    (sameName_refl _ name) rfl fun n mem => closed_of_mem_flatten mem
  rw [parseLine_close last, NodeTree.closeNode]
  dsimp only
  rw [tree, modify_append, List.getElem?_append_right (Nat.le_refl _), Nat.sub_self, length_linked]
  rfl

/-- The last node behind a tag is closed. -/
lemma getLast?_tagged (d : NodeTree) (fileName name : Word) (values : List Word) (e : Entries) :
    ∃ prev, (d.tagged fileName name values e).nodeTree.getLast? = some prev ∧ prev.closed = true := by
  let node : DOTCONFDocumentNode := ⟨d.place.2, none, d.place.1, e.first (d.nodeTree.length + 1), values, name,
    d.curLine, fileName, true⟩
  have some_node := List.cons_ne_nil node (e.flatten fileName (d.nodeTree.length + 1) (some d.nodeTree.length) none)
  refine ⟨List.getLast _ some_node, ?_, ?_⟩
  · rw [NodeTree.tagged, List.getLast?_append, List.getLast?_eq_some_getLast some_node]
    rfl
  · rcases List.mem_cons.mp (List.getLast_mem some_node) with eq | mem
    · rw [eq]
    · exact closed_of_mem_flatten mem

/-- Behind a tag the next node stands beside it. -/
lemma place_tagged {name : Word} {values : List Word} :
    (d.tagged fileName name values e).place = (d.place.1, some d.nodeTree.length) := by
  obtain ⟨prev, last, closed⟩ := getLast?_tagged d fileName name values e
  exact place_of_closed last closed

/-- The nodes of a tag are itself and those inside it. -/
lemma length_tagged {name : Word} {values : List Word} :
    (d.tagged fileName name values e).nodeTree.length = d.nodeTree.length + 1 + e.size := by
  rw [NodeTree.tagged, List.length_append, List.length_cons, length_linked, length_flatten, Nat.add_assoc,
    Nat.add_comm 1]

/-- A tag points at the entry after it. -/
lemma bound_tagged {name : Word} {values : List Word} {body : Entries} :
    (d.tagged fileName name values body).bound e = d.linked ++ ⟨d.place.2, e.first (d.nodeTree.length + 1 + body.size),
      d.place.1, body.first (d.nodeTree.length + 1), values, name, d.curLine, fileName, true⟩ ::
        body.flatten fileName (d.nodeTree.length + 1) (some d.nodeTree.length) none := by
  unfold NodeTree.bound
  split_ifs with empty
  · rw [empty]
    rfl
  · obtain ⟨prev, last, closed⟩ := getLast?_tagged d fileName name values body
    rw [NodeTree.linked, last, length_tagged]
    dsimp only
    rw [if_pos closed]
    show (d.linked ++ _ :: _).modify d.nodeTree.length _ = _
    rw [← length_linked, modify_append, first_of_ne_nil empty]

/-- The document is ready for the next node. -/
lemma ready_tagged (ready : d.Ready fileName) (name : Word) (values : List Word) (e : Entries) :
    (d.tagged fileName name values e).Ready fileName :=
  ⟨ready.file, fun none => absurd none (List.append_ne_nil_of_right_ne_nil _ (List.cons_ne_nil _ _)), fun _ => rfl⟩

/-- Reading goes on behind a setting. -/
lemma read_entered {name : Word} {values : List Word} (line line' : Nat) :
    { (NodeTree.entered { d with curLine := line } fileName name values true).read fileName e with curLine := line' } =
      { d.read fileName (.setting line name values e) with curLine := line' } := by
  have notNil : Entries.setting line name values e ≠ .nil := fun eq => by cases eq
  rw [NodeTree.read, NodeTree.read, bound_entered, place_entered, length_entered, List.append_assoc,
    List.singleton_append, NodeTree.bound, if_neg notNil, if_neg notNil]
  dsimp only
  congr 1
  exact ite_self _

/-- Reading goes on behind a tag. -/
lemma read_tagged {name : Word} {values : List Word} {body : Entries} (line closing line' : Nat) :
    { (NodeTree.tagged { d with curLine := line } fileName name values body).read fileName e with curLine := line' } =
      { d.read fileName (.tag line closing name values body e) with curLine := line' } := by
  have notNil : Entries.tag line closing name values body e ≠ .nil := fun eq => by cases eq
  rw [NodeTree.read, NodeTree.read, bound_tagged, place_tagged, length_tagged, List.append_assoc,
    List.cons_append, NodeTree.bound, if_neg notNil, if_neg notNil]
  dsimp only
  congr 1
  exact ite_self _

/-- The parser makes the nodes of the entries of their lines. -/
lemma parseGroups_lines (proper : e.Proper) : ∀ d : NodeTree, d.Ready fileName →
    ∃ line, parseGroups d e.lines = some ({ d.read fileName e with curLine := line }, 0) := by
  induction e with
  | nil =>
    intro d _
    refine ⟨d.curLine, ?_⟩
    rw [NodeTree.read, Entries.flatten, List.append_nil]
    rfl
  | setting line name values rest ih =>
    intro d ready
    obtain ⟨plain, values_plain, rest_proper⟩ := proper
    have ready' : NodeTree.Ready { d with curLine := line } fileName := ⟨ready.file, ready.fresh, ready.prev⟩
    obtain ⟨line', run⟩ := ih rest_proper _ (ready_entered ready' true name values)
    refine ⟨line', ?_⟩
    rw [Entries.lines, parseGroups, parseLine_setting ready' plain values_plain, Option.bind_some]
    dsimp only
    rw [if_neg (by decide), run, read_entered]
  | tag line closing name values body rest ihBody ihRest =>
    intro d ready
    obtain ⟨tagName, values_plain, body_proper, rest_proper⟩ := proper
    have ready' : NodeTree.Ready { d with curLine := line } fileName := ⟨ready.file, ready.fresh, ready.prev⟩
    obtain ⟨line₁, inside⟩ := ihBody body_proper _ (ready_entered ready' false name values)
    have closes := ready_tagged ready' name values body
    obtain ⟨line₂, behind⟩ := ihRest rest_proper
      { NodeTree.tagged { d with curLine := line } fileName name values body with curLine := closing }
      ⟨closes.file, closes.fresh, closes.prev⟩
    refine ⟨line₂, ?_⟩
    rw [Entries.lines, parseGroups, parseLine_tag ready' tagName values_plain, Option.bind_some]
    dsimp only
    rw [if_neg (by decide), parseGroups_append inside, parseGroups, parseLine_closing, Option.bind_some]
    dsimp only
    rw [if_neg (by decide), behind, ← read_tagged line closing line₂]
    rfl

end Groups

end Legacy.Config
