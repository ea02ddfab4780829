import Legacy.Config.Document
import Mathlib.Logic.Relation

/-!
# The pointers of a configuration document

Whatever text a file has, the pointers between the nodes that are made of it belong together: `Family` says how, and the
parser keeps it. Closing tags may come in any order, so that a node that comes after a closing tag in the file can still
be inside the tag; but the nodes that are reached from the first child of a tag are the nodes with the tag as parent.
-/

namespace Legacy.Config

/-- The pointers of the nodes below `size`, by the index of the node. -/
structure Pointers where
  size : Nat
  previousNode : Nat → Option Nat
  nextNode : Nat → Option Nat
  parentNode : Nat → Option Nat
  childNode : Nat → Option Nat
  closed : Nat → Bool

/-- The pointers belong together. -/
structure Family (s : Pointers) : Prop where
  beyond : ∀ i, s.size ≤ i → s.previousNode i = none ∧ s.nextNode i = none ∧ s.parentNode i = none ∧
    s.childNode i = none ∧ s.closed i = true
  next_iff : ∀ i j, s.nextNode i = some j ↔ s.previousNode j = some i
  child_iff : ∀ i j, s.childNode i = some j ↔ s.parentNode j = some i ∧ s.previousNode j = none
  beside : ∀ i j, s.previousNode j = some i → i < j ∧ s.parentNode i = s.parentNode j
  behind : ∀ i j, s.childNode i = some j → j = i + 1
  inside : ∀ i j, s.parentNode j = some i → i < j
  root : ∀ j, j < s.size → s.parentNode j = none → s.previousNode j = none → j = 0

/-- The place of the parser among the nodes: it can go on beside `curPrev` or inside the last node. -/
structure Going (s : Pointers) (curParent curPrev : Option Nat) : Prop extends Family s where
  fresh : s.size = 0 → curParent = none ∧ curPrev = none
  started : 0 < s.size → curPrev ≠ none
  cur : ∀ p, curPrev = some p → p < s.size ∧ s.nextNode p = none ∧ s.parentNode p = curParent ∧
    (p + 1 = s.size ∨ s.closed p = true)
  unclosed : ∀ i, s.closed i = false → s.nextNode i = none

namespace Pointers

/-- A node is added beside `p`. -/
def beside (s : Pointers) (p : Nat) (curParent : Option Nat) (closed : Bool) : Pointers where
  size := s.size + 1
  previousNode i := if i = s.size then some p else s.previousNode i
  nextNode i := if i = p then some s.size else s.nextNode i
  parentNode i := if i = s.size then curParent else s.parentNode i
  childNode := s.childNode
  closed i := if i = s.size then closed else s.closed i

/-- A node is added inside the last node. -/
def within (s : Pointers) (closed : Bool) : Pointers where
  size := s.size + 1
  previousNode := s.previousNode
  nextNode := s.nextNode
  parentNode i := if i = s.size then some (s.size - 1) else s.parentNode i
  childNode i := if i = s.size - 1 then some s.size else s.childNode i
  closed i := if i = s.size then closed else s.closed i

/-- The first node. -/
def single (closed : Bool) : Pointers where
  size := 1
  previousNode _ := none
  nextNode _ := none
  parentNode _ := none
  childNode _ := none
  closed i := if i = 0 then closed else true

/-- A node is closed. -/
def close (s : Pointers) (k : Nat) : Pointers := { s with closed := fun i => if i = k then true else s.closed i }

end Pointers

section Steps

variable {s : Pointers} {curParent curPrev : Option Nat} {p k : Nat} {closed : Bool}

/-- A document with one node. -/
lemma going_single : Going (Pointers.single closed) none (some 0) where
  beyond i past := ⟨rfl, rfl, rfl, rfl, if_neg (Nat.ne_of_gt past)⟩
  next_iff i j := by simp [Pointers.single]
  child_iff i j := by simp [Pointers.single]
  beside i j eq := by cases eq
  behind i j eq := by cases eq
  inside i j eq := by cases eq
  root j lt _ _ := Nat.lt_one_iff.mp lt
  fresh none := by cases none
  started _ := Option.some_ne_none 0
  cur p eq := by
    cases eq
    exact ⟨Nat.zero_lt_one, rfl, rfl, Or.inl rfl⟩
  unclosed _ _ := rfl

/-- A node beside the last one that was entered or closed. -/
lemma Going.addBeside (going : Going s curParent (some p)) (last : s.closed (s.size - 1) = true) :
    Going (s.beside p curParent closed) curParent (some s.size) := by
  obtain ⟨⟨beyond, next_iff, child_iff, beside, behind, inside, root⟩, fresh, started, cur, unclosed⟩ := going
  obtain ⟨lt, noNext, parent, end_or_closed⟩ := cur p rfl
  have shut : s.closed p = true := by
    rcases end_or_closed with eq | shut
    · rw [← eq, Nat.add_sub_cancel] at last
      exact last
    · exact shut
  refine ⟨⟨?_, ?_, ?_, ?_, ?_, ?_, ?_⟩, ?_, ?_, ?_, ?_⟩ <;> dsimp only [Pointers.beside]
  · grind
  · grind
  · grind
  · grind
  · grind
  · grind
  · grind
  · grind
  · grind
  · grind
  · grind

/-- The first node inside the last one, which is open. -/
lemma Going.addWithin (going : Going s curParent curPrev) (last : s.closed (s.size - 1) = false) :
    Going (s.within closed) (some (s.size - 1)) (some s.size) := by
  obtain ⟨⟨beyond, next_iff, child_iff, beside, behind, inside, root⟩, fresh, started, cur, unclosed⟩ := going
  have some_node : 0 < s.size := by grind
  have noNext := unclosed _ last
  have noChild : s.childNode (s.size - 1) = none := by
    cases eq : s.childNode (s.size - 1) with
    | none => rfl
    | some j => grind
  refine ⟨⟨?_, ?_, ?_, ?_, ?_, ?_, ?_⟩, ?_, ?_, ?_, ?_⟩ <;> dsimp only [Pointers.within]
  · grind
  · grind
  · grind
  · grind
  · grind
  · grind
  · grind
  · grind
  · grind
  · grind
  · grind

/-- A closing tag closes an open node and goes on beside it. -/
lemma Going.close (going : Going s curParent curPrev) (isOpen : s.closed k = false) :
    Going (s.close k) (s.parentNode k) (some k) := by
  obtain ⟨⟨beyond, next_iff, child_iff, beside, behind, inside, root⟩, fresh, started, cur, unclosed⟩ := going
  have noNext := unclosed _ isOpen
  have lt : k < s.size := by grind
  refine ⟨⟨?_, next_iff, child_iff, beside, behind, inside, root⟩, ?_, ?_, ?_, ?_⟩ <;> dsimp only [Pointers.close]
  · grind
  · grind
  · grind
  · grind
  · grind

end Steps

/-- The pointers of the nodes of a document. -/
def NodeTree.pointers (d : NodeTree) : Pointers where
  size := d.nodeTree.length
  previousNode i := d.nodeTree[i]?.bind DOTCONFDocumentNode.previousNode
  nextNode i := d.nodeTree[i]?.bind DOTCONFDocumentNode.nextNode
  parentNode i := d.nodeTree[i]?.bind DOTCONFDocumentNode.parentNode
  childNode i := d.nodeTree[i]?.bind DOTCONFDocumentNode.childNode
  closed i := (d.nodeTree[i]?.map DOTCONFDocumentNode.closed).getD true

/-- A document between two words. -/
structure NodeTree.Grows (d : NodeTree) : Prop where
  going : Going d.pointers d.curParent d.curPrev
  files : d.processedFiles ≠ []

section Nodes

variable {d d' : NodeTree} {s s' : LineState} {nodes : List DOTCONFDocumentNode} {node : DOTCONFDocumentNode}
  {i k : Nat} {name word : Word} {closed : Bool} {words : List Word} {ret : Int}

/-- A node after one of the nodes was changed. -/
lemma getElem?_modified (f : DOTCONFDocumentNode → DOTCONFDocumentNode) :
    (nodes.modify k f)[i]? = if i = k then nodes[i]?.map f else nodes[i]? := by
  split_ifs with eq
  · rw [eq, List.getElem?_modify_eq]
    rfl
  · rw [List.getElem?_modify_ne _ _ (Ne.symm eq)]

/-- A pointer that the change leaves alone. -/
lemma bind_modify {f : DOTCONFDocumentNode → DOTCONFDocumentNode} {g : DOTCONFDocumentNode → Option Nat}
    (same : ∀ node, g (f node) = g node) : (nodes.modify k f)[i]?.bind g = nodes[i]?.bind g := by
  rw [getElem?_modified]
  split_ifs
  · cases nodes[i]? with
    | none => rfl
    | some node => exact same node
  · rfl

/-- Whether nodes are closed, when the change leaves it alone. -/
lemma closed_modify {f : DOTCONFDocumentNode → DOTCONFDocumentNode} (same : ∀ node, (f node).closed = node.closed) :
    ((nodes.modify k f)[i]?.map DOTCONFDocumentNode.closed).getD true =
      (nodes[i]?.map DOTCONFDocumentNode.closed).getD true := by
  rw [getElem?_modified]
  split_ifs
  · cases nodes[i]? with
    | none => rfl
    | some node => exact same node
  · rfl

/-- A node after one more was added. -/
lemma getElem?_concat : (nodes ++ [node])[i]? = if i = nodes.length then some node else nodes[i]? := by
  split_ifs with eq
  · rw [eq, List.getElem?_concat_length]
  · rw [List.getElem?_append]
    split_ifs with lt
    · rfl
    · rw [List.getElem?_eq_none, List.getElem?_eq_none]
      · omega
      · rw [List.length_singleton]
        omega

/-- A value changes no pointer. -/
lemma pointers_pushValue (v : Word) : (d.pushValue k v).pointers = d.pointers := by
  unfold NodeTree.pushValue NodeTree.pointers
  simp only [List.length_modify, bind_modify, closed_modify, implies_true]

/-- A closing tag changes the pointers of the document, and closes its node. -/
lemma pointers_closeNode : (d.closeNode k).pointers = d.pointers.close k := by
  unfold NodeTree.closeNode NodeTree.pointers Pointers.close
  simp only [List.length_modify, bind_modify, implies_true, Pointers.mk.injEq, true_and]
  funext i
  rw [getElem?_modified]
  split_ifs
  · cases d.nodeTree[i]? <;> rfl
  · rfl

section Added

variable {f : DOTCONFDocumentNode → DOTCONFDocumentNode} {g : DOTCONFDocumentNode → Option Nat} {j : Nat}

/-- The nodes when one of them was linked to a new node, and the new node was added. -/
lemma getElem?_added :
    (nodes.modify k f ++ [node])[i]? =
      if i = nodes.length then some node else if i = k then nodes[i]?.map f else nodes[i]? := by
  rw [getElem?_concat, List.length_modify, getElem?_modified]

/-- A pointer that the link does not set. -/
lemma bind_kept (same : ∀ node, g (f node) = g node) :
    (nodes.modify k f ++ [node])[i]?.bind g = if i = nodes.length then g node else nodes[i]?.bind g := by
  rw [getElem?_added]
  split_ifs
  · rfl
  · cases nodes[i]? with
    | none => rfl
    | some node => exact same node
  · rfl

/-- A pointer that the link does not set and the new node does not have. -/
lemma bind_blank (same : ∀ node, g (f node) = g node) (blank : g node = none) :
    (nodes.modify k f ++ [node])[i]?.bind g = nodes[i]?.bind g := by
  rw [bind_kept same]
  split_ifs with new
  · rw [new, List.getElem?_eq_none (Nat.le_refl _), blank]
    rfl
  · rfl

/-- The pointer that the link sets. -/
lemma bind_set (set : ∀ node, g (f node) = some j) (blank : g node = none) (lt : k < nodes.length) :
    (nodes.modify k f ++ [node])[i]?.bind g = if i = k then some j else nodes[i]?.bind g := by
  rw [getElem?_added]
  split_ifs with new here here
  · omega
  · rw [new, List.getElem?_eq_none (Nat.le_refl _)]
    exact blank
  · rw [here, List.getElem?_eq_getElem lt]
    exact set _
  · rfl

/-- Whether nodes are closed after a node was added and its neighbour changed. -/
lemma closed_kept (same : ∀ node, (f node).closed = node.closed) :
    ((nodes.modify k f ++ [node])[i]?.map DOTCONFDocumentNode.closed).getD true =
      if i = nodes.length then node.closed else (nodes[i]?.map DOTCONFDocumentNode.closed).getD true := by
  rw [getElem?_added]
  split_ifs
  · rfl
  · cases nodes[i]? with
    | none => rfl
    | some node => exact same node
  · rfl

end Added

/-- A node that is added stands where the code links it. -/
lemma pointers_addNode (inside : ∀ p, d.curPrev = some p → p < d.nodeTree.length)
    (added : d.addNode name closed = some d') :
    d.nodeTree = [] ∧ d'.pointers = .single closed ∧ d'.curParent = d.curParent ∧ d'.curPrev = some 0 ∨
    (∃ p, d.curPrev = some p ∧ d.pointers.closed (d.pointers.size - 1) = true ∧
      d'.pointers = d.pointers.beside p d.curParent closed ∧ d'.curParent = d.curParent ∧
        d'.curPrev = some d.pointers.size) ∨
    d.pointers.closed (d.pointers.size - 1) = false ∧ d'.pointers = d.pointers.within closed ∧
      d'.curParent = some (d.pointers.size - 1) ∧ d'.curPrev = some d.pointers.size := by
  obtain ⟨fileName, -, added⟩ := Option.bind_eq_some_iff.mp added
  have back : d.pointers.closed (d.pointers.size - 1) =
      (d.nodeTree.getLast?.map DOTCONFDocumentNode.closed).getD true := by
    rw [List.getLast?_eq_getElem?]
    rfl
  rw [back]
  cases last : d.nodeTree.getLast? with
  | none =>
    rw [last] at added
    cases added
    have empty := List.getLast?_eq_none_iff.mp last
    refine Or.inl ⟨empty, ?_, rfl, by rw [empty]; rfl⟩
    unfold NodeTree.pointers Pointers.single
    simp only [Pointers.mk.injEq]
    refine ⟨rfl, ?_, ?_, ?_, ?_, ?_⟩ <;> funext i <;> cases i <;> rfl
  | some prev =>
    have lt : d.nodeTree.length - 1 < d.nodeTree.length :=
      Nat.sub_lt (List.length_pos_iff.mpr fun none => by rw [none] at last; cases last) Nat.one_pos
    rw [last] at added
    dsimp only at added
    split_ifs at added with isClosed
    · obtain ⟨p, cur, rfl⟩ := Option.map_eq_some_iff.mp added
      refine Or.inr (Or.inl ⟨p, cur, isClosed, ?_, rfl, rfl⟩)
      unfold NodeTree.pointers Pointers.beside
      simp only [Pointers.mk.injEq, List.length_append, List.length_modify, List.length_singleton, true_and]
      refine ⟨?_, ?_, ?_, ?_, ?_⟩ <;> funext i
      · exact bind_kept fun _ => rfl
      · exact bind_set (fun _ => rfl) rfl (inside p cur)
      · exact bind_kept fun _ => rfl
      · exact bind_blank (fun _ => rfl) rfl
      · exact closed_kept fun _ => rfl
    · cases added
      refine Or.inr (Or.inr ⟨Bool.eq_false_iff.mpr isClosed, ?_, rfl, rfl⟩)
      unfold NodeTree.pointers Pointers.within
      simp only [Pointers.mk.injEq, List.length_append, List.length_modify, List.length_singleton, true_and]
      refine ⟨?_, ?_, ?_, ?_, ?_⟩ <;> funext i
      · exact bind_blank (fun _ => rfl) rfl
      · exact bind_blank (fun _ => rfl) rfl
      · exact bind_kept fun _ => rfl
      · exact bind_set (fun _ => rfl) rfl lt
      · exact closed_kept fun _ => rfl

/-- A document without nodes. -/
lemma going_empty (empty : d.nodeTree = []) : Going d.pointers none none := by
  unfold NodeTree.pointers
  rw [empty]
  constructor
  · constructor <;> simp
  · simp
  · simp
  · simp
  · simp

/-- A closing tag finds a node that is open. -/
lemma open_of_lastOpen (found : d.lastOpen name = some i) : d.pointers.closed i = false := by
  obtain ⟨j, there, rfl⟩ := Option.map_eq_some_iff.mp found
  obtain ⟨lt, here, -⟩ := List.findIdx?_eq_some_iff_getElem.mp there
  rw [List.getElem_reverse] at here
  rw [List.length_reverse] at lt
  have closed := (Bool.and_eq_true_iff.mp here).2
  show (Option.map _ (d.nodeTree[d.nodeTree.length - 1 - j]?)).getD true = false
  rw [List.getElem?_eq_getElem (by omega)]
  exact (Bool.not_eq_true' _).mp closed

/-- Every word keeps the pointers of the document together. -/
lemma Grows.parseWord (grows : d.Grows) (step : parseWord d s word = some (d', s', ret)) : d'.Grows := by
  obtain ⟨going, files⟩ := grows
  obtain ⟨-, made⟩ := parseWord_step step
  generalize s'.tagNode = tagNode at made
  cases made with
  | value named there => exact ⟨by rw [pointers_pushValue]; exact going, files⟩
  | close found => exact ⟨by rw [pointers_closeNode]; exact going.close (open_of_lastOpen found), files⟩
  | unmatched lost => exact ⟨going, files⟩
  | enter added =>
    obtain ⟨nodes, curParent, curPrev, frame⟩ := addNode_frame added
    refine ⟨?_, by rw [frame]; exact files⟩
    rcases pointers_addNode (fun p cur => (going.cur p cur).1) added with
      ⟨empty, eq, parent, prev⟩ | ⟨p, cur, last, eq, parent, prev⟩ | ⟨last, eq, parent, prev⟩
    · rw [eq, parent, prev, (going.fresh (by rw [NodeTree.pointers, empty]; rfl)).1]
      exact going_single
    · rw [eq, parent, prev]
      rw [cur] at going
      exact going.addBeside last
    · rw [eq, parent, prev]
      exact going.addWithin last

/-- A closing tag, as the parser sees it. -/
def closing (word : Word) : Bool := (trim word).head? = some '<' && (trim word)[1]? = some '/'

/-- A line has a value behind its leading closing tags: the last of them has no `>`, and there is no node on the line
that the value could belong to. -/
def stray (pending : Bool) : List Word → Bool
  | [] => false
  | word :: words =>
    if closing word then stray (word.getLast? ≠ some '>') words else pending && word.head? ≠ some '<'

/-- A closing tag begins with `<`. -/
lemma head_of_closing (tag : closing word = true) : word.head? = some '<' := by
  have head := of_decide_eq_true (Bool.and_eq_true_iff.mp tag).1
  unfold trim at head
  split_ifs at head
  · cases word with
    | nil => cases head
    | cons c word =>
      cases word with
      | nil => cases head
      | cons c' word => exact head
  · exact head

/-- A new node always finds its file, and its neighbour. -/
lemma addNode_isSome (grows : d.Grows) (name : Word) (closed : Bool) : ∃ d', d.addNode name closed = some d' := by
  obtain ⟨going, files⟩ := grows
  obtain ⟨fileName, file⟩ := Option.isSome_iff_exists.mp (List.getLast?_isSome.mpr files)
  rw [NodeTree.addNode, file, Option.bind_some]
  cases last : d.nodeTree.getLast? with
  | none => exact ⟨_, rfl⟩
  | some prev =>
    have some_node : 0 < d.nodeTree.length := List.length_pos_iff.mpr fun none => by rw [none] at last; cases last
    obtain ⟨p, cur⟩ := Option.ne_none_iff_exists'.mp (going.started some_node)
    dsimp only
    rw [cur]
    split_ifs <;> exact ⟨_, rfl⟩

/-- The parser follows no `NULL` pointer on a line that has no stray value. -/
lemma parseWords_isSome (grows : d.Grows) (some_char : ∀ w ∈ words, w ≠ [])
    (owned : s.tagNode = none → stray (s.named && !s.newNode) words = false) : ∃ r, parseWords d s words = some r := by
  induction words generalizing d s with
  | nil => exact ⟨_, rfl⟩
  | cons word words ih =>
    have notEmpty := some_char word List.mem_cons_self
    have step : ∃ r, parseWord d s word = some r ∧
        (r.2.1.tagNode = none → r.2.2 ≠ -1 → stray (r.2.1.named && !r.2.1.newNode) words = false) := by
      rw [parseWord, if_neg notEmpty]
      dsimp only
      split
      case isTrue named =>
        cases node : s.tagNode with
        | some tagNode => exact ⟨_, rfl, fun none => by cases none⟩
        | none =>
          obtain ⟨isNamed, noTag⟩ := Bool.and_eq_true_iff.mp named
          have value := owned node
          rw [Bool.not_eq_true', Bool.or_eq_false_iff, decide_eq_false_iff_not] at noTag
          have notClosing : closing word = false := Bool.eq_false_iff.mpr fun tag => noTag.2 (head_of_closing tag)
          rw [stray, notClosing, isNamed, noTag.1, decide_eq_true noTag.2] at value
          cases value
      split
      case isTrue tag =>
        have isClosing : closing word = true := tag
        cases found : d.lastOpen ((trim word).drop 2) with
        | some i =>
          refine ⟨_, rfl, fun none _ => ?_⟩
          have rest := owned none
          rw [stray, isClosing, if_pos rfl] at rest
          show stray (true && !decide _) words = false
          rw [Bool.true_and, ← decide_not]
          exact rest
        | none => exact ⟨_, rfl, fun _ ok => absurd rfl ok⟩
      · obtain ⟨d', added⟩ :=
          addNode_isSome grows (if (trim word).head? = some '<' then (trim word).drop 1 else trim word)
            ((trim word).head? ≠ some '<')
        exact ⟨_, by rw [added]; rfl, fun none => by cases none⟩
    obtain ⟨⟨d', s', ret⟩, step, owned'⟩ := step
    rw [parseWords, step, Option.bind_some]
    dsimp only
    split_ifs with failed
    · exact ⟨_, rfl⟩
    · exact ih (Grows.parseWord grows step) (fun w mem => some_char w (List.mem_cons_of_mem _ mem))
        fun none => owned' none failed

end Nodes

section Kin

variable {s : Pointers} {i j c : Nat} {p : Option Nat}

/-- A node is reached from another by going to the next node, again and again. -/
def Pointers.Reached (s : Pointers) : Nat → Nat → Prop := Relation.ReflTransGen fun i j => s.nextNode i = some j

/-- Nodes that are reached from each other have the same parent. -/
lemma Family.parent_of_reached (family : Family s) (reached : s.Reached i j) : s.parentNode j = s.parentNode i := by
  induction reached with
  | refl => rfl
  | tail _ next ih => exact (family.beside _ _ ((family.next_iff _ _).mp next)).2.symm.trans ih

/-- A node is reached from the node that comes first among those with the same parent. -/
lemma Family.reached_of_parent (family : Family s) (own : s.parentNode j = p) :
    ∃ c, s.Reached c j ∧ s.previousNode c = none ∧ s.parentNode c = p := by
  induction j using Nat.strongRecOn with
  | ind j ih =>
    cases prev : s.previousNode j with
    | none => exact ⟨j, .refl, prev, own⟩
    | some q =>
      obtain ⟨lt, same⟩ := family.beside q j prev
      obtain ⟨c, reached, begins⟩ := ih q lt (same.trans own)
      exact ⟨c, reached.tail ((family.next_iff q j).mpr prev), begins⟩

/-- What a reader of a document goes through: the nodes inside a node from its first child on, and the nodes outside
all tags from the first node on. -/
structure Pointers.Readable (s : Pointers) : Prop where
  back : ∀ i j, s.nextNode i = some j ↔ s.previousNode j = some i
  onward : ∀ i j, s.nextNode i = some j → i < j
  childless : ∀ i, s.childNode i = none → ∀ j, s.parentNode j ≠ some i
  children : ∀ i c, s.childNode i = some c → ∀ j, s.parentNode j = some i ↔ s.Reached c j
  outermost : ∀ j, j < s.size → (s.parentNode j = none ↔ s.Reached 0 j)

/-- When the pointers belong together, they lead through the nodes of every tag. -/
lemma Family.readable (family : Family s) : s.Readable where
  back := family.next_iff
  onward i j next := (family.beside i j ((family.next_iff i j).mp next)).1
  childless i none j own := by
    obtain ⟨c, -, begins, parent⟩ := family.reached_of_parent own
    have child := (family.child_iff i c).mpr ⟨parent, begins⟩
    rw [none] at child
    cases child
  children i c child j := by
    have begins := (family.child_iff i c).mp child
    refine ⟨fun own => ?_, fun reached => (family.parent_of_reached reached).trans begins.1⟩
    obtain ⟨c', reached, first, parent⟩ := family.reached_of_parent own
    have child' := (family.child_iff i c').mpr ⟨parent, first⟩
    rw [child] at child'
    cases child'
    exact reached
  outermost j lt := by
    have zero : s.parentNode 0 = none := by
      cases parent : s.parentNode 0 with
      | none => rfl
      | some p => exact absurd (family.inside p 0 parent) (Nat.not_lt_zero p)
    refine ⟨fun own => ?_, fun reached => (family.parent_of_reached reached).trans zero⟩
    obtain ⟨c, reached, first, parent⟩ := family.reached_of_parent own
    have inside : c < s.size := by
      rcases Nat.lt_or_ge c s.size with inside | past
      · exact inside
      · cases reached using Relation.ReflTransGen.head_induction_on with
        | refl => exact lt
        | head next _ _ =>
          rw [(family.beyond c past).2.1] at next
          cases next
    rw [family.root c inside parent first] at reached
    exact reached

end Kin

section Text

variable {d d' : DOTCONFDocument} {chunk : List Char} {chunks : List (List Char)} {words : List Word} {quoted : Bool}
  {ret : Int}

/-- The text of the buffer with a line feed at its end. -/
def fed (chunk : List Char) : List Char :=
  let str := chunk.takeWhile (· ≠ nul)
  if str.getLast? = some '\n' then str else str ++ ['\n']

/-- The words of the lines of a text that `parseLine` is called on. -/
def cutLines (words : List Word) (quoted : Bool) : List (List Char) → List (List Word)
  | [] => []
  | chunk :: chunks =>
    let (c, ret) := cleanupLine words quoted (fed chunk)
    if ret = 0 && !c.words.isEmpty then c.words :: cutLines [] c.quoted chunks else cutLines c.words c.quoted chunks

/-- A document between two lines. -/
structure DOTCONFDocument.Open (d : DOTCONFDocument) : Prop where
  grows : d.toNodeTree.Grows
  some_char : ∀ w ∈ d.words, w ≠ []
  kept : d.mempoolFreed = false

/-- A warning only prints. -/
lemma warn_eq (str : List Char) : ∃ stderr, d.warn str = { d with stderr := stderr } := by
  unfold DOTCONFDocument.warn
  split_ifs
  · exact ⟨_, rfl⟩
  · exact ⟨d.stderr, rfl⟩

/-- A line without a stray value follows no `NULL` pointer, and the document grows as it should. -/
lemma parseLine_grows {d : NodeTree} (grows : d.Grows) (some_char : ∀ w ∈ words, w ≠ [])
    (owned : stray false words = false) :
    ∃ d' ret, parseLine d words = some (d', ret) ∧ d'.Grows := by
  obtain ⟨⟨d', ret⟩, run⟩ := parseWords_isSome grows some_char (s := ⟨false, none, false⟩) fun _ => owned
  obtain ⟨-, grows'⟩ := parseWords_invariant (fun d _ => d.Grows) (fun d s word d' s' ret => Grows.parseWord) grows run
  exact ⟨d', ret, run, grows'⟩

/-- A round of the loop of `parseFile` follows no `NULL` pointer when its words have no stray value. -/
lemma parseCleaned_open (ret : Int) (grows : d.toNodeTree.Grows) (kept : d.mempoolFreed = false) {c : Cleanup}
    (some_char : ∀ w ∈ c.words, w ≠ [])
    (owned : (ret = 0 && !c.words.isEmpty) = true → stray false c.words = false) :
    ∃ d' ret', d.parseCleaned c ret = some (d', ret') ∧ d'.Open ∧ d'.quoted = c.quoted ∧
      (ret' ≠ -1 → d'.words = if ret = 0 && !c.words.isEmpty then [] else c.words) := by
  rw [DOTCONFDocument.parseCleaned]
  dsimp only
  by_cases failed : ret = -1
  · rw [if_pos failed]
    exact ⟨_, _, rfl, ⟨⟨grows.going, grows.files⟩, some_char, kept⟩, rfl, fun ok => absurd rfl ok⟩
  rw [if_neg failed]
  by_cases line : (ret = 0 && !c.words.isEmpty) = true
  · obtain ⟨tree, ret', run, grows'⟩ := parseLine_grows grows some_char (owned line)
    rw [if_pos line, kept, if_neg Bool.false_ne_true, run]
    exact ⟨_, _, rfl, ⟨grows', fun w mem => absurd mem List.not_mem_nil, rfl⟩, rfl, fun _ => (if_pos line).symm⟩
  · rw [if_neg line]
    exact ⟨_, _, rfl, ⟨grows, some_char, kept⟩, rfl, fun _ => (if_neg line).symm⟩

/-- Neither does a round of the loop of `parseFile`, which leaves the rest of the text to the next. -/
lemma parseChunk_open (isOpen : d.Open) (noNul : chunk.takeWhile (· ≠ nul) ≠ [])
    (owned : ∀ ws ∈ cutLines d.words d.quoted (chunk :: chunks), stray false ws = false) :
    ∃ d' ret, d.parseChunk chunk = some (d', ret) ∧ d'.Open ∧
      (ret ≠ -1 → ∀ ws ∈ cutLines d'.words d'.quoted chunks, stray false ws = false) := by
  obtain ⟨stderr, warned⟩ := warn_eq (d := { d with curLine := d.curLine + 1 }) (chunk.takeWhile (· ≠ nul))
  rw [DOTCONFDocument.parseChunk]
  dsimp only
  rw [if_neg noNul, warned]
  have cleaned : cleanupLine d.words d.quoted (fed chunk) = cleanupLine d.words d.quoted (fed chunk) := rfl
  generalize eq : cleanupLine d.words d.quoted (fed chunk) = result at cleaned
  obtain ⟨c, ret⟩ := result
  have some_char : ∀ w ∈ c.words, w ≠ [] := by
    have kept := cleanupLoop_words false (fed chunk)
      (s := ⟨d.words, [], !d.words.isEmpty && d.quoted, d.quoted⟩) isOpen.some_char
    rw [show cleanupLoop false _ (fed chunk) = (c, ret) from eq] at kept
    exact kept
  rw [cutLines, eq] at owned
  dsimp only at owned
  show ∃ d' ret, (match cleanupLine d.words d.quoted (fed chunk) with | (c, ret) => _) = some (d', ret) ∧ _
  rw [eq]
  obtain ⟨d', ret', run, isOpen', quoted', words'⟩ := parseCleaned_open ret
    (d := { d with curLine := d.curLine + 1, stderr := stderr }) ⟨isOpen.grows.going, isOpen.grows.files⟩
    isOpen.kept some_char (fun line => owned _ (by rw [if_pos line]; exact List.mem_cons_self))
  refine ⟨d', ret', run, isOpen', fun ok ws mem => ?_⟩
  rw [quoted', words' ok] at mem
  apply owned ws
  split_ifs at mem ⊢ with line
  · exact List.mem_cons_of_mem _ mem
  · exact mem

/-- Neither does the whole loop. -/
lemma parseChunks_open (ret : Int) (isOpen : d.Open) (noNul : ∀ chunk ∈ chunks, chunk.takeWhile (· ≠ nul) ≠ [])
    (owned : ∀ ws ∈ cutLines d.words d.quoted chunks, stray false ws = false) :
    ∃ d' ret', d.parseChunks ret chunks = some (d', ret') ∧ d'.Open := by
  induction chunks generalizing d ret with
  | nil => exact ⟨d, ret, rfl, isOpen⟩
  | cons chunk chunks ih =>
    obtain ⟨d₁, ret₁, first, isOpen₁, owned₁⟩ := parseChunk_open isOpen (noNul chunk List.mem_cons_self) owned
    rw [DOTCONFDocument.parseChunks, first, Option.bind_some]
    dsimp only
    split_ifs with failed
    · exact ⟨d₁, -1, rfl, isOpen₁⟩
    · exact ih ret₁ isOpen₁ (fun chunk mem => noNul chunk (List.mem_cons_of_mem _ mem)) (owned₁ failed)

/-- What `fgets` reads has a character. -/
lemma ne_nil_of_mem_fgets {room : Nat} {str text : List Char} (mem : chunk ∈ fgets room str text) : chunk ≠ [] := by
  induction text generalizing room str with
  | nil =>
    rw [fgets] at mem
    split_ifs at mem with empty
    · cases mem
    · cases List.mem_singleton.mp mem
      exact empty
  | cons c text ih =>
    rw [fgets] at mem
    split_ifs at mem
    · rcases List.mem_cons.mp mem with rfl | mem
      · exact List.append_ne_nil_of_right_ne_nil _ (List.cons_ne_nil _ _)
      · exact ih mem
    · exact ih mem

/-- A text that does not begin with a NUL is not empty as a C string. -/
lemma takeWhile_of_head (some_char : chunk ≠ []) (noNul : chunk.head? ≠ some nul) : chunk.takeWhile (· ≠ nul) ≠ [] := by
  cases chunk with
  | nil => exact absurd rfl some_char
  | cons c chunk =>
    have other : decide (c ≠ nul) = true := decide_eq_true fun eq => noNul (congrArg some eq)
    rw [List.takeWhile_cons, if_pos other]
    exact List.cons_ne_nil _ _

/-- A new document that is about to read a file. -/
structure DOTCONFDocument.Fresh (d : DOTCONFDocument) : Prop where
  empty : d.nodeTree = []
  nowhere : d.curPrev = none
  files : d.processedFiles ≠ []
  noWords : d.words = []
  kept : d.mempoolFreed = false

/-- Whatever text a file has, reading it follows no pointer that is `NULL` as long as no line of it begins with a NUL
or has a stray value behind a closing tag, and the nodes that it makes, also when it ends with an error, can be gone
through along their pointers. -/
theorem parseFile_readable (text : List Char) (fresh : d.Fresh)
    (noNul : ∀ chunk ∈ fgets 510 [] text, chunk.head? ≠ some nul)
    (owned : ∀ ws ∈ cutLines [] false (fgets 510 [] text), stray false ws = false) :
    ∃ d' ret, d.parseFile text = some (d', ret) ∧ d'.pointers.Readable := by
  obtain ⟨empty, nowhere, files, noWords, kept⟩ := fresh
  have isOpen : DOTCONFDocument.Open { d with curLine := 0, curParent := none, quoted := false } := by
    refine ⟨⟨?_, files⟩, fun w mem => ?_, kept⟩
    · show Going d.pointers none d.curPrev
      rw [nowhere]
      exact going_empty empty
    · rw [noWords] at mem
      cases mem
  rw [← noWords] at owned
  obtain ⟨d', ret, run, isOpen'⟩ := parseChunks_open 0 isOpen
    (fun chunk mem => takeWhile_of_head (ne_nil_of_mem_fgets mem) (noNul chunk mem)) owned
  exact ⟨d', ret, run, isOpen'.grows.going.toFamily.readable⟩

/-- A document that has opened its file. -/
def opened : DOTCONFDocument := ⟨⟨false, none, none, 0, [], [['f']], ['f'], []⟩, false, [], [], false⟩

/-- Two tags that are closed the wrong way round: the last setting is inside the tag that was closed first. -/
def crossed : List Char :=
  ['<', 'a', '>', '\n', '<', 'b', '>', '\n', 'x', ' ', '1', '\n', '<', '/', 'a', '>', '\n', '<', '/', 'b', '>', '\n',
    'y', '=', '2', '\n']

/-- Tags that are closed the wrong way round leave readable pointers. -/
theorem parseFile_readable_crossed :
    ∃ d' ret, opened.parseFile crossed = some (d', ret) ∧ d'.pointers.Readable :=
  parseFile_readable crossed ⟨rfl, rfl, List.cons_ne_nil _ _, rfl, rfl⟩ (by decide) (by decide)

example : (opened.parseFile crossed).map (fun r => r.1.nodeTree.map DOTCONFDocumentNode.parentNode) =
    some [none, some 0, some 1, some 0] := by decide +kernel

end Text

end Legacy.Config
