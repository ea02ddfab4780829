import Legacy.Config.Words
import Legacy.Lib.SqlText

/-!
# Configuration documents

Model of `DOTCONFDocument` and `DOTCONFDocumentNode` (`src/src/shared/Config/dotconfpp/dotconfpp.cpp`). The nodes of a
document are in the list `nodeTree`, and a pointer to a node is its index there. A step that would follow a `NULL`
pointer, write outside a buffer, or read words whose memory was given back to `mempool`, has the result `none`. What
`error` writes is kept in `stderr`.
-/

namespace Legacy.Config

open Lib.Sql (decimal)

/-- Source `DOTCONFDocumentNode`. -/
structure DOTCONFDocumentNode where
  previousNode : Option Nat
  nextNode : Option Nat
  parentNode : Option Nat
  childNode : Option Nat
  values : List Word
  name : Word
  lineNum : Nat
  fileName : Word
  closed : Bool
deriving DecidableEq, Repr

/-- The members of `DOTCONFDocument` that `parseLine` works on. -/
structure NodeTree where
  caseSensitive : Bool
  curParent : Option Nat
  curPrev : Option Nat
  curLine : Nat
  nodeTree : List DOTCONFDocumentNode
  processedFiles : List Word
  fileName : Word
  stderr : List Word
deriving DecidableEq, Repr

/-- Source `DOTCONFDocument`. The words that wait for the rest of their line are in the memory of `mempool`;
`mempoolFreed` says that this was given back while they wait. -/
structure DOTCONFDocument extends NodeTree where
  quoted : Bool
  words : List Word
  requiredOptions : List Word
  mempoolFreed : Bool
deriving DecidableEq, Repr

namespace NodeTree

/-- Source `DOTCONFDocument::error`. -/
def error (d : NodeTree) (lineNum : Nat) (fileName msg : Word) : NodeTree :=
  { d with stderr := d.stderr ++ [
      if lineNum ≠ 0 then
        "DOTCONF++: file '".toList ++ fileName ++ "', line ".toList ++ decimal lineNum ++ ": ".toList ++ msg ++ ['\n']
      else "DOTCONF++: ".toList ++ msg ++ ['\n']] }

/-- Source `cmp_func`, which is `strcmp` or `strcasecmp`: the names are equal. -/
def sameName (d : NodeTree) (a b : Word) : Bool :=
  if d.caseSensitive then a = b else a.map Char.toLower = b.map Char.toLower

/-- The loop of `parseLine` over the nodes from the back, for the last one that a closing tag can close. -/
def lastOpen (d : NodeTree) (nodeName : Word) : Option Nat :=
  (d.nodeTree.reverse.findIdx? fun node => d.sameName nodeName node.name && !node.closed).map
    fun i => d.nodeTree.length - 1 - i

/-- A closing tag closes the node, and goes back to the nodes beside it. -/
def closeNode (d : NodeTree) (i : Nat) : NodeTree :=
  { d with
    nodeTree := d.nodeTree.modify i fun node => { node with closed := true }
    curParent := d.nodeTree[i]?.bind DOTCONFDocumentNode.parentNode
    curPrev := some i }

/-- A new node is linked behind the last node: as its child, if that node is open, and otherwise beside `curPrev`. -/
def addNode (d : NodeTree) (name : Word) (closed : Bool) : Option NodeTree :=
  d.processedFiles.getLast?.bind fun fileName =>
    let tagNode : DOTCONFDocumentNode := ⟨none, none, none, none, [], name, d.curLine, fileName, closed⟩
    let k := d.nodeTree.length
    match d.nodeTree.getLast? with
    | none => some { d with nodeTree := [tagNode], curPrev := some k }
    | some prev =>
      if prev.closed then
        d.curPrev.map fun p => { d with
          nodeTree := d.nodeTree.modify p (fun node => { node with nextNode := some k }) ++
            [{ tagNode with previousNode := some p, parentNode := d.curParent }]
          curPrev := some k }
      else some { d with
        nodeTree := d.nodeTree.modify (k - 1) (fun node => { node with childNode := some k }) ++
          [{ tagNode with parentNode := some (k - 1) }]
        curParent := some (k - 1)
        curPrev := some k }

/-- Source `DOTCONFDocumentNode::pushValue`. -/
def pushValue (d : NodeTree) (i : Nat) (value : Word) : NodeTree :=
  { d with nodeTree := d.nodeTree.modify i fun node => { node with values := node.values ++ [value] } }

end NodeTree

/-- The variables of `parseLine`: whether `nodeName` is set, `tagNode` and `newNode`. -/
structure LineState where
  named : Bool
  tagNode : Option Nat
  newNode : Bool

/-- The `>` at the end of a word is cut off. -/
def trim (word : Word) : Word := if word.getLast? = some '>' then word.dropLast else word

/-- A round of the loop of `parseLine`: a word is a value of the last node, a closing tag or the name of a new node. -/
def parseWord (d : NodeTree) (s : LineState) (word : Word) : Option (NodeTree × LineState × Int) :=
  if word = [] then none
  else
    let named := s.named && !(s.newNode || word.head? = some '<')
    let newNode := word.getLast? = some '>'
    let word := trim word
    if named then s.tagNode.map fun tagNode => (d.pushValue tagNode word, ⟨true, s.tagNode, newNode⟩, 0)
    else if word.head? = some '<' && word[1]? = some '/' then
      match d.lastOpen (word.drop 2) with
      | some i => some (d.closeNode i, ⟨true, s.tagNode, newNode⟩, 0)
      | none =>
        some (d.error d.curLine d.fileName ("not matched closing tag </".toList ++ word.drop 2 ++ ['>']),
          ⟨true, s.tagNode, newNode⟩, -1)
    else
      (d.addNode (if word.head? = some '<' then word.drop 1 else word) (word.head? ≠ some '<')).map fun d' =>
        (d', ⟨true, some d.nodeTree.length, newNode⟩, 0)

/-- The loop of `parseLine` over the words of a line. -/
def parseWords (d : NodeTree) (s : LineState) : List Word → Option (NodeTree × Int)
  | [] => some (d, 0)
  | word :: words =>
    (parseWord d s word).bind fun (d, s, ret) => if ret = -1 then some (d, -1) else parseWords d s words

/-- Source `DOTCONFDocument::parseLine`. -/
def parseLine (d : NodeTree) (words : List Word) : Option (NodeTree × Int) := parseWords d ⟨false, none, false⟩ words

/-- The chunks that `fgets` reads from a text: lines, and pieces of 510 characters of longer lines; `room` is what is
left of the buffer. -/
def fgets (room : Nat) (str : List Char) : List Char → List (List Char)
  | [] => if str = [] then [] else [str]
  | c :: text =>
    if c = '\n' ∨ room ≤ 1 then (str ++ [c]) :: fgets 510 [] text else fgets (room - 1) (str ++ [c]) text

namespace DOTCONFDocument

/-- A text that fills the buffer is reported. -/
def warn (d : DOTCONFDocument) (str : List Char) : DOTCONFDocument :=
  if str.length ≥ 510 then { d with toNodeTree := d.error d.curLine d.fileName "warning: line too long".toList } else d

/-- What `parseFile` does with a text that `cleanupLine` cut into words. -/
def parseCleaned (d : DOTCONFDocument) (c : Cleanup) (ret : Int) : Option (DOTCONFDocument × Int) :=
  let d := { d with words := c.words, quoted := c.quoted }
  if ret = -1 then some ({ d with toNodeTree := d.error d.curLine d.fileName "unterminated quote".toList }, -1)
  else if ret = 0 && !d.words.isEmpty then
    if d.mempoolFreed then none
    else (parseLine d.toNodeTree d.words).map fun (tree, ret) => ({ d with toNodeTree := tree, words := [] }, ret)
  else some (d, ret)

/-- A round of the loop of `parseFile`: the text of the buffer ends at its first NUL, and a line feed is added to it
when it has none. -/
def parseChunk (d : DOTCONFDocument) (chunk : List Char) : Option (DOTCONFDocument × Int) :=
  let str := chunk.takeWhile (· ≠ nul)
  let d := { d with curLine := d.curLine + 1 }.warn str
  if str = [] then none
  else
    let (c, ret) := cleanupLine d.words d.quoted (if str.getLast? = some '\n' then str else str ++ ['\n'])
    d.parseCleaned c ret

/-- The loop of `parseFile`. -/
def parseChunks (d : DOTCONFDocument) (ret : Int) : List (List Char) → Option (DOTCONFDocument × Int)
  | [] => some (d, ret)
  | str :: chunks => (d.parseChunk str).bind fun (d, ret) => if ret = -1 then some (d, -1) else d.parseChunks ret chunks

/-- Source `DOTCONFDocument::parseFile`. -/
def parseFile (d : DOTCONFDocument) (text : List Char) : Option (DOTCONFDocument × Int) :=
  { d with curLine := 0, curParent := none, quoted := false }.parseChunks 0 (fgets 510 [] text)

/-- Source `DOTCONFDocument::findNode`. -/
def findNode (d : DOTCONFDocument) (nodeName : Word) (parentNode startNode : Option Nat) : Option Nat :=
  let i := match startNode.or parentNode with
    | none => 0
    | some startNode => startNode + 1
  ((d.nodeTree.drop i).findIdx? fun node => node.parentNode = parentNode && d.sameName nodeName node.name).map (· + i)

end DOTCONFDocument

/-- Source `DOTCONFDocumentNode::getValue`. -/
def DOTCONFDocumentNode.getValue (node : DOTCONFDocumentNode) (index : Nat) : Option Word := node.values[index]?

section Steps

variable {d d' : NodeTree} {s s' : LineState} {word : Word} {words : List Word} {ret : Int}

/-- What a word can do. -/
inductive WordStep (d : NodeTree) (s : LineState) : NodeTree → Option Nat → Int → Prop where
  | value {tagNode v} : s.named = true → s.tagNode = some tagNode → WordStep d s (d.pushValue tagNode v) s.tagNode 0
  | close {name i} : d.lastOpen name = some i → WordStep d s (d.closeNode i) s.tagNode 0
  | unmatched {name} : d.lastOpen name = none →
      WordStep d s (d.error d.curLine d.fileName ("not matched closing tag </".toList ++ name ++ ['>'])) s.tagNode (-1)
  | enter {name closed d'} : d.addNode name closed = some d' → WordStep d s d' (some d.nodeTree.length) 0

/-- Every word does one of these. -/
lemma parseWord_step (step : parseWord d s word = some (d', s', ret)) :
    s'.named = true ∧ WordStep d s d' s'.tagNode ret := by
  unfold parseWord at step
  dsimp only at step
  split at step
  · cases step
  split at step
  case isTrue named =>
    obtain ⟨tagNode, there, eq⟩ := Option.map_eq_some_iff.mp step
    cases eq
    exact ⟨rfl, .value (Bool.and_eq_true_iff.mp named).1 there⟩
  split at step
  · split at step
    case h_1 i found =>
      cases step
      exact ⟨rfl, .close found⟩
    case h_2 lost =>
      cases step
      exact ⟨rfl, .unmatched lost⟩
  · obtain ⟨d₁, added, eq⟩ := Option.map_eq_some_iff.mp step
    cases eq
    exact ⟨rfl, .enter added⟩

/-- What every word keeps, a line keeps. -/
lemma parseWords_invariant (P : NodeTree → LineState → Prop)
    (keep : ∀ d s word d' s' ret, P d s → parseWord d s word = some (d', s', ret) → P d' s') (init : P d s)
    (run : parseWords d s words = some (d', ret)) : ∃ s', P d' s' := by
  induction words generalizing d s with
  | nil =>
    cases run
    exact ⟨s, init⟩
  | cons word words ih =>
    obtain ⟨⟨d₁, s₁, ret₁⟩, step, run⟩ := Option.bind_eq_some_iff.mp run
    have kept := keep d s word d₁ s₁ ret₁ init step
    dsimp only at run
    split_ifs at run
    · cases run
      exact ⟨s₁, kept⟩
    · exact ih kept run

/-- A new node changes the nodes and the place among them only. -/
lemma addNode_frame {name : Word} {closed : Bool} (added : d.addNode name closed = some d') :
    ∃ nodes curParent curPrev, d' = { d with nodeTree := nodes, curParent := curParent, curPrev := curPrev } := by
  obtain ⟨fileName, -, added⟩ := Option.bind_eq_some_iff.mp added
  cases last : d.nodeTree.getLast? with
  | none =>
    rw [last] at added
    cases added
    exact ⟨_, _, _, rfl⟩
  | some prev =>
    rw [last] at added
    dsimp only at added
    split_ifs at added
    · obtain ⟨p, -, rfl⟩ := Option.map_eq_some_iff.mp added
      exact ⟨_, _, _, rfl⟩
    · cases added
      exact ⟨_, _, _, rfl⟩

/-- A line of words changes the nodes and the place among them, and it may print a message. -/
lemma parseLine_frame (run : parseLine d words = some (d', ret)) :
    ∃ nodes curParent curPrev stderr,
      d' = { d with nodeTree := nodes, curParent := curParent, curPrev := curPrev, stderr := stderr } := by
  have keep : ∀ d₀ s word d₁ s' ret,
      (∃ nodes curParent curPrev stderr,
        d₀ = { d with nodeTree := nodes, curParent := curParent, curPrev := curPrev, stderr := stderr }) →
      parseWord d₀ s word = some (d₁, s', ret) →
      ∃ nodes curParent curPrev stderr,
        d₁ = { d with nodeTree := nodes, curParent := curParent, curPrev := curPrev, stderr := stderr } := by
    rintro _ s word d₁ s' ret ⟨nodes, curParent, curPrev, stderr, rfl⟩ step
    obtain ⟨-, made⟩ := parseWord_step step
    generalize s'.tagNode = tagNode at made
    cases made with
    | value named there => exact ⟨_, _, _, _, rfl⟩
    | close found => exact ⟨_, _, _, _, rfl⟩
    | unmatched lost => exact ⟨_, _, _, _, rfl⟩
    | enter added =>
      obtain ⟨nodes', curParent', curPrev', rfl⟩ := addNode_frame added
      exact ⟨nodes', curParent', curPrev', stderr, rfl⟩
  obtain ⟨-, kept⟩ := parseWords_invariant _ keep ⟨d.nodeTree, d.curParent, d.curPrev, d.stderr, rfl⟩ run
  exact kept

end Steps

end Legacy.Config
