import Legacy.Config.Files

/-!
# Reading a configuration

Model of `checkConfig`, of the substitution of macros and of `setContent`
(`src/src/shared/Config/dotconfpp/dotconfpp.cpp`), which reads a file and the files that it includes, and of the class
`Config` (`src/src/shared/Config/Config.cpp`). What the operating system answers is a parameter. The loop over the nodes
grows while it runs, so it has a bound on its rounds.
-/

namespace Legacy.Config

/-- What the parser asks the operating system for; an error comes with its text. -/
structure System where
  realpath : Word → Except Word Word
  fopen : Word → Except Word (List Char)
  access : Word → Option Word
  getenv : Word → Option Word

/-- The default value of a macro without the quotes around it. -/
def unquoted (value : Word) : Word :=
  if value.head? = some '"' ∨ value.head? = some '\'' then (value.drop 1).dropLast else value

/-- Source `DOTCONFDocument::getSubstitution` on what stands between the braces. While it looks for the variable among
the nodes, the value with the macro is cut off inside the macro: `cut` is what the node `self` has as its first value
then. An error has its text. -/
def getSubstitution (io : System) (d : NodeTree) (self : Option (Nat × Word)) (macroText : Word) : Except Word Word :=
  let variable' := macroText.takeWhile (· ≠ ':')
  let rest := macroText.dropWhile (· ≠ ':')
  if rest ≠ [] ∧ rest[1]? ≠ some '-' then .error "incorrect macro substitution syntax".toList
  else
    match io.getenv variable' with
    | some subs => .ok subs
    | none =>
      let first := d.nodeTree.findIdx? fun node => d.sameName node.name variable' && !node.values.isEmpty
      match first with
      | some i => .ok (match self with
        | some (k, cut) => if i = k then cut else (d.nodeTree[i]?.bind fun node => node.values.head?).getD []
        | none => (d.nodeTree[i]?.bind fun node => node.values.head?).getD [])
      | none =>
        if rest ≠ [] then .ok (unquoted (rest.drop 2))
        else .error "substitution not found and default value not given".toList

/-- The loop of `macroSubstitute`: `skip` inside a macro, `read` is what was read of the value, `cut` is what is left
of it when a macro was cut, and `value` is the new value. -/
def macroLoop (io : System) (d : NodeTree) (k vi : Nat) (skip : Bool) (read : Word) (cut : Option Word) (value : Word) :
    List Char → Word × Option Word
  | [] => (value, none)
  | c :: rest =>
    if skip then macroLoop io d k vi (c ≠ '}') (read ++ [c]) cut value rest
    else if c = '$' ∧ rest.head? = some '{' then
      let after := rest.drop 1
      if '}' ∉ after then (value, some "unterminated '\x7b'".toList)
      else
        let macroText := after.takeWhile (· ≠ '}')
        let cut := cut.getD (read ++ '$' :: '{' :: macroText.takeWhile (· ≠ ':'))
        match getSubstitution io d (if vi = 0 then some (k, cut) else none) macroText with
        | .error msg => (value, some msg)
        | .ok subs => macroLoop io d k vi true (read ++ [c]) (some cut) (value ++ subs) rest
    else macroLoop io d k vi false (read ++ [c]) cut (value ++ [c]) rest

/-- Source `DOTCONFDocument::macroSubstitute`. -/
def macroSubstitute (io : System) (d : NodeTree) (k vi : Nat) (node : DOTCONFDocumentNode) (text : Word) :
    NodeTree × Int :=
  let (value, failed) := macroLoop io d k vi false [] none [] text
  let d := match failed with
    | some msg => d.error node.lineNum d.fileName msg
    | none => d
  ({ d with nodeTree := d.nodeTree.modify k fun node => { node with values := node.values.set vi value } },
    if failed.isSome then -1 else 0)

/-- The text has `${` somewhere. -/
def opensMacro : Word → Bool
  | [] => false
  | c :: rest => c = '$' && rest.head? = some '{' || opensMacro rest

/-- Whether `checkConfig` substitutes the macros of a value: it has `${` and `}` somewhere. -/
def hasMacro (text : Word) : Bool := opensMacro text && '}' ∈ text

/-- The loop of `checkConfig` over the values of a node. -/
def checkValues (io : System) (d : NodeTree) (k : Nat) : List Nat → NodeTree × Int
  | [] => (d, 0)
  | vi :: rest =>
    match d.nodeTree[k]?, d.nodeTree[k]?.bind (·.values[vi]?) with
    | some node, some text =>
      if hasMacro text then
        let (d, ret) := macroSubstitute io d k vi node text
        if ret = -1 then (d, -1) else checkValues io d k rest
      else checkValues io d k rest
    | _, _ => (d, 0)

/-- The loop of `checkConfig` over the nodes. -/
def checkNodes (io : System) (d : NodeTree) : List Nat → NodeTree × Int
  | [] => (d, 0)
  | k :: rest =>
    match d.nodeTree[k]? with
    | some node =>
      if !node.closed then (d.error node.lineNum node.fileName ("unclosed tag ".toList ++ node.name), -1)
      else
        let (d, ret) := checkValues io d k (List.range node.values.length)
        if ret = -1 then (d, -1) else checkNodes io d rest
    | none => (d, 0)

/-- Source `DOTCONFDocument::checkConfig`, for the nodes from an index on. -/
def checkConfig (io : System) (d : NodeTree) (start : Nat) : NodeTree × Int :=
  checkNodes io d (List.range' start (d.nodeTree.length - start))

/-- Why there is no result: a pointer that is `NULL` or points at memory that was given back, or the bound on the rounds
of a loop. -/
inductive Stop where
  | fault
  | rounds
deriving DecidableEq

namespace DOTCONFDocument

/-- A message about the document, with `-1`. -/
def fail (d : DOTCONFDocument) (lineNum : Nat) (fileName msg : Word) : DOTCONFDocument × Int :=
  ({ d with toNodeTree := d.error lineNum fileName msg }, -1)

/-- `checkConfig` on the nodes from an index on. It gives the memory of `mempool` back after every macro that it
substituted, also when there are words in it that wait for the rest of their line. -/
def check (io : System) (d : DOTCONFDocument) (start : Nat) : DOTCONFDocument × Int :=
  let (tree, ret) := checkConfig io d.toNodeTree start
  let substituted := (d.nodeTree.drop start).any fun node => node.values.any hasMacro
  ({ d with toNodeTree := tree, mempoolFreed := d.mempoolFreed || (!d.words.isEmpty && substituted) }, ret)

/-- An included file is read: `none` says that it was read before. -/
def includeFile (io : System) (d : DOTCONFDocument) (tag : DOTCONFDocumentNode) (value : Word) :
    Except Stop (DOTCONFDocument × Option Int) :=
  let failed (d : DOTCONFDocument) (file msg : Word) : Except Stop (DOTCONFDocument × Option Int) :=
    .ok ({ d with toNodeTree := d.error tag.lineNum file msg }, some (-1))
  match io.access value with
  | some reason => failed d tag.fileName (value ++ ": ".toList ++ reason)
  | none =>
    match io.realpath value with
    | .error reason => failed d tag.fileName ("realpath(".toList ++ value ++ ") failed: ".toList ++ reason)
    | .ok path =>
      if path ∈ d.processedFiles then .ok (d, none)
      else
        let d := { d with processedFiles := d.processedFiles ++ [path] }
        match io.fopen value with
        | .error reason => failed d d.fileName ("failed to open file '".toList ++ value ++ "': ".toList ++ reason)
        | .ok text =>
          match { d with fileName := path }.parseFile text with
          | none => .error .fault
          | some (d', ret) =>
            if ret = -1 then .ok (d', some (-1))
            else
              let (d', checked) := d'.check io d.nodeTree.length
              .ok (d', some (if checked = -1 then -1 else ret))

/-- The loop of `setContent` over the values of an include; `true` says that the loop over the nodes goes on. -/
def includeFiles (io : System) (d : DOTCONFDocument) (tag : DOTCONFDocumentNode) (ret : Int) :
    List Word → Except Stop (DOTCONFDocument × Int)
  | [] => .ok (d, ret)
  | value :: values => (d.includeFile io tag value).bind fun
    | (d, none) => .ok (d, ret)
    | (d, some ret) => if ret = -1 then .ok (d, -1) else d.includeFiles io tag ret values

/-- The loop of `setContent` over the nodes, to which included files add more. -/
def includeNodes (io : System) (d : DOTCONFDocument) (ret : Int) (i : Nat) : Nat → Except Stop (DOTCONFDocument × Int)
  | 0 => .error .rounds
  | rounds + 1 =>
    match d.nodeTree[i]? with
    | none => .ok (d, ret)
    | some tag =>
      if d.sameName "DOTCONFPPIncludeFile".toList tag.name then
        (d.includeFiles io tag ret tag.values).bind fun (d, ret) =>
          if ret = -1 then .ok (d, -1) else d.includeNodes io ret (i + 1) rounds
      else d.includeNodes io ret (i + 1) rounds

/-- Source `DOTCONFDocument::checkRequiredOptions`. -/
def checkRequiredOptions (d : DOTCONFDocument) : List Word → DOTCONFDocument × Int
  | [] => (d, 0)
  | name :: names =>
    if d.nodeTree.any fun node => d.sameName node.name name then d.checkRequiredOptions names
    else d.fail 0 [] ("required option '".toList ++ name ++ "' not specified".toList)

/-- Source `DOTCONFDocument::setContent`. -/
def setContent (io : System) (d : DOTCONFDocument) (fileName : Word) (rounds : Nat) :
    Except Stop (DOTCONFDocument × Int) :=
  match io.realpath fileName with
  | .error reason => .ok (d.fail 0 [] ("realpath(".toList ++ fileName ++ ") failed: ".toList ++ reason))
  | .ok path =>
    let d := { d with fileName := path, processedFiles := d.processedFiles ++ [path] }
    match io.fopen path with
    | .error reason => .ok (d.fail 0 [] ("failed to open file '".toList ++ path ++ "': ".toList ++ reason))
    | .ok text =>
      match d.parseFile text with
      | none => .error .fault
      | some (d, ret) =>
        if ret ≠ 0 then .ok (d, ret)
        else
          let (d, ret) := d.check io 0
          if ret = -1 then .ok (d, -1)
          else (d.includeNodes io ret 0 rounds).bind fun (d, ret) =>
            if ret = -1 then .ok (d, -1)
            else if d.requiredOptions = [] then .ok (d, ret) else .ok (d.checkRequiredOptions d.requiredOptions)

end DOTCONFDocument

end Legacy.Config
