import StreamMesh.Yaml.Node.Basic
import StreamMesh.Yaml.Token.Scan

/-!
# Nodes from tokens

The tokens are read from the first to the last, each once. The error of the text is met only where
a token beyond the last good one is asked for.

## Main definitions

* `Reader` — the tokens that are left, and the anchors met so far
* `Reader.node` — a node
* `Reader.document` — the only document of a text
-/

namespace StreamMesh.Yaml

/-- The tokens that are left, and what the document has declared so far. -/
structure Reader where
  tokens : List Token
  /-- The error after the last token. -/
  error : Error
  /-- What the handles of tags stand for. -/
  handles : List (String × String)
  /-- The nodes with an anchor; one that is not complete refers to itself. -/
  anchors : List (String × Node)

/-- A step of reading. -/
abbrev Read (α : Type) := StateT Reader (Except Error) α

namespace Reader

/-- The handles that need no declaration. -/
def standardHandles : List (String × String) := [("!", "!"), ("!!", Tag.standardStart)]

/-- A problem of the order of tokens. -/
def parseError {α : Type} (p : Problem) (m : Mark) : Read α := throw (.at .parser p m)

/-- A problem of anchors or documents. -/
def composeError {α : Type} (p : Problem) (m : Mark) : Read α := throw (.at .composer p m)

/-- The next token, which stays. -/
def peek : Read Token := fun r =>
  match r.tokens with
  | t :: _ => .ok (t, r)
  | [] => .error r.error

/-- Passes over the next token. -/
def advance : Read Unit := modify fun r => { r with tokens := r.tokens.tail }

/-- Whether the next token is a lexeme. -/
def nextIs (l : Lexeme) : Read Bool := return (← peek).lexeme == l

/-- An empty scalar, which stands for null. -/
def emptyNode (m : Mark) : Node := .scalar .null .empty m

/-- An anchor and a tag before a node, with the place of the first of them. -/
structure Properties where
  anchor : Option String
  tag : Option String
  start : Option Mark

/-- The full name of a tag. -/
def resolveTag (handle : Option String) (suffix : String) (m : Mark) : Read String := do
  match handle with
  | none => return suffix
  | some h => match (← get).handles.lookup h with
    | some expansion => return expansion ++ suffix
    | none => parseError (.unknownHandle h) m

/-- An anchor or a tag or both, in either order. -/
def properties : Read Properties := do
  let first ← peek
  match first.lexeme with
  | .anchor name =>
    advance
    let second ← peek
    match second.lexeme with
    | .tag handle suffix =>
      advance
      return ⟨some name, some (← resolveTag handle suffix second.start), some first.start⟩
    | _ => return ⟨some name, none, some first.start⟩
  | .tag handle suffix =>
    advance
    let second ← peek
    match second.lexeme with
    | .anchor name =>
      advance
      return ⟨some name, some (← resolveTag handle suffix first.start), some first.start⟩
    | _ => return ⟨none, some (← resolveTag handle suffix first.start), some first.start⟩
  | _ => return ⟨none, none, none⟩

/-- The tag of content by its spelling; content that is no string can only be text. -/
def spelledTag (content : Content) : Tag :=
  match content.text with
  | .whole s => Tag.ofImplicit (Implicit.ofPlain s.toList)
  | .broken _ => .str

/-- The tag of a scalar. -/
def scalarTag (p : Properties) (content : Content) (plain : Bool) : Tag :=
  match p.tag with
  | none => if plain then spelledTag content else .str
  | some "!" => spelledTag content
  | some name => Tag.ofName name

/-- The tag of a collection. -/
def collectionTag (p : Properties) (standard : Tag) : Tag :=
  match p.tag with
  | none => standard
  | some "!" => standard
  | some name => Tag.ofName name

/-- Refuses an anchor that the document has already. -/
def checkAnchor (p : Properties) (start : Mark) : Read Unit := do
  match p.anchor with
  | none => return
  | some name =>
    if ((← get).anchors.lookup name).isSome then composeError .secondAnchor start

/-- Gives an anchor its node. -/
def bind (p : Properties) (n : Node) : Read Unit :=
  match p.anchor with
  | none => return
  | some name => modify fun r => { r with anchors := (name, n) :: r.anchors }

/-- A scalar with its properties. -/
def finishScalar (p : Properties) (tag : Tag) (content : Content) (start : Mark) : Read Node := do
  checkAnchor p start
  let n := Node.scalar tag content start
  bind p n
  return n

/-- A collection with its properties, whose parts `body` reads. -/
def finishCollection {α : Type} (p : Properties) (start : Mark) (body : Read α) (make : α → Node) :
    Read Node := do
  checkAnchor p start
  match p.anchor with
  | none => return make (← body)
  | some name =>
    bind p (.around name start)
    let n := (make (← body)).unfolded name
    bind p n
    return n

/-- The node that an alias stands for. -/
def aliased (name : String) (m : Mark) : Read Node := do
  match (← get).anchors.lookup name with
  | some n => return n
  | none => composeError (.unknownAlias name) m

/-- Whether a lexeme is one of several. -/
def isAmong (ls : List Lexeme) (t : Token) : Bool := ls.contains t.lexeme

/-- A node without content: an empty scalar if it has properties, and an error otherwise. -/
def noContent (p : Properties) (start : Mark) (t : Token) : Read Node :=
  if p.start.isSome then finishScalar p (scalarTag p .empty true) .empty start
  else parseError (.expected "the node content" t.lexeme.name) t.start

/-- The comma between two items of a flow collection. -/
def separated (close : String) : Read Unit := do
  let t ← peek
  match t.lexeme with
  | .comma => advance
  | l => parseError (.expectedComma close l.name) t.start

mutual

/-- A node. Blocks may start only if `block`, and lists at the column of their key only if
`flush`. -/
def node (block flush : Bool) : Nat → Read Node
  | 0 => throw .unreadable
  | fuel + 1 => do
    let first ← peek
    if let .reference name := first.lexeme then
      advance
      return ← aliased name first.start
    let p ← properties
    let t ← peek
    let start := p.start.getD t.start
    match t.lexeme with
    | .entry =>
      if flush then
        finishCollection p start (flushItems fuel) fun items =>
          .sequence (collectionTag p .seq) items start
      else noContent p start t
    | .scalar content plain =>
      advance
      finishScalar p (scalarTag p content plain) content start
    | .flowSequence =>
      finishCollection p start (do advance; flowItems true fuel) fun items =>
        .sequence (collectionTag p .seq) items start
    | .flowMapping =>
      finishCollection p start (do advance; flowEntries true fuel) fun entries =>
        .mapping (collectionTag p .map) entries start
    | .blockSequence =>
      if block then
        finishCollection p start (do advance; blockItems fuel) fun items =>
          .sequence (collectionTag p .seq) items start
      else noContent p start t
    | .blockMapping =>
      if block then
        finishCollection p start (do advance; blockEntries fuel) fun entries =>
          .mapping (collectionTag p .map) entries start
      else noContent p start t
    | _ => noContent p start t

/-- The items of a block list, up to its end. -/
def blockItems : Nat → Read (List Node)
  | 0 => throw .unreadable
  | fuel + 1 => do
    let t ← peek
    match t.lexeme with
    | .entry =>
      advance
      let n ← if isAmong [.entry, .blockEnd] (← peek) then pure (emptyNode t.stop)
        else node true false fuel
      return n :: (← blockItems fuel)
    | .blockEnd =>
      advance
      return []
    | l => parseError (.expected "<block end>" l.name) t.start

/-- The items of a list at the column of its key. -/
def flushItems : Nat → Read (List Node)
  | 0 => throw .unreadable
  | fuel + 1 => do
    let t ← peek
    match t.lexeme with
    | .entry =>
      advance
      let n ← if isAmong [.entry, .key, .value, .blockEnd] (← peek) then pure (emptyNode t.stop)
        else node true false fuel
      return n :: (← flushItems fuel)
    | _ => return []

/-- The entries of a block mapping, up to its end. -/
def blockEntries : Nat → Read (List (Node × Node))
  | 0 => throw .unreadable
  | fuel + 1 => do
    let t ← peek
    match t.lexeme with
    | .key =>
      advance
      let k ← if isAmong [.key, .value, .blockEnd] (← peek) then pure (emptyNode t.stop)
        else node true true fuel
      let v ← blockValue fuel
      return (k, v) :: (← blockEntries fuel)
    | .blockEnd =>
      advance
      return []
    | l => parseError (.expected "<block end>" l.name) t.start

/-- The value of an entry of a block mapping; without a colon it is null. -/
def blockValue : Nat → Read Node
  | 0 => throw .unreadable
  | fuel + 1 => do
    let t ← peek
    match t.lexeme with
    | .value =>
      advance
      if isAmong [.key, .value, .blockEnd] (← peek) then return emptyNode t.stop
      else node true true fuel
    | _ => return emptyNode t.start

/-- The items of a flow list, up to its end. An item with a colon is a mapping of one entry. -/
def flowItems (first : Bool) : Nat → Read (List Node)
  | 0 => throw .unreadable
  | fuel + 1 => do
    if ← nextIs .flowSequenceEnd then
      advance
      return []
    if !first then separated "]"
    let t ← peek
    match t.lexeme with
    | .flowSequenceEnd =>
      advance
      return []
    | .key =>
      advance
      let k ← if isAmong [.value, .comma, .flowSequenceEnd] (← peek) then pure (emptyNode t.stop)
        else node false false fuel
      let v ← flowValue .flowSequenceEnd fuel
      return .mapping .map [(k, v)] t.start :: (← flowItems false fuel)
    | _ =>
      let n ← node false false fuel
      return n :: (← flowItems false fuel)

/-- The entries of a flow mapping, up to its end. -/
def flowEntries (first : Bool) : Nat → Read (List (Node × Node))
  | 0 => throw .unreadable
  | fuel + 1 => do
    if ← nextIs .flowMappingEnd then
      advance
      return []
    if !first then separated "\x7d"
    let t ← peek
    match t.lexeme with
    | .flowMappingEnd =>
      advance
      return []
    | .key =>
      advance
      let k ← if isAmong [.value, .comma, .flowMappingEnd] (← peek) then pure (emptyNode t.stop)
        else node false false fuel
      let v ← flowValue .flowMappingEnd fuel
      return (k, v) :: (← flowEntries false fuel)
    | _ =>
      let k ← node false false fuel
      let after ← peek
      return (k, emptyNode after.start) :: (← flowEntries false fuel)

/-- The value of an entry inside a flow collection with the given end; without a colon it is
null. -/
def flowValue (close : Lexeme) : Nat → Read Node
  | 0 => throw .unreadable
  | fuel + 1 => do
    let t ← peek
    match t.lexeme with
    | .value =>
      advance
      if isAmong [.comma, close] (← peek) then return emptyNode t.stop
      else node false false fuel
    | _ => return emptyNode t.start

end

/-- How many steps reading takes at most. -/
def fuel : Read Nat := return 4 * (← get).tokens.length + 8

/-- The directives before a document. -/
def directives (version : Bool) : Nat → Read Unit
  | 0 => throw .unreadable
  | fuel + 1 => do
    let t ← peek
    match t.lexeme with
    | .version major =>
      advance
      if version then parseError .secondVersion t.start
      if major != 1 then parseError .unsupportedVersion t.start
      directives true fuel
    | .handle name expansion =>
      advance
      if ((← get).handles.lookup name).isSome then parseError (.secondHandle name) t.start
      modify fun r => { r with handles := (name, expansion) :: r.handles }
      directives version fuel
    | .otherDirective =>
      advance
      directives version fuel
    | _ => return

/-- Passes over the marks that end documents. -/
def skipEnds : Nat → Read Unit
  | 0 => throw .unreadable
  | fuel + 1 => do
    if ← nextIs .documentEnd then
      advance
      skipEnds fuel

/-- The start of a document with directives; there is none at the end of the text. -/
def documentStart : Read (Option Mark) := do
  skipEnds (← fuel)
  let t ← peek
  if t.lexeme == .streamEnd then return none
  modify fun r => { r with handles := [] }
  directives false (← fuel)
  modify fun r => { r with handles := r.handles ++ standardHandles }
  let start ← peek
  if start.lexeme == .documentStart then
    advance
    return some t.start
  else parseError (.expected "'<document start>'" start.lexeme.name) start.start

/-- Whether a token ends what stands in a document. -/
def endsDocument (t : Token) : Bool :=
  match t.lexeme with
  | .version _ | .handle .. | .otherDirective | .documentStart | .documentEnd | .streamEnd => true
  | _ => false

/-- What stands in a document after its start. -/
def documentContent : Read Node := do
  let t ← peek
  if endsDocument t then return emptyNode t.start else node true false (← fuel)

/-- The node of the first document, if there is one. -/
def firstDocument : Read (Option Node) := do
  let t ← peek
  if endsDocument t && t.lexeme != .documentEnd then
    match ← documentStart with
    | none => return none
    | some _ => return some (← documentContent)
  else return some (← node true false (← fuel))

/-- The node of the only document of a text, if there is one. -/
def document : Read (Option Node) := do
  match ← firstDocument with
  | none => return none
  | some n =>
    if ← nextIs .documentEnd then advance
    match ← documentStart with
    | none => return some n
    | some m => composeError .secondDocument m

end Reader

/-- The node of a text that holds one document at most. -/
def Node.ofTokens? (ts : Tokens) : Except Error (Option Node) :=
  (Reader.document.run ⟨ts.tokens, ts.error.getD .unreadable, Reader.standardHandles, []⟩).map
    Prod.fst

end StreamMesh.Yaml
