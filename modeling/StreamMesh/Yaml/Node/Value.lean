import StreamMesh.Yaml.Node.Basic
import StreamMesh.Yaml.Scalar.Binary
import StreamMesh.Yaml.Scalar.Timestamp

/-!
# Values of nodes

Scalars and collections are read level by level: all parts of the collections at one level are read
before the parts of those below, and the first failure counts. So of several failures that of the
outermost level is met, and on one level the first in the text.

## Main definitions

* `Finding` — a failure and the level at which it is met
* `Node.flatten` — the entries of a mapping with those that it merges
* `Node.read` — the value of a node, or the failure that is met
* `Node.toValue` — the same at the outermost level
-/

namespace StreamMesh.Yaml

/-- A failure and the level at which it is met. -/
structure Finding where
  level : Nat
  error : Error

/-- The failure that is met first, where the first stands before the second. -/
def Finding.first : Option Finding → Option Finding → Option Finding
  | none, b => b
  | some a, none => some a
  | some a, some b => if a.level ≤ b.level then some a else some b

/-- A problem with the kind or the tag of a node. -/
def constructError {α : Type} (p : Problem) (m : Mark) : Except Error α :=
  .error (.at .constructor p m)

namespace Node

/-- The key that marks a default value is a text among others once its mapping is read. -/
def plainKey : Node → Node
  | scalar t c m => scalar (if t = .value then .str else t) c m
  | n => n

mutual

/-- The entries of a mapping that is to be merged. A mapping that merges itself adds nothing. -/
def flatten : Node → Except Error (List (Node × Node))
  | mapping _ entries _ => do
    let (merged, own) ← flattenEntries entries
    return merged ++ own
  | around .. => .ok []
  | n => constructError (.wrongNode "a mapping for merging" n.kindName) n.mark

/-- The merged entries and the own entries among some of a mapping. -/
def flattenEntries : List (Node × Node) → Except Error (List (Node × Node) × List (Node × Node))
  | [] => .ok ([], [])
  | (key, v) :: rest =>
    if key.tag = .merge then do
      let more ← flattenMerged v
      let (merged, own) ← flattenEntries rest
      return (more ++ merged, own)
    else do
      let (merged, own) ← flattenEntries rest
      return (merged, (key.plainKey, v) :: own)

/-- The entries that a mapping merges: those of a mapping, or those of a list of mappings, where
the first of the list comes last and so wins. -/
def flattenMerged : Node → Except Error (List (Node × Node))
  | mapping _ entries _ => do
    let (merged, own) ← flattenEntries entries
    return merged ++ own
  | sequence _ items _ => do
    let parts ← flattenItems items
    return parts.reverse.flatten
  | around .. => .ok []
  | n => constructError (.wrongNode "a mapping or list of mappings for merging" n.kindName) n.mark

/-- The entries of each mapping of a list. -/
def flattenItems : List Node → Except Error (List (List (Node × Node)))
  | [] => .ok []
  | n :: rest => do
    let part ← flatten n
    let parts ← flattenItems rest
    return part :: parts

end

mutual

/-- How many levels a node has. -/
def depth : Node → Nat
  | scalar .. => 1
  | sequence _ items _ => itemsDepth items + 1
  | mapping _ entries _ => entriesDepth entries + 1
  | around .. => 1

/-- How many levels the deepest of several nodes has. -/
def itemsDepth : List Node → Nat
  | [] => 0
  | n :: rest => max n.depth (itemsDepth rest)

/-- How many levels the deepest of several entries has. -/
def entriesDepth : List (Node × Node) → Nat
  | [] => 0
  | (k, v) :: rest => max (max k.depth v.depth) (entriesDepth rest)

end

mutual

/-- The text of a scalar, or of the default value of a mapping. -/
def content : Node → Except Error Content
  | scalar _ c _ => .ok c
  | mapping _ entries m => match defaultContent entries with
    | some c => c
    | none => constructError (.wrongNode "a scalar node" "mapping") m
  | n => constructError (.wrongNode "a scalar node" n.kindName) n.mark

/-- The text under the first key that marks a default value. -/
def defaultContent : List (Node × Node) → Option (Except Error Content)
  | [] => none
  | (k, v) :: rest => if k.tag = .value then some v.content else defaultContent rest

end

/-- A text as a value. -/
def textValue (c : Content) : Value := .ofRaw c.text

/-- The characters of content that is read as another type, or the error where it is no string. -/
def spelling (c : Content) (bad : BrokenText → Error) : Except Error (List Char) :=
  match c.text with
  | .whole s => .ok s.toList
  | .broken t => .error (bad t)

/-- The error of a text that spells no number. -/
def badNumber (start : String) (t : BrokenText) : Error := .badSpelling (start ++ t.quoted)

/-- The value of a node with a tag for scalars. -/
def readScalar (n : Node) : Except Error Value := do
  match n.tag with
  | .null => let _ ← n.content; return .null
  | .bool => return .bool (← boolValue (← spelling (← n.content) fun t => .unknownWord (.broken t)))
  | .int =>
    let bad := badNumber "invalid literal for int() with base 10: "
    return .int (← wholeValue (← spelling (← n.content) bad))
  | .float =>
    let bad := badNumber "could not convert string to float: "
    return .float (← floatValue (← spelling (← n.content) bad))
  | .timestamp => timestampValue (← spelling (← n.content) fun _ => .unreadable)
  | .binary => match bytesOfBase64 (← n.content).points with
    | .ok bytes => return .bytes bytes
    | .error p => constructError p n.mark
  | .other name => constructError (.unknownTag name) n.mark
  | _ => return textValue (← n.content)

/-- Whether a tag is one of collections, which cannot be keys. -/
def isCollectionTag : Tag → Bool
  | .seq | .map | .set | .orderedMap | .pairs => true
  | _ => false

/-- A collection whose parts cannot be read. -/
def failed (level : Nat) (p : Problem) (m : Mark) : Value × Option Finding :=
  (.null, some ⟨level, .at .constructor p m⟩)

/-- The parts of a list of single entries, or what is wrong with one of them. -/
def singleEntry (n : Node) : Except Error (Node × Node) :=
  match n with
  | mapping _ [entry] _ => .ok entry
  | mapping _ entries m => constructError (.notSingle entries.length) m
  | n => constructError (.wrongNode "a mapping of length 1" n.kindName) n.mark

/-- The members of a set, each once, in rising order of their texts. -/
def members (entries : List (Value × Value)) : List Value :=
  match Value.ofEntries entries with
  | .map distinct => (distinct.map Prod.fst).mergeSort fun a b => !b.text.precedes a.text
  | _ => []

/-- The first failure of several readings in the order of the text. -/
def firstFinding (findings : List (Option Finding)) : Option Finding :=
  findings.foldr Finding.first none

/-- The readings of several nodes as one. -/
def gather (readings : List (Value × Option Finding)) : List Value × Option Finding :=
  (readings.map Prod.fst, firstFinding (readings.map Prod.snd))

/-- A reading of an entry: its key, its value, and the failure that is met first. -/
structure EntryReading where
  key : Value
  value : Value
  finding : Option Finding

/-- The readings of several entries as one. -/
def gatherEntries (readings : List EntryReading) : List (Value × Value) × Option Finding :=
  (readings.map fun r => (r.key, r.value), firstFinding (readings.map EntryReading.finding))

/-- The failure of a collection that stands as a key. -/
def keyFinding (level : Nat) (key : Node) : Option Finding :=
  if isCollectionTag key.tag then some ⟨level, .at .constructor .badKey key.mark⟩ else none

/-- The entries of a mapping, merged ones first. -/
def allEntries : Node → Except Error (List (Node × Node))
  | mapping _ entries _ => do
    let (merged, own) ← flattenEntries entries
    return merged ++ own
  | n => constructError (.wrongNode "a mapping node" n.kindName) n.mark

/-- The value of a node that is read at a level, or the failure that is met first in it. Levels are
followed as long as there is fuel. -/
def read : Nat → Nat → Node → Value × Option Finding
  | 0, _, _ => (.null, none)
  | fuel + 1, level, n =>
    let inside := read fuel (level + 1)
    let readEntry (key value : Node) : EntryReading :=
      let k := inside key
      let v := inside value
      ⟨k.1, v.1, firstFinding [k.2, keyFinding (level + 1) key, v.2]⟩
    let readEntries : List (Value × Value) × Option Finding :=
      match n.allEntries with
      | .ok entries => gatherEntries (entries.map fun e => readEntry e.1 e.2)
      | .error e => ([], some ⟨level + 1, e⟩)
    let readPair (item : Node) : Value × Option Finding :=
      match singleEntry item with
      | .error e => (.null, some ⟨level + 1, e⟩)
      | .ok (key, value) =>
        let k := inside key
        let v := inside value
        (.tuple [k.1, v.1], firstFinding [k.2, v.2])
    match n, n.tag with
    -- A collection around itself is only asked for its kind, which a list shows as well.
    | around .., _ => (.list [], none)
    | sequence _ items _, .seq =>
      let (values, finding) := gather (items.map inside)
      (.list values, finding)
    | n, .seq => failed (level + 1) (.wrongNode "a sequence node" n.kindName) n.mark
    | _, .map => (.ofEntries readEntries.1, readEntries.2)
    | _, .set => (.set (members readEntries.1), readEntries.2)
    | sequence _ items _, .orderedMap | sequence _ items _, .pairs =>
      let (values, finding) := gather (items.map readPair)
      (.list values, finding)
    | n, .orderedMap | n, .pairs => failed (level + 1) (.wrongNode "a sequence" n.kindName) n.mark
    | n, _ => match n.readScalar with
      | .ok v => (v, none)
      | .error e => (.null, some ⟨level, e⟩)

/-- The value of a node, or the failure that is met first. -/
def toValue (n : Node) : Except Error Value :=
  match n.read n.depth 0 with
  | (v, none) => .ok v
  | (_, some finding) => .error finding.error

end Node

end StreamMesh.Yaml
