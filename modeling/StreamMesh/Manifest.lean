import StreamMesh.Assoc
import StreamMesh.Decimal.Whole
import StreamMesh.Text.Raw

/-!
# Manifests

A manifest is the tree of one generated object: scalars, lists, and mappings whose keys are read
in the order in which they were given.

## Main definitions

* `Scalar`, `Manifest` — the tree
* `Manifest.object` — a mapping from pairs, a repeated key keeping its place
* `Manifest.field?`, `Manifest.at?` — what stands under a key, or under a path of keys
* `Manifest.isWritable` — whether the numbers of a manifest can be written out
-/

namespace StreamMesh

/-- A value without parts. -/
inductive Scalar where
  | null
  | bool (b : Bool)
  | int (n : Int)
  | float (x : Float)
  | str (t : RawText)

/-- The tree of one generated object. -/
inductive Manifest where
  | scalar (value : Scalar)
  | list (items : List Manifest)
  | map (entries : List (String × Manifest))
  deriving Inhabited

namespace Manifest

/-- A text as a manifest. -/
def str (t : RawText) : Manifest := .scalar (.str t)

/-- A number as a manifest. -/
def int (n : Int) : Manifest := .scalar (.int n)

/-- The mapping of a list of pairs: each key at its first place with its last value. -/
def object (pairs : List (String × Manifest)) : Manifest := .map (Assoc.ofList pairs).entries

/-- What a mapping holds under a key. -/
def field? (m : Manifest) (key : String) : Option Manifest :=
  match m with
  | .map entries => Assoc.lookup key entries
  | _ => none

/-- What stands under a path of keys. -/
def at? (m : Manifest) (path : List String) : Option Manifest :=
  path.foldlM field? m

/-- The text of a manifest that is one. -/
def text? : Manifest → Option RawText
  | .scalar (.str s) => some s
  | _ => none

mutual

/-- The whole numbers in a manifest. -/
def numbers : Manifest → List Int
  | .scalar (.int n) => [n]
  | .scalar _ => []
  | .list items => itemNumbers items
  | .map entries => entryNumbers entries

/-- The whole numbers in several manifests. -/
def itemNumbers : List Manifest → List Int
  | [] => []
  | item :: rest => numbers item ++ itemNumbers rest

/-- The whole numbers in the entries of a mapping. -/
def entryNumbers : List (String × Manifest) → List Int
  | [] => []
  | (_, value) :: rest => numbers value ++ entryNumbers rest

end

/-- Whether all numbers of a manifest can be written out. -/
def isWritable (m : Manifest) : Bool := m.numbers.all Decimal.isWritable

end Manifest

end StreamMesh
