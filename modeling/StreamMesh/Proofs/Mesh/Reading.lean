import StreamMesh.Mesh.Processor
import StreamMesh.Proofs.Assoc

/-!
# What others read from a manifest

Components, containers and scalers look up what concerns them in the manifests: a name, a setting,
an environment variable, a trigger. A look-up lists all values under a key, so that a single value
is seen to be the only one.

## Main definitions

* `Manifest.textAt?`, `Manifest.itemsAt` — a text or a list under a path of keys
* `Manifest.kind?`, `Manifest.ns?`, `Manifest.name?` — what tells objects of a cluster apart
* `Manifest.settings`, `Manifest.environment`, `Manifest.triggers` — settings of a component,
  environment variables of a deployment, and entries of the triggers of a scaler
* `Manifest.targetPorts`, `Manifest.containerPorts` — the ports of a service and of a deployment
* `Manifest.annotation?` — what a deployment tells the component of its pods
* `ofKind`, `objectsNamed`, `componentsNamed` — the manifests among files that have a kind, a kind
  and a name, or as components also a type

## Main results

* `Mesh.textsNamed_entries` — what a table without repeated keys holds under a name
* `Mesh.Processor.environment_deployment` — the environment that a deployment gives to its container
-/

namespace StreamMesh

namespace Manifest

/-- The text under a path of keys. -/
def textAt? (m : Manifest) (path : List String) : Option RawText := (m.at? path).bind text?

/-- The items of a list under a path of keys. -/
def itemsAt (m : Manifest) (path : List String) : List Manifest :=
  match m.at? path with
  | some (.list items) => items
  | _ => []

/-- The kind of an object. -/
def kind? (m : Manifest) : Option RawText := m.textAt? ["kind"]

/-- The namespace of an object. -/
def ns? (m : Manifest) : Option RawText := m.textAt? ["metadata", "namespace"]

/-- The name of an object. -/
def name? (m : Manifest) : Option RawText := m.textAt? ["metadata", "name"]

/-- The texts that the entries of a name hold, among entries with a name and a value each. -/
def textsNamed (name : RawText) (entries : List Manifest) : List (Option RawText) :=
  (entries.filter fun e => e.textAt? ["name"] == some name).map fun e => e.textAt? ["value"]

/-- The settings of a name in a component. -/
def settings (m : Manifest) (name : String) : List (Option RawText) :=
  textsNamed name (m.itemsAt ["spec", "metadata"])

/-- The environment variables of a name in the containers of a deployment. -/
def environment (m : Manifest) (name : String) : List (Option RawText) :=
  textsNamed name
    ((m.itemsAt ["spec", "template", "spec", "containers"]).flatMap fun c => c.itemsAt ["env"])

/-- What the triggers of a scaler hold under a key. -/
def triggers (m : Manifest) (key : String) : List (Option RawText) :=
  (m.itemsAt ["spec", "triggers"]).map fun t => t.textAt? ["metadata", key]

/-- The ports behind a service. -/
def targetPorts (m : Manifest) : List (Option Manifest) :=
  (m.itemsAt ["spec", "ports"]).map fun p => p.at? ["targetPort"]

/-- The ports of the containers of a deployment. -/
def containerPorts (m : Manifest) : List (Option Manifest) :=
  ((m.itemsAt ["spec", "template", "spec", "containers"]).flatMap fun c => c.itemsAt ["ports"]).map
    fun p => p.at? ["containerPort"]

/-- What a deployment tells the component of its pods under a key. -/
def annotation? (m : Manifest) (key : String) : Option RawText :=
  m.textAt? ["spec", "template", "metadata", "annotations", key]

/-- The type of a component. -/
def componentType? (m : Manifest) : Option RawText := m.textAt? ["spec", "type"]

end Manifest

/-- The manifests of a kind among files. -/
def ofKind (kind : String) (rs : List Rendering) : List Manifest :=
  (rs.map Rendering.manifest).filter fun m => m.kind? == some (.whole kind)

/-- The objects of a kind and a name among files. -/
def objectsNamed (kind name : String) (rs : List Rendering) : List Manifest :=
  (ofKind kind rs).filter fun m => m.name? == some (.whole name)

/-- The components of a type and a name among files. -/
def componentsNamed (type name : String) (rs : List Rendering) : List Manifest :=
  (objectsNamed "Component" name rs).filter fun m => m.componentType? == some (.whole type)

namespace Mesh

open Manifest

@[simp] theorem textAt?_setting_name (name : RawText) (value : Manifest) :
    (setting name value).textAt? ["name"] = some name := rfl

@[simp] theorem textAt?_setting_value (name : RawText) (value : Manifest) :
    (setting name value).textAt? ["value"] = value.text? := rfl

@[simp] theorem text?_str (s : RawText) : (Manifest.str s).text? = some s := rfl

theorem textsNamed_cons (name key : RawText) (value : Manifest) (entries : List Manifest) :
    textsNamed name (setting key value :: entries) =
      if key = name then value.text? :: textsNamed name entries else textsNamed name entries := by
  unfold textsNamed
  by_cases h : key = name <;> simp [h]

theorem textsNamed_eq_nil {name : RawText} {entries : List (RawText × RawText)}
    (h : name ∉ entries.map Prod.fst) :
    textsNamed name (entries.map fun e => setting e.1 (.str e.2)) = [] := by
  induction entries with
  | nil => rfl
  | cons e rest ih =>
    rw [List.map_cons, List.mem_cons, not_or] at h
    rw [List.map_cons, textsNamed_cons, if_neg fun he => h.1 he.symm, ih h.2]

/-- Under a key of a table that repeats none there is its value, and nothing else. -/
theorem textsNamed_entries {m : Assoc RawText RawText} (hm : m.keys.Nodup) {name value : RawText}
    (h : m.find? name = some value) :
    textsNamed name (m.entries.map fun e => setting e.1 (.str e.2)) = [some value] := by
  obtain ⟨entries⟩ := m
  unfold Assoc.find? at h
  unfold Assoc.keys at hm
  simp only at h hm ⊢
  induction entries with
  | nil => cases h
  | cons e rest ih =>
    rw [List.map_cons, List.nodup_cons] at hm
    rw [List.map_cons, textsNamed_cons]
    by_cases he : e.1 = name
    · rw [Assoc.lookup, if_pos he] at h
      rw [if_pos he, textsNamed_eq_nil (he ▸ hm.1), text?_str, Option.some.inj h]
    · rw [Assoc.lookup, if_neg he] at h
      rw [if_neg he, ih hm.2 h]

namespace Processor

variable {d : Deployment} {p : Processor} {name : String}

/-- The variables of a container are those of the processor's environment. -/
theorem environment_deployment (hp : p.env.keys.Nodup) {value : RawText}
    (h : p.env.find? (.whole name) = some value) :
    (p.deployment d).environment name = [some value] := by
  have henv : (p.deployment d).environment name =
      textsNamed name (p.env.entries.map (fun e => setting e.1 (.str e.2)) ++ []) := rfl
  rw [henv, List.append_nil]
  exact textsNamed_entries hp h

end Processor

end Mesh

end StreamMesh
