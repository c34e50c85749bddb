import Mathlib.Data.List.Nodup
import StreamMesh.Proofs.Artifact
import StreamMesh.Proofs.Compile.Objects
import StreamMesh.Proofs.Pairing

/-!
# When the generated objects are told apart

Names of nodes may hold hyphens, and hyphens put the names of objects together. So two different
objects of one pipeline can be given the same file, or the same identity in the cluster. This
happens in a few ways only, which can be read off the names of the nodes.

## Main definitions

* `Spec.NamesApart` — connections are given different names
* `Spec.FilesApart`, `Spec.IdentitiesApart` — what is needed in addition for files and for
  identities

## Main results

* `Mesh.Object.eq_of_stem_eq`, `Mesh.Object.eq_of_identity_eq` — objects that share a file or an
  identity are the same, if the names of the pipeline are apart
* `Compilation.nodup_relativePath_iff` — when all files of a compilation differ
* `Compilation.nodup_identity_iff` — when all identities differ
-/

namespace StreamMesh

variable {spec : Spec} {config d : Deployment} {c : Compiled}

namespace Spec

/-- The connections of a pipeline are given different names. -/
structure NamesApart (spec : Spec) : Prop where
  /-- No two sources and their subscribers are put together to one name. -/
  ingress : ∀ {a p a' p'}, spec.Subscribes a p → spec.Subscribes a' p' →
    a ++ "-" ++ p = a' ++ "-" ++ p' → a = a'
  /-- No sink is called like a source and its subscriber. -/
  egress : ∀ {a p k}, spec.Subscribes a p → spec.Has .sink k → a ++ "-" ++ p ≠ k
  /-- No two connections between processors are put together to one name. -/
  stream : ∀ {p q p' q'}, spec.Streams p q → spec.Streams p' q' →
    p ++ "-stream-" ++ q = p' ++ "-stream-" ++ q' → p = p'

/-- In addition, no broker has the file of a subscription. -/
structure FilesApart (spec : Spec) (ns : String) : Prop extends spec.NamesApart where
  broker : ∀ {p q p' q'}, spec.Streams p q → spec.Streams p' q' →
    "kafka-broker-" ++ q ≠ ns ++ "-" ++ p' ++ "-stream-" ++ q' ++ "-subscription"

/-- In addition, no broker is called like a binding. -/
structure IdentitiesApart (spec : Spec) : Prop extends spec.NamesApart where
  brokerIngress : ∀ {p q a b}, spec.Streams p q → spec.Subscribes a b →
    "kafka-broker-" ++ q ≠ a ++ "-" ++ b ++ "-binding"
  brokerEgress : ∀ {p q k}, spec.Streams p q → spec.Has .sink k →
    "kafka-broker-" ++ q ≠ k ++ "-binding"

end Spec

namespace Mesh

theorem subscriptionName_eq (ns p q : String) : streamTopic ns p ++ "-" ++ q ++ "-subscription" =
    ns ++ "-" ++ p ++ "-stream-" ++ q ++ "-subscription" := by
  have hglue : "-stream-" = "-stream" ++ "-" := rfl
  simp only [streamTopic, hglue, String.append_assoc]

/-- Subscriptions in one namespace are told by their connections. -/
theorem subscriptionName_eq_iff {ns p q p' q' : String} :
    streamTopic ns p ++ "-" ++ q ++ "-subscription" =
        streamTopic ns p' ++ "-" ++ q' ++ "-subscription" ↔
      p ++ "-stream-" ++ q = p' ++ "-stream-" ++ q' := by
  rw [subscriptionName_eq, subscriptionName_eq, String.append_left_inj]
  simp only [String.append_assoc, String.append_right_inj]

theorem streamTopic_inj {ns p p' : String} (h : streamTopic ns p = streamTopic ns p') : p = p' := by
  simpa only [streamTopic, String.append_left_inj, String.append_right_inj] using h

theorem service_ne_deploy (p q : String) : p ++ "-service" ≠ q ++ "-deploy" := by
  intro h
  have hlast := congrArg (fun s => s.toList.getLast?) h
  simp at hlast

section NamesApart

variable {a p q k a' p' q' : String} (hdeclared : spec.Declared)

include hdeclared

theorem subscribes_unique (h : spec.Subscribes a p) (h' : spec.Subscribes a' p') (ha : a = a') :
    Object.ingress a p = Object.ingress a' p' := by
  subst ha
  rw [hdeclared.connects_unique h.connects h'.connects]

theorem streams_unique (h : spec.Streams p q) (h' : spec.Streams p' q') (hp : p = p') : q = q' := by
  subst hp
  exact hdeclared.connects_unique h.connects h'.connects

variable (hapart : spec.NamesApart)

include hapart

theorem ingress_eq_of_name (h : spec.Subscribes a p) (h' : spec.Subscribes a' p')
    (hname : ingressBinding a p = ingressBinding a' p') :
    Object.ingress a p = Object.ingress a' p' :=
  subscribes_unique hdeclared h h' (hapart.ingress h h' ((String.append_left_inj _).mp hname))

omit hdeclared in
theorem ingress_ne_egress (h : spec.Subscribes a p) (h' : spec.Has .sink k) :
    ingressBinding a p ≠ egressBinding k :=
  fun hname => hapart.egress h h' ((String.append_left_inj _).mp hname)

theorem subscription_eq_of_name {ns : String} (h : spec.Streams p q) (h' : spec.Streams p' q')
    (hname : streamTopic ns p ++ "-" ++ q ++ "-subscription" =
      streamTopic ns p' ++ "-" ++ q' ++ "-subscription") :
    Object.subscription p q = Object.subscription p' q' := by
  have hp : p = p' := hapart.stream h h' (subscriptionName_eq_iff.mp hname)
  rw [hp, streams_unique hdeclared h h' hp]

end NamesApart

namespace Object

variable {o o' : Object} (hdeclared : spec.Declared) (ho : o.Of spec) (ho' : o'.Of spec)

include hdeclared ho ho'

/-- Objects that share a file are the same. -/
theorem eq_of_stem_eq (hapart : spec.FilesApart d.nsText) (hcategory : o.category = o'.category)
    (hstem : o.stem d = o'.stem d) : o = o' := by
  -- names only have to be looked at where two kinds of objects share a directory
  cases o with
  | ingress a p =>
    cases o' with
    | ingress => exact ingress_eq_of_name hdeclared hapart.toNamesApart ho ho' hstem
    | egress => exact absurd hstem (ingress_ne_egress hapart.toNamesApart ho ho')
    | _ => cases hcategory
  | egress k =>
    cases o' with
    | ingress => exact absurd hstem.symm (ingress_ne_egress hapart.toNamesApart ho' ho)
    | egress => rw [(String.append_left_inj _).mp hstem]
    | _ => cases hcategory
  | service p =>
    cases o' with
    | service => rw [(String.append_left_inj _).mp hstem]
    | deployment => exact absurd hstem (service_ne_deploy _ _)
    | _ => cases hcategory
  | deployment p =>
    cases o' with
    | service => exact absurd hstem.symm (service_ne_deploy _ _)
    | deployment => rw [(String.append_left_inj _).mp hstem]
    | _ => cases hcategory
  | scaler p =>
    cases o' with
    | scaler => rw [(String.append_left_inj _).mp hstem]
    | _ => cases hcategory
  | broker q =>
    cases o' with
    | broker => rw [(String.append_right_inj _).mp hstem]
    | subscription p' q' =>
      obtain ⟨p, ho⟩ := ho
      exact absurd (hstem.trans (subscriptionName_eq _ _ _)) (hapart.broker ho ho')
    | _ => cases hcategory
  | subscription p q =>
    cases o' with
    | broker q' =>
      obtain ⟨p', ho'⟩ := ho'
      exact absurd (hstem.symm.trans (subscriptionName_eq _ _ _)) (hapart.broker ho' ho)
    | subscription => exact subscription_eq_of_name hdeclared hapart.toNamesApart ho ho' hstem
    | _ => cases hcategory
  | topic p q =>
    cases o' with
    | topic =>
      obtain rfl := streamTopic_inj hstem
      rw [streams_unique hdeclared ho ho' rfl]
    | _ => cases hcategory
  | tracing =>
    cases o' with
    | tracing => rfl
    | _ => cases hcategory

/-- Objects that share an identity are the same. -/
theorem eq_of_identity_eq (hapart : spec.IdentitiesApart)
    (hidentity : o.identity d = o'.identity d) :
    o = o' := by
  have hkind : o.kind = o'.kind :=
    RawText.whole.inj (Option.some.inj (congrArg Manifest.Identity.kind hidentity))
  have hname : o.name d = o'.name d :=
    RawText.whole.inj (Option.some.inj (congrArg Manifest.Identity.name hidentity))
  -- bindings and brokers are components alike, all other kinds are apart
  cases o with
  | ingress a p =>
    cases o' with
    | ingress => exact ingress_eq_of_name hdeclared hapart.toNamesApart ho ho' hname
    | egress => exact absurd hname (ingress_ne_egress hapart.toNamesApart ho ho')
    | broker =>
      obtain ⟨_, ho'⟩ := ho'
      exact absurd hname.symm (hapart.brokerIngress ho' ho)
    | _ => simp [kind] at hkind
  | egress k =>
    cases o' with
    | ingress => exact absurd hname.symm (ingress_ne_egress hapart.toNamesApart ho' ho)
    | egress => rw [(String.append_left_inj _).mp hname]
    | broker =>
      obtain ⟨_, ho'⟩ := ho'
      exact absurd hname.symm (hapart.brokerEgress ho' ho)
    | _ => simp [kind] at hkind
  | service p =>
    cases o' with
    | service => exact congrArg service hname
    | _ => simp [kind] at hkind
  | deployment p =>
    cases o' with
    | deployment => exact congrArg deployment hname
    | _ => simp [kind] at hkind
  | scaler p =>
    cases o' with
    | scaler => rw [(String.append_right_inj _).mp ((String.append_left_inj _).mp hname)]
    | _ => simp [kind] at hkind
  | broker q =>
    obtain ⟨_, ho⟩ := ho
    cases o' with
    | ingress => exact absurd hname (hapart.brokerIngress ho ho')
    | egress => exact absurd hname (hapart.brokerEgress ho ho')
    | broker => rw [(String.append_right_inj _).mp hname]
    | _ => simp [kind] at hkind
  | subscription p q =>
    cases o' with
    | subscription => exact subscription_eq_of_name hdeclared hapart.toNamesApart ho ho' hname
    | _ => simp [kind] at hkind
  | topic p q =>
    cases o' with
    | topic =>
      obtain rfl := streamTopic_inj hname
      rw [streams_unique hdeclared ho ho' rfl]
    | _ => simp [kind] at hkind
  | tracing =>
    cases o' with
    | tracing => rfl
    | _ => simp [kind] at hkind

end Object

end Mesh

section Nodup

open Mesh Mesh.Object

/-- What tells files apart tells the objects of a pipeline apart exactly if their names are
apart. -/
theorem Spec.Declared.filesApart_iff (hdeclared : spec.Declared) : spec.FilesApart d.nsText ↔
    ∀ o o' : Object, o.Of spec → o'.Of spec → o.category = o'.category → o.stem d = o'.stem d →
      o = o' := by
  constructor
  · intro h o o' ho ho' hcategory hstem
    exact eq_of_stem_eq hdeclared ho ho' h hcategory hstem
  · intro h
    refine { ingress := ?_, egress := ?_, stream := ?_, broker := ?_ }
    · intro a p a' p' ho ho' heq
      have := h (.ingress a p) (.ingress a' p') ho ho' rfl (congrArg (· ++ "-binding") heq)
      exact (Object.ingress.inj this).1
    · intro a p k ho ho' heq
      exact nomatch h (.ingress a p) (.egress k) ho ho' rfl (congrArg (· ++ "-binding") heq)
    · intro p q p' q' ho ho' heq
      have := h (.subscription p q) (.subscription p' q')
        ho ho' rfl (subscriptionName_eq_iff.mpr heq)
      exact (Object.subscription.inj this).1
    · intro p q p' q' ho ho' heq
      exact nomatch h (.broker q) (.subscription p' q') ⟨p, ho⟩ ho' rfl
        (heq.trans (subscriptionName_eq _ _ _).symm)

/-- The same for identities. -/
theorem Spec.Declared.identitiesApart_iff (hdeclared : spec.Declared) : spec.IdentitiesApart ↔
    ∀ o o' : Object, o.Of spec → o'.Of spec → o.identity d = o'.identity d → o = o' := by
  have hidentity : ∀ {o o' : Object}, o.kind = o'.kind → o.ns d = o'.ns d → o.name d = o'.name d →
      o.identity d = o'.identity d := by
    intro o o' hkind hns hname
    rw [Object.identity, hkind, hns, hname, Object.identity]
  constructor
  · intro h o o' ho ho' heq
    exact eq_of_identity_eq hdeclared ho ho' h heq
  · intro h
    -- each case is that of two objects of one kind
    refine { ingress := ?_, egress := ?_, stream := ?_, brokerIngress := ?_, brokerEgress := ?_ }
    · intro a p a' p' ho ho' heq
      have := h (.ingress a p) (.ingress a' p') ho ho'
        (hidentity rfl rfl (congrArg (· ++ "-binding") heq))
      exact (Object.ingress.inj this).1
    · intro a p k ho ho' heq
      cases h (.ingress a p) (.egress k) ho ho'
        (hidentity rfl rfl (congrArg (· ++ "-binding") heq))
    · intro p q p' q' ho ho' heq
      have := h (.subscription p q) (.subscription p' q') ho ho'
        (hidentity rfl rfl (subscriptionName_eq_iff.mpr heq))
      exact (Object.subscription.inj this).1
    · intro p q a b ho ho' heq
      cases h (.broker q) (.ingress a b) ⟨p, ho⟩ ho' (hidentity rfl rfl heq)
    · intro p q k ho ho' heq
      cases h (.broker q) (.egress k) ⟨p, ho⟩ ho' (hidentity rfl rfl heq)

/-- The path of an object's file. -/
theorem Mesh.Object.Realised.relativePath_eq {o : Object} {r : Rendering} (h : o.Realised d r) :
    r.artifact.relativePath = o.category.text ++ "/" ++ (o.stem d ++ ".yaml") := by
  have hplain : r.artifact.Plain := Artifact.plain_of_yaml h.fileName
  rw [hplain.relativePath_eq, Rendering.artifact, h.category, h.fileName]

variable (hc : Compilation spec config c)

include hc

/-- The files of a compilation differ exactly if the names of its pipeline are apart. -/
theorem Compilation.nodup_relativePath_iff :
    (c.artifacts.map Artifact.relativePath).Nodup ↔ spec.FilesApart c.ns := by
  obtain ⟨os, hos, hnodup, hof⟩ := hc.exists_objects
  have hpaths : c.artifacts.map Artifact.relativePath = os.map fun o =>
      o.category.text ++ "/" ++ (o.stem (config.settled c.pipeline) ++ ".yaml") := by
    rw [Compiled.artifacts, List.map_map]
    exact map_eq_map_of_forall₂ hos fun o r h => h.relativePath_eq
  rw [hpaths, List.nodup_map_iff_inj_on hnodup, hc.ns, hc.declared.filesApart_iff]
  constructor
  · intro h o o' ho ho' hcategory hstem
    refine h o ((hof o).mpr ho) o' ((hof o').mpr ho') ?_
    rw [hcategory, hstem]
  · intro h o ho o' ho' heq
    obtain ⟨hcategory, hfile⟩ := Category.text_append_inj heq
    exact h o o' ((hof o).mp ho) ((hof o').mp ho') hcategory ((String.append_left_inj _).mp hfile)

/-- The identities of a compilation's objects differ exactly if the names of its pipeline are
apart. -/
theorem Compilation.nodup_identity_iff :
    (c.renderings.map fun r => r.manifest.identity).Nodup ↔ spec.IdentitiesApart := by
  obtain ⟨os, hos, hnodup, hof⟩ := hc.exists_objects
  rw [map_eq_map_of_forall₂ hos fun o r h => h.identity, List.nodup_map_iff_inj_on hnodup,
    hc.declared.identitiesApart_iff]
  constructor
  · intro h o o' ho ho' heq
    exact h o ((hof o).mpr ho) o' ((hof o').mpr ho') heq
  · intro h o ho o' ho' heq
    exact h o o' ((hof o).mp ho) ((hof o').mp ho') heq

end Nodup

end StreamMesh
