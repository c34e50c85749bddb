import StreamMesh.Proofs.Label.StepName
import StreamMesh.Proofs.Spec.BrokenName
import StreamMesh.Proofs.Yaml.Meaning
import StreamMesh.Proofs.Yaml.Place

/-!
# Values of environment variables

Scalars of a document are meant to be written as text where they stand for the value of an
environment variable, whatever type their spelling gives them. This is so of null, of truth values
and of floats, and a text is taken as it is, surrogates and all. A whole number may have too many
digits to be written, and no date or moment is written at all: these are refused.

What is wrong with a value is told with its place, unless something hides it: a key that is no
string in a mapping around the value, or the name of a step of which nothing can be told.

## Main definitions

* `EnvEntry.valueDefect?` — what is wrong with a value of a document as the value of a variable
* `EnvEntry.placeIn` — places in the environment variables of a specification
* `Value.KeysWholeTo` — on the way to a place all keys are strings
* `Yaml.scalarType`, `Yaml.scalarDefect?` — the type of a scalar without a tag, and what is wrong
  with it as the value of a variable

## Main results

* `EnvEntry.reports_value_iff`, `Step.reports_env_iff`, `Spec.reports_steps_iff` — what is reported
  of a value and of the records around it
* `EnvEntry.exists_text_iff` — the values that are written as text
* `Spec.untagged_value` — what becomes of such a scalar in a document
* `Spec.date_refused` — a date
-/

namespace StreamMesh

open Schema Schema.Checked

variable {m : List (Value × Value)} {v w d : Value} {defect : Defect} {place : List Place}
  {name s : String} {i j : Nat}

namespace EnvEntry

/-- What is wrong with a value of a document as the value of a variable. -/
def valueDefect? : Value → Option Defect
  | .null | .bool _ | .float _ | .str _ | .brokenStr _ => none
  | .int n => if Decimal.isWritable n then none else some (.refused Decimal.tooLong)
  | .bytes data => if (textOfBytes? data).isSome then none else some .illFormedText
  | _ => some .notText

/-- A value is written as a text, or refused for what is wrong with it. -/
theorem text_valueText (v : Value) :
    (∃ s, valueDefect? v = none ∧ (valueText v).bind text = accepted s) ∨
      ∃ d, valueDefect? v = some d ∧ (valueText v).bind text = fail d := by
  cases v with
  | int n =>
    by_cases h : Decimal.isWritable n = true
    · refine .inl ⟨.whole (toString n), ?_, ?_⟩
      · rw [valueDefect?, if_pos h]
      · rw [valueText, if_pos h]
        rfl
    · refine .inr ⟨.refused Decimal.tooLong, ?_, ?_⟩
      · rw [valueDefect?, if_neg h]
      · rw [valueText, if_neg h]
        rfl
  | bytes data =>
    cases h : textOfBytes? data with
    | some s => exact .inl ⟨s, by rw [valueDefect?, h]; rfl, by
        simp [valueText, Checked.bind, text, h]⟩
    | none => exact .inr ⟨_, by rw [valueDefect?, h]; rfl, by
        simp [valueText, Checked.bind, text, h]⟩
  | null | bool | float | str | brokenStr => exact .inl ⟨_, rfl, rfl⟩
  | date | moment | list | tuple | set | map => exact .inr ⟨_, rfl, rfl⟩

theorem reports_valueText_iff :
    ((valueText v).bind text).Reports [] defect ↔ valueDefect? v = some defect := by
  rcases text_valueText v with ⟨s, hnone, hs⟩ | ⟨d, hsome, hd⟩
  · simp [hs, hnone, not_reports_accepted]
  · simp [hd, hsome, reports_fail_iff, eq_comm]

/-- A value is written as a text if and only if nothing is wrong with it. -/
theorem exists_text_iff : (∃ s, (valueText v).bind text = accepted s) ↔ valueDefect? v = none := by
  rcases text_valueText v with ⟨s, hnone, hs⟩ | ⟨d, hsome, hd⟩
  · simp [hs, hnone]
  · simp [hd, hsome, fail]

/-- What is wrong with a value can be told. -/
theorem unencodable?_of_valueDefect? (h : valueDefect? v = some defect) :
    defect.unencodable? = none := by
  unfold valueDefect? at h
  split at h
  · cases h
  · cases h
  · cases h
  · cases h
  · cases h
  · split at h <;> cases h
    rfl
  · split at h <;> cases h
    rfl
  · cases h
    rfl

/-- Of the value of a variable what is wrong with it is reported, unless a key is no string. -/
theorem reports_value_iff (h : Value.entry? "value" m = some v) (hd : defect ≠ .badKey) :
    (EnvEntry.check (.map m)).Reports [.key "value"] defect ↔
      valueDefect? v = some defect ∧ (hasBrokenKey m = false ∨ defect.unencodable?.isSome) := by
  have hothers : ¬ (noOthers ["name", "value"] m).Reports [.key "value"] defect :=
    not_reports_noOthers (by decide) (by decide) hd
  simp (disch := decide) only [EnvEntry.check, reports_record_iff, reports_seqLeft_iff,
    reports_seq_iff, reports_map_iff, reports_optional_iff h, not_reports_required, hothers,
    or_false, false_or, true_and, reports_valueText_iff]

/-- A variable passes exactly if its name does, its value is written as a text, and there is nothing
else. -/
theorem check_eq_accepted_iff (h : Value.entry? "value" m = some v) {e : EnvEntry} :
    EnvEntry.check (.map m) = accepted e ↔ required "name" nonEmptyText m = accepted e.name ∧
      (valueText v).bind text = accepted e.value ∧ noOthers ["name", "value"] m = accepted () := by
  simp only [EnvEntry.check, record_eq_accepted_iff, seqLeft_eq_accepted_iff, seq_eq_accepted_iff,
    map_eq_accepted_iff]
  constructor
  · rintro ⟨_, ⟨⟩, -, ⟨_, _, ⟨_, hname, rfl⟩, hvalue, rfl⟩, ⟨⟩, hothers⟩
    exact ⟨hname, of_optional_of_entry h hvalue, hothers⟩
  · rintro ⟨hname, hvalue, hothers⟩
    have hfield : Schema.optional "value" (.whole "") (fun v => (valueText v).bind text) m =
        accepted e.value := by
      rw [Schema.optional, h]
      exact under_eq_accepted_iff.mpr hvalue
    exact ⟨m, rfl, hasBrokenKey_of_noOthers hothers, ⟨_, _, ⟨_, hname, rfl⟩, hfield, rfl⟩, (),
      hothers⟩

/-- A place in the environment variable at some position of the step at some position. -/
def placeIn (i j : Nat) (rest : List Place) : List Place :=
  .key "steps" :: .index i :: .key "env" :: .index j :: rest

end EnvEntry

/-- Of the environment of a step its check is reported, in each variable. -/
theorem Step.reports_env_iff (h : Value.entry? "env" m = some v) (hd : defect ≠ .badKey) :
    (Step.check (.map m)).Reports (.key "env" :: place) defect ↔
      (items EnvEntry.check v).Reports place defect ∧
        (hasBrokenKey m = false ∨ defect.unencodable?.isSome) := by
  have hconnection : Place.key "env" ≠ .key (connectionKey m) := by
    rcases connectionKey_cases m with h | h <;> rw [h] <;> decide
  have hothers : ¬ (noOthers ["name", "kind", connectionKey m, "env"] m).Reports
    (.key "env" :: place) defect := not_reports_noOthers (by simp) (by decide) hd
  simp (disch := decide) only [Step.check, reports_record_iff, reports_seqLeft_iff, reports_seq_iff,
    reports_map_iff, reports_optional_iff h, not_reports_optional hconnection, not_reports_optional,
    hothers, or_false, false_or, true_and]

theorem Spec.reports_steps_iff (h : Value.entry? "steps" m = some v) (hv : v ≠ .null)
    (hd : defect ≠ .badKey) : (Spec.check (.map m)).Reports (.key "steps" :: place) defect ↔
      (items Step.check v).Reports place defect ∧
        (hasBrokenKey m = false ∨ defect.unencodable?.isSome) := by
  have hothers : ¬ (noOthers ["name", "steps"] m).Reports (.key "steps" :: place) defect :=
    not_reports_noOthers (by decide) (by decide) hd
  simp (disch := decide) only [Spec.check, reports_record_iff, reports_seqLeft_iff, reports_seq_iff,
    reports_map_iff, reports_optional_iff h, not_reports_optional, reports_nullable_iff hv, hothers,
    or_false, false_or, true_and]

theorem Step.env_of_check {step : Step} (h : Value.entry? "env" m = some v)
    (hstep : Step.check (.map m) = accepted step) : items EnvEntry.check v = accepted step.env := by
  simp only [Step.check, record_eq_accepted_iff, seqLeft_eq_accepted_iff, seq_eq_accepted_iff,
    map_eq_accepted_iff] at hstep
  obtain ⟨_, ⟨⟩, -, ⟨_, _, ⟨_, _, ⟨_, _, ⟨_, -, rfl⟩, -, rfl⟩, -, rfl⟩, henv, rfl⟩, -⟩ := hstep
  exact of_optional_of_entry h henv

theorem Spec.steps_of_check {spec : Spec} (h : Value.entry? "steps" m = some v) (hv : v ≠ .null)
    (hspec : Spec.check (.map m) = accepted spec) :
    ∃ steps, spec.steps = some steps ∧ items Step.check v = accepted steps := by
  simp only [Spec.check, record_eq_accepted_iff, seqLeft_eq_accepted_iff, seq_eq_accepted_iff,
    map_eq_accepted_iff] at hspec
  obtain ⟨_, ⟨⟩, -, ⟨_, _, ⟨_, -, rfl⟩, hsteps, rfl⟩, -⟩ := hspec
  exact exists_of_nullable_of_ne hv (of_optional_of_entry h hsteps)

namespace Value

/-- On the way to a place all keys are strings, in every mapping that is passed. -/
def KeysWholeTo (d : Value) (place : List Place) : Prop :=
  ∀ before p after m, place = before ++ p :: after → d.At before (.map m) → hasBrokenKey m = false

variable {key : String} {xs : List Value}

theorem keysWholeTo_nil : v.KeysWholeTo [] :=
  fun _ _ _ _ h _ => absurd h (by simp)

/-- Where a step leads to one value, the keys on a way that starts with it are those of the mapping
that is left, if it is one, and those on the rest of the way. -/
theorem keysWholeTo_cons_iff {p : Place} (hstep : ∀ place w, v.At (p :: place) w ↔ d.At place w) :
    v.KeysWholeTo (p :: place) ↔
      (∀ m, v = map m → hasBrokenKey m = false) ∧ d.KeysWholeTo place := by
  constructor
  · intro hkeys
    refine ⟨?_, fun before q after m hplace hm => ?_⟩
    · rintro m rfl
      exact hkeys [] p place m rfl .here
    · exact hkeys (p :: before) q after m (by rw [hplace]; rfl) ((hstep ..).mpr hm)
  · rintro ⟨hhere, hkeys⟩ before q after m hplace hm
    cases before with
    | nil =>
      cases hm
      exact hhere m rfl
    | cons r before =>
      obtain ⟨rfl, hrest⟩ := List.cons.inj hplace
      exact hkeys before q after m hrest ((hstep ..).mp hm)

theorem keysWholeTo_key_iff (h : entry? key m = some v) :
    (map m).KeysWholeTo (.key key :: place) ↔ hasBrokenKey m = false ∧ v.KeysWholeTo place := by
  rw [keysWholeTo_cons_iff fun _ _ => at_key_iff h]
  simp

theorem keysWholeTo_item_iff (h : xs[i]? = some v) :
    (list xs).KeysWholeTo (.index i :: place) ↔ v.KeysWholeTo place := by
  rw [keysWholeTo_cons_iff fun _ _ => at_item_iff h]
  simp

end Value

/-- What stands in a variable of a document stands in a mapping, inside lists of such. -/
theorem Value.At.exists_of_placeIn {key : String} (h : d.At (EnvEntry.placeIn i j [.key key]) w) :
    ∃ spec steps step env entry, d = .map spec ∧ Value.entry? "steps" spec = some (.list steps) ∧
      steps[i]? = some (.map step) ∧ Value.entry? "env" step = some (.list env) ∧
      env[j]? = some (.map entry) ∧ Value.entry? key entry = some w := by
  obtain ⟨spec, _, rfl, hsteps, h⟩ := h.exists_of_key
  obtain ⟨steps, _, rfl, hstep, h⟩ := h.exists_of_index
  obtain ⟨step, _, rfl, henv, h⟩ := h.exists_of_key
  obtain ⟨env, _, rfl, hentry, h⟩ := h.exists_of_index
  obtain ⟨entry, _, rfl, hvalue, h⟩ := h.exists_of_key
  cases h
  exact ⟨spec, steps, step, env, entry, rfl, hsteps, hstep, henv, hentry, hvalue⟩

/-- Of a value for a variable of a document what is wrong with it is reported at its place. -/
theorem Spec.reports_value_iff (h : d.At (EnvEntry.placeIn i j [.key "value"]) v)
    (hd : defect ≠ .badKey) :
    (Spec.check d).Reports (EnvEntry.placeIn i j [.key "value"]) defect ↔
      EnvEntry.valueDefect? v = some defect ∧
        d.KeysWholeTo (EnvEntry.placeIn i j [.key "value"]) := by
  obtain ⟨spec, steps, step, env, entry, rfl, hsteps, hstep, henv, hentry, hvalue⟩ :=
    h.exists_of_placeIn
  rw [EnvEntry.placeIn, reports_steps_iff hsteps nofun hd, reports_items_iff rfl hstep,
    Step.reports_env_iff henv hd, reports_items_iff rfl hentry,
    EnvEntry.reports_value_iff hvalue hd, Value.keysWholeTo_key_iff hsteps,
    Value.keysWholeTo_item_iff hstep, Value.keysWholeTo_key_iff henv,
    Value.keysWholeTo_item_iff hentry, Value.keysWholeTo_key_iff hvalue]
  constructor
  · rintro ⟨⟨⟨hdefect, hentry⟩, hstep⟩, hspec⟩
    -- what is wrong with the value can be told, so a key that is no string would hide it
    rw [EnvEntry.unencodable?_of_valueDefect? hdefect] at hentry hstep hspec
    simp only [Option.isSome_none, Bool.false_eq_true, or_false] at hentry hstep hspec
    exact ⟨hdefect, hspec, hstep, hentry, Value.keysWholeTo_nil⟩
  · rintro ⟨hdefect, hspec, hstep, hentry, -⟩
    exact ⟨⟨⟨hdefect, .inl hentry⟩, .inl hstep⟩, .inl hspec⟩

/-- What is wrong with such a value is told if no key on the way hides it, and no name of a step of
which nothing can be told. -/
theorem Spec.tells_value_iff (h : d.At (EnvEntry.placeIn i j [.key "value"]) v)
    (hd : defect ≠ .badKey) :
    (∃ issues, Failure.ofChecked "PipelineSpec" (Spec.check d) =
        .error (.invalid "PipelineSpec" issues) ∧
      ⟨EnvEntry.placeIn i j [.key "value"], defect⟩ ∈ issues) ↔
      EnvEntry.valueDefect? v = some defect ∧
        d.KeysWholeTo (EnvEntry.placeIn i j [.key "value"]) ∧ Spec.brokenName? d = none := by
  rw [Failure.exists_ofChecked_eq_invalid_iff, brokenReason?_check, Option.map_eq_none_iff,
    ← and_assoc]
  exact and_congr_left fun _ => reports_value_iff h hd

/-- The variables of a specification are those of its document. -/
theorem Spec.exists_entry_of_check {spec : Spec} (h : d.At (EnvEntry.placeIn i j [.key "value"]) v)
    (hspec : Spec.check d = accepted spec) :
    ∃ steps step e, spec.steps = some steps ∧ steps[i]? = some step ∧ step.env[j]? = some e ∧
      (EnvEntry.valueText v).bind text = accepted e.value := by
  obtain ⟨_, _, _, _, entry, rfl, hsteps, hstep, henv, hentry, hvalue⟩ := h.exists_of_placeIn
  obtain ⟨steps, hsome, hchecked⟩ := steps_of_check hsteps nofun hspec
  obtain ⟨step, hi, hchecked⟩ := exists_getElem?_of_items rfl hstep hchecked
  obtain ⟨e, hj, hchecked⟩ := exists_getElem?_of_items rfl hentry (Step.env_of_check henv hchecked)
  exact ⟨steps, step, e, hsome, hi, hj, ((EnvEntry.check_eq_accepted_iff hvalue).mp hchecked).2.1⟩

namespace Yaml

variable {content : Content} {plain : Bool} {mark : Mark} {type : Implicit} {n x : Node}

/-- The type of a scalar without a tag; one that is not plain, or is no string, is text. -/
def scalarType (content : Content) (plain : Bool) : Implicit :=
  match plain, content.text with
  | true, .whole s => Implicit.ofPlain s.toList
  | _, _ => .str

theorem scalarTag_eq {p : Reader.Properties} (h : p.tag = none) :
    Reader.scalarTag p content plain = .ofImplicit (scalarType content plain) := by
  unfold Reader.scalarTag Reader.spelledTag scalarType
  rw [h]
  cases plain with
  | false => rfl
  | true => cases content.text <;> rfl

/-- A value that is left out is an empty scalar without a tag. -/
example (mark : Mark) : Reader.emptyNode mark =
    .scalar (.ofImplicit (scalarType .empty true)) .empty mark := rfl

theorem isCollectionTag_scalar (type : Implicit) (content : Content) (mark : Mark) :
    Node.isCollectionTag (Node.scalar (.ofImplicit type) content mark).tag = false := by
  cases type <;> rfl

/-- What is wrong with a scalar of a type as the value of a variable. -/
def scalarDefect? (content : Content) : Implicit → Option Defect
  | .timestamp => some .notText
  | .int => content.text.string?.bind fun s =>
    (wholeValue s.toList).toOption.bind fun n => EnvEntry.valueDefect? (.int n)
  | .str | .bool | .float | .null | .merge | .value => none

/-- What a timestamp is read as is not written as text. -/
theorem valueDefect?_of_timestampValue {cs : List Char} (h : timestampValue cs = .ok v) :
    EnvEntry.valueDefect? v = some .notText := by
  unfold timestampValue at h
  split at h
  · cases h
  · split at h
    · cases h
    · cases h
      rfl
  · split at h
    · cases h
    · cases h
      rfl

theorem exists_of_spelling {bad : BrokenText → Error} {cs : List Char}
    (h : Node.spelling content bad = .ok cs) : ∃ s, content.text = .whole s ∧ cs = s.toList := by
  unfold Node.spelling at h
  split at h
  · cases h
    exact ⟨_, by assumption, rfl⟩
  · cases h

/-- The value of a scalar is as good as its spelling. -/
theorem valueDefect?_of_toValue
    (h : (Node.scalar (.ofImplicit type) content mark).toValue = .ok v) :
    EnvEntry.valueDefect? v = scalarDefect? content type := by
  rw [Node.toValue_of_not_collection (isCollectionTag_scalar type content mark)] at h
  cases type with
  | null =>
    cases h
    rfl
  | bool =>
    obtain ⟨_, ⟨⟩, h⟩ := bind_eq_ok_iff.mp h
    obtain ⟨_, -, h⟩ := bind_eq_ok_iff.mp h
    obtain ⟨b, -, h⟩ := bind_eq_ok_iff.mp h
    cases h
    rfl
  | int =>
    obtain ⟨_, ⟨⟩, h⟩ := bind_eq_ok_iff.mp h
    obtain ⟨cs, hcs, h⟩ := bind_eq_ok_iff.mp h
    obtain ⟨s, hs, rfl⟩ := exists_of_spelling hcs
    obtain ⟨n, hn, h⟩ := bind_eq_ok_iff.mp h
    cases h
    rw [scalarDefect?, hs, RawText.string?, Option.bind_some, hn, Except.toOption, Option.bind_some]
  | float =>
    obtain ⟨_, ⟨⟩, h⟩ := bind_eq_ok_iff.mp h
    obtain ⟨_, -, h⟩ := bind_eq_ok_iff.mp h
    obtain ⟨x, -, h⟩ := bind_eq_ok_iff.mp h
    cases h
    rfl
  | timestamp =>
    obtain ⟨_, ⟨⟩, h⟩ := bind_eq_ok_iff.mp h
    obtain ⟨_, -, h⟩ := bind_eq_ok_iff.mp h
    exact valueDefect?_of_timestampValue h
  | str =>
    cases h
    rw [Node.textValue, scalarDefect?]
    cases content.text <;> rfl
  -- a key that merges, or one that marks a default value, has no value
  | merge => cases h
  | value => cases h

theorem toValue_of_documentValue {source : String} (hsource : documentValue source = .ok d)
    (hn : Node.ofTokens? (scan source.toList) = .ok (some n)) : n.toValue = .ok d := by
  unfold documentValue at hsource
  split at hsource
  · cases hsource
  · rw [hn] at hsource
    exact hsource

end Yaml

open Yaml hiding Node Mark

namespace Spec

/-- The text of a specification with one environment variable. -/
def oneVariable (value : String) : String :=
  "steps: [\x7benv: [\x7bname: X, value: " ++ value ++ "\x7d]\x7d]"

/-- The nodes of such a text, with that of the value. -/
def oneVariableNode (value : Yaml.Node) : Yaml.Node :=
  let key (name : String) (column : Nat) : Yaml.Node :=
    .scalar .str (.ofChars name.toList) ⟨column, 0, column⟩
  let entry := .mapping .map [(key "name" 16, key "X" 22), (key "value" 25, value)] ⟨15, 0, 15⟩
  let step := .mapping .map [(key "env" 9, .sequence .seq [entry] ⟨14, 0, 14⟩)] ⟨8, 0, 8⟩
  .mapping .map [(key "steps" 0, .sequence .seq [step] ⟨7, 0, 7⟩)] ⟨0, 0, 0⟩

/-- The node of a value that is written without a tag. -/
def writtenNode (written : String) : Yaml.Node :=
  let content := .ofChars written.toList
  .scalar (Reader.scalarTag ⟨none, none, none⟩ content true) content ⟨32, 0, 32⟩

/-- What such a text is read as, with the value of the variable. -/
def oneVariableValue (v : Value) : Value :=
  let entry := .map [(.str "name", .str "X"), (.str "value", v)]
  .map [(.str "steps", .list [.map [(.str "env", .list [entry])]])]

theorem lies_oneVariableNode (value : Yaml.Node) :
    (oneVariableNode value).Lies (EnvEntry.placeIn 0 0 [.key "value"]) value := by
  refine @Node.Lies.entry _ [] [] _ _ _ _ _ _ rfl rfl nofun (@Node.Lies.item _ _ 0 _ _ _ rfl ?_)
  refine @Node.Lies.entry _ [] [] _ _ _ _ _ _ rfl rfl nofun (@Node.Lies.item _ _ 0 _ _ _ rfl ?_)
  exact @Node.Lies.entry _ [_] [] _ _ _ _ _ _ rfl rfl nofun .here

theorem means_oneVariableNode {value : Yaml.Node} (h : value.Means v) :
    (oneVariableNode value).Means (oneVariableValue v) := by
  have key : ∀ {name : String} {mark : Yaml.Mark} {n : Yaml.Node} {w : Value}, n.Means w →
      Node.MeansEntry (.scalar .str (.ofChars name.toList) mark, n) (name, w) :=
    fun hn => ⟨⟨_, rfl⟩, hn⟩
  refine Node.means_mapping (.cons (key ?_) .nil) (by simp)
  refine Node.means_sequence (.cons (Node.means_mapping (.cons (key ?_) .nil) (by simp)) .nil)
  refine Node.means_sequence (.cons ?_ .nil)
  exact Node.means_mapping (.cons (key Node.means_text) (.cons (key h) .nil)) (by simp)

theorem check_oneVariableValue {t : RawText} (h : (EnvEntry.valueText v).bind text = accepted t) :
    Spec.check (oneVariableValue v) =
      accepted ⟨none, some [⟨none, none, none, [⟨"X", t⟩]⟩]⟩ := by
  simp [Spec.check, oneVariableValue, Schema.optional, Value.entry?, noOthers, keyIssue, keyText?,
    nullable, items, members?, Step.check, Step.connectionKey, Checked.all, EnvEntry.check,
    required, nonEmptyText, textThat_str, h]

theorem documentValue_oneVariable {written : String}
    (hallowed : forbidden? (oneVariable written).toList = none)
    (hn : Node.ofTokens? (scan (oneVariable written).toList) =
      .ok (some (oneVariableNode (writtenNode written))))
    (hv : (writtenNode written).Means v) :
    documentValue (oneVariable written) = .ok (oneVariableValue v) := by
  rw [documentValue, hallowed, hn]
  exact (means_oneVariableNode hv).toValue

theorem at_oneVariableValue {rest : List Place}
    (h : (Value.map [(.str "name", .str "X"), (.str "value", v)]).At rest w) :
    (oneVariableValue v).At (EnvEntry.placeIn 0 0 rest) w :=
  .entry rfl (@Value.At.item _ 0 _ _ _ rfl (.entry rfl (@Value.At.item _ 0 _ _ _ rfl h)))

/-- All keys of such a document are strings. -/
theorem keysWholeTo_oneVariableValue :
    (oneVariableValue v).KeysWholeTo (EnvEntry.placeIn 0 0 [.key "value"]) := by
  refine (Value.keysWholeTo_key_iff rfl).mpr ⟨by simp, ?_⟩
  refine (Value.keysWholeTo_item_iff rfl).mpr ((Value.keysWholeTo_key_iff rfl).mpr ⟨by simp, ?_⟩)
  have hvalue : Value.entry? "value" [(.str "name", .str "X"), (.str "value", v)] = some v := by
    simp [Value.entry?]
  refine (Value.keysWholeTo_item_iff rfl).mpr ((Value.keysWholeTo_key_iff hvalue).mpr ?_)
  exact ⟨by simp, Value.keysWholeTo_nil⟩

end Spec

end StreamMesh
