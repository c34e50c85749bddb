import Mathlib.Data.Bool.AllAny
import StreamMesh.Proofs.Console.Picture
import StreamMesh.Proofs.Console.Tag
import StreamMesh.Proofs.Text.Pieces
import StreamMesh.Proofs.Text.Raw
import StreamMesh.Command.Complaint
import StreamMesh.Deployment

/-!
# Messages that are shown as written

Messages are read as markup, so what is shown of a message need not be the message. Three things
make a difference: a tag vanishes, a backslash in front of a bracket is left out, and a name between
colons becomes a picture. A message of plain characters without any of these is shown as it is
written. What is left out makes a message shorter, and a picture is not written in plain characters,
so they cannot make up for each other: with any of them something else is shown.

## Main definitions

* `Markup.Printable` — the characters of plain messages
* `Markup.Verbatim` — a text without tags, backslashes in front of brackets and pictures

## Main results

* `Markup.plain?_eq_some_self_iff` — which plain messages are left as they are
* `Notice.shown_as_written_iff` — which plain messages are shown as they are written
* `Notice.key_mark_not_shown` — a complaint that is shown without what it is about
-/

namespace StreamMesh

namespace Markup

open Emoji

variable {c : Char} {cs out : List Char} {parts : List Markup} {opened : List Opened}
  {fuel : Nat} {s m : String} {readable : List Char → Bool}

/-- A text that is no more than its characters. -/
structure Verbatim (cs : List Char) : Prop where
  no_tag : ¬ HasTag cs
  no_escape : ¬ HasEscape cs
  no_picture : ¬ HasPicture cs

theorem HasTag.of_part {ds : List Char} (h : HasTag cs) (hcs : cs <:+: ds) : HasTag ds := by
  obtain ⟨front, back, rfl⟩ := hcs
  obtain ⟨before, inside, after, rfl, htag⟩ := h
  exact ⟨front ++ before, inside, after ++ back, by simp, htag⟩

/-- Without brackets and colons there is nothing to be read as markup. -/
theorem Verbatim.of_not_mem (hbracket : '[' ∉ cs) (hcolon : ':' ∉ cs) : Verbatim cs where
  no_tag := by
    rintro ⟨before, inside, after, rfl, -⟩
    exact hbracket (List.mem_append_right _ (.head _))
  no_escape h := hbracket (h.subset (by simp))
  no_picture := by
    rintro ⟨before, code, after, rfl, -⟩
    exact hcolon (List.mem_append_right _ (.head _))

section Shown

/-- A printable character of ASCII, or a line feed. -/
def Printable (c : Char) : Prop := ' ' ≤ c ∧ c ≤ '~' ∨ c = '\n'

instance (c : Char) : Decidable (Printable c) := inferInstanceAs (Decidable (_ ∨ _))

theorem Printable.not_beyondAscii (h : Printable c) : isBeyondAscii c = false := by
  rcases h with ⟨-, h⟩ | rfl
  · have hle : c.toNat ≤ 126 := h
    simp only [isBeyondAscii, decide_eq_false_iff_not]
    omega
  · rfl

theorem Printable.not_stripped (h : Printable c) : isStripped c = false := by
  rcases h with ⟨h, -⟩ | rfl
  · have hle : 32 ≤ c.toNat := h
    simp [isStripped]
    omega
  · rfl

theorem Printable.not_tab (h : Printable c) : c ≠ '\t' := by
  rintro rfl
  exact absurd h (by decide)

theorem isStripped_of_beyondAscii (h : isBeyondAscii c = true) : isStripped c = false := by
  have hle : 128 ≤ c.toNat := by simpa [isBeyondAscii] using h
  simp [isStripped]
  omega

/-- Where all that is left is plain, no picture was in the parts, so that only tags are missing. -/
theorem eq_textOf_of_plainFrom (h : plainFrom readable opened parts = some out)
    (hparts : ∀ c ∈ textOf parts, Printable c) (hout : ∀ c ∈ out, isBeyondAscii c = false) :
    out = textOf parts ∧ ∀ cs, text cs ∈ parts → ¬ HasPicture cs := by
  induction parts generalizing opened out with
  | nil =>
    cases h
    exact ⟨rfl, fun _ hmem => absurd hmem List.not_mem_nil⟩
  | cons p parts ih =>
    cases p with
    | text cs =>
      rw [textOf, List.forall_mem_append] at hparts
      obtain ⟨rest, hrest, rfl⟩ := Option.map_eq_some_iff.mp h
      rw [List.forall_mem_append] at hout
      obtain ⟨rfl, hpictures⟩ := ih hrest hparts.2 hout.2
      -- a picture shows a character beyond ASCII, and none is shown
      have hself : ¬ HasPicture cs := by
        intro hpicture
        obtain ⟨c, hc, hbeyond⟩ := exists_beyondAscii_of_hasPicture hpicture
        have hkept := hout.1 c
          (List.mem_filter.mpr ⟨hc, by rw [isStripped_of_beyondAscii hbeyond]; rfl⟩)
        exact Bool.false_ne_true (hkept.symm.trans hbeyond)
      refine ⟨?_, ?_⟩
      · rw [expand_eq_self hself, textOf, List.filter_eq_self.mpr]
        intro c hc
        rw [(hparts.1 c hc).not_stripped]
        rfl
      · intro ds hds
        rcases List.mem_cons.mp hds with heq | hds
        · cases heq
          exact hself
        · exact hpictures ds hds
    | tag name parameters =>
      unfold plainFrom at h
      split at h
      · obtain ⟨heq, hpictures⟩ := ih h hparts hout
        refine ⟨heq, fun ds hds => hpictures ds ?_⟩
        rcases List.mem_cons.mp hds with hhead | hds
        · cases hhead
        · exact hds
      · cases h

/-- What is left of a printable message is plain and the same message exactly if it is verbatim. -/
theorem plain?_eq_some_self_iff (hm : ∀ c ∈ m.toList, Printable c) :
    plain? readable m = some m ↔ Verbatim m.toList := by
  have hfuel : m.toList.length < m.toList.length + 1 := Nat.lt_succ_self _
  have hsub : (textOf (ofText m.toList)).Sublist m.toList := textOf_partsFrom_sublist ..
  constructor
  · intro h
    obtain ⟨out, hout, heq⟩ := Option.map_eq_some_iff.mp h
    obtain rfl : out = m.toList := by rw [← heq, String.toList_ofList]
    obtain ⟨hsame, hpictures⟩ := eq_textOf_of_plainFrom hout (fun c hc => hm c (hsub.subset hc))
      fun c hc => (hm c hc).not_beyondAscii
    have hlength : (textOf (ofText m.toList)).length = 0 + m.toList.length := by
      rw [← hsame, Nat.zero_add]
    -- tags and backslashes that are taken away would make it shorter
    obtain ⟨htag, hescape⟩ := length_textOf_partsFrom 0 hfuel hlength
    refine ⟨htag, hescape, ?_⟩
    have hparts : ofText m.toList = stretch m.toList := partsFrom_eq_stretch 0 hfuel htag hescape
    rw [hparts, stretch] at hpictures
    split at hpictures
    · rename_i hnil
      rw [hnil]
      exact not_hasPicture_nil
    · exact hpictures _ (.head _)
  · intro h
    have hparts : ofText m.toList = stretch m.toList :=
      partsFrom_eq_stretch 0 hfuel h.no_tag h.no_escape
    have hkept : m.toList.filter (!isStripped ·) = m.toList := by
      refine List.filter_eq_self.mpr fun c hc => ?_
      rw [(hm c hc).not_stripped]
      rfl
    rw [plain?, hparts, stretch]
    split
    · rename_i hnil
      rw [← String.ofList_toList (s := m), hnil]
      rfl
    · rw [plainFrom, expand_eq_self h.no_picture, hkept]
      simp [plainFrom]

end Shown

end Markup

namespace Notice

open Emoji Markup Schema

variable {m : String} {cs line : List Char} {column : Nat} {readable : List Char → Bool}

section Lines

theorem expandTabs_eq_self (h : '\t' ∉ line) : Text.expandTabs column line = line := by
  induction line generalizing column with
  | nil => rfl
  | cons c line ih =>
    rw [List.mem_cons, not_or] at h
    rw [Text.expandTabs, if_neg (Ne.symm h.1), ih h.2]

theorem filter_beyondAscii_expandTabs :
    (Text.expandTabs column line).filter isBeyondAscii = line.filter isBeyondAscii := by
  induction line generalizing column with
  | nil => rfl
  | cons c line ih =>
    unfold Text.expandTabs
    split
    · rename_i htab
      rw [List.filter_append, ih, List.filter_replicate, if_neg (by decide), List.nil_append, htab,
        List.filter_cons_of_neg (by decide)]
    · rw [List.filter_cons, List.filter_cons, ih]

theorem toList_printLines {lines : List (List Char)} : (printLines lines).toList =
    lines.flatMap fun line => Text.expandTabs 0 line ++ ['\n'] := by
  rw [printLines, String.toList_join, List.flatMap_map]
  simp

/-- A text without tabs is printed as it is. -/
theorem printLines_pieces (h : '\t' ∉ cs) :
    (printLines (Text.pieces '\n' cs)).toList = cs ++ ['\n'] := by
  rw [toList_printLines, ← Text.flatMap_pieces]
  refine List.flatMap_congr fun line hline => ?_
  rw [expandTabs_eq_self fun hc => h (Text.mem_of_mem_pieces hline hc)]

/-- Printing neither adds nor drops a character beyond ASCII. -/
theorem filter_beyondAscii_printLines :
    (printLines (Text.pieces '\n' cs)).toList.filter isBeyondAscii = cs.filter isBeyondAscii := by
  have hlines : ∀ lines : List (List Char), (printLines lines).toList.filter isBeyondAscii =
      (lines.flatMap (· ++ ['\n'])).filter isBeyondAscii := by
    intro lines
    rw [toList_printLines, List.filter_flatMap, List.filter_flatMap]
    refine List.flatMap_congr fun line _ => ?_
    rw [List.filter_append, List.filter_append, filter_beyondAscii_expandTabs]
  rw [hlines, Text.flatMap_pieces, List.filter_append, List.filter_cons_of_neg (by decide),
    List.filter_nil, List.append_nil]

end Lines

/-- A plain message behind a sign is shown as it is written exactly if it is verbatim. -/
theorem messageShown?_eq_iff {signed sign : String}
    (hsigned : plain? readable signed = (plain? readable m).map (sign ++ ·))
    (htab : '\t' ∉ sign.toList) (hm : ∀ c ∈ m.toList, Printable c) :
    messageShown? readable signed = some (sign ++ m ++ "\n") ↔ Verbatim m.toList := by
  have htabs : ∀ cs : List Char, (∀ c ∈ cs, Printable c) → '\t' ∉ sign.toList ++ cs := by
    intro cs hcs hc
    rcases List.mem_append.mp hc with hc | hc
    · exact htab hc
    · exact (hcs _ hc).not_tab rfl
  rw [← plain?_eq_some_self_iff hm, messageShown?, hsigned, Option.map_map]
  constructor
  · intro h
    obtain ⟨out, hout, heq⟩ := Option.map_eq_some_iff.mp h
    have hprinted : (printLines (Text.pieces '\n' (sign ++ out).toList)).toList =
        (sign ++ m ++ "\n").toList := congrArg String.toList heq
    -- nothing beyond ASCII is printed but the sign, so nothing else is left of the message
    have hbeyond := congrArg (List.filter isBeyondAscii) hprinted
    have hplain : m.toList.filter isBeyondAscii = [] :=
      List.filter_eq_nil_iff.mpr fun c hc => by simp [(hm c hc).not_beyondAscii]
    rw [filter_beyondAscii_printLines, String.toList_append, String.toList_append,
      String.toList_append, List.filter_append, List.filter_append, List.filter_append, hplain,
      List.append_nil, List.append_cancel_left_eq] at hbeyond
    have hascii : ∀ c ∈ out.toList, isBeyondAscii c = false := by
      simpa using List.filter_eq_nil_iff.mp (hbeyond.trans (by decide))
    obtain ⟨cs, hcs, rfl⟩ := Option.map_eq_some_iff.mp hout
    rw [String.toList_ofList] at hascii
    have hsub : (textOf (ofText m.toList)).Sublist m.toList := textOf_partsFrom_sublist ..
    have hleft : ∀ c ∈ textOf (ofText m.toList), Printable c := fun c hc => hm c (hsub.subset hc)
    obtain ⟨rfl, -⟩ := eq_textOf_of_plainFrom hcs hleft hascii
    rw [String.toList_append, String.toList_ofList, printLines_pieces (htabs _ hleft),
      String.toList_append, String.toList_append, List.append_assoc, List.append_assoc,
      List.append_cancel_left_eq] at hprinted
    have hsame : textOf (ofText m.toList) = m.toList := (List.append_left_inj _).mp hprinted
    rw [hout, hsame, String.ofList_toList]
  · intro h
    rw [h, Option.map_some, Option.some_inj]
    apply String.toList_injective
    change (printLines (Text.pieces '\n' (sign ++ m).toList)).toList = _
    rw [String.toList_append, printLines_pieces (htabs _ hm), String.toList_append,
      String.toList_append]
    rfl

/-- What is said of the key of a mapping holds the mark for keys, which is a tag. -/
theorem hasTag_ofIssues {issues : List Issue} {i : Issue} (hi : i ∈ issues)
    (hkey : Place.key "[key]" ∈ i.place) {path : String}
    (hm : (Complaint.ofIssues issues path).message = .whole m) : HasTag m.toList := by
  have hmark : HasTag "[key]".toList := ⟨[], "key".toList, [], rfl, by decide, 'k', rfl, rfl⟩
  -- the mark stands in the place, the place in a line, and the line in the message
  have hplace : (RawText.whole "[key]").points <:+:
      (RawText.whole (String.intercalate "." (i.place.map Complaint.placeText))).points := by
    have htext := List.mem_map_of_mem (f := Complaint.placeText) hkey
    rw [← RawText.join_map_whole]
    exact RawText.infix_join _ (List.mem_map_of_mem (f := RawText.whole) htext)
  have hissue : (RawText.whole (String.intercalate "." (i.place.map Complaint.placeText))).points
      <:+: (Complaint.issueLine i).points := by
    simp only [Complaint.issueLine, RawText.points_append, List.append_assoc]
    exact List.infix_append' _ _ _
  have hline := RawText.infix_join "\n" (List.mem_cons_of_mem (RawText.whole "Validation failed:")
    (List.mem_map_of_mem (f := Complaint.issueLine) hi))
  have hmessage : (Complaint.issueLine i).points <:+: m.toList.map Point.char := by
    rw [← RawText.points_whole, ← hm, Complaint.ofIssues, RawText.points_append]
    exact hline.trans (List.suffix_append _ _).isInfix
  exact hmark.of_part (RawText.infix_of_map_char ((hplace.trans hissue).trans hmessage))

/-- Which messages of printable characters and line feeds are shown as they are written, with the
sign for their kind in front and a line feed behind: those without tags, without backslashes in
front of brackets and without names of pictures between colons, whatever their kind. So a complaint
about the key of a mapping is never shown as it is written. -/
theorem shown_as_written_iff (readable : List Char → Bool) (m : String)
    (hm : ∀ c ∈ m.toList, Printable c) :
    ((success m).shown? readable = some ("✓ " ++ m ++ "\n") ↔ Verbatim m.toList) ∧
    ((failure m).shown? readable = some ("✗ " ++ m ++ "\n") ↔ Verbatim m.toList) ∧
    ((warning m).shown? readable = some ("⚠ " ++ m ++ "\n") ↔ Verbatim m.toList) ∧
    ((info m).shown? readable = some (m ++ "\n") ↔ Verbatim m.toList) ∧
    ∀ (issues : List Issue) (path : String), (Complaint.ofIssues issues path).message = .whole m →
      (∃ i ∈ issues, Place.key "[key]" ∈ i.place) →
      (failure m).shown? readable ≠ some ("✗ " ++ m ++ "\n") := by
  have hfailure : (failure m).shown? readable = some ("✗ " ++ m ++ "\n") ↔ Verbatim m.toList :=
    messageShown?_eq_iff (paints_red.plain? m) (by decide) hm
  refine ⟨?_, hfailure, ?_, ?_, fun issues path heq hkey hshown => ?_⟩
  · exact messageShown?_eq_iff (paints_green.plain? m) (by decide) hm
  · exact messageShown?_eq_iff (paints_yellow.plain? m) (by decide) hm
  · have hplain : plain? readable m = (plain? readable m).map ("" ++ ·) := by simp
    have h := messageShown?_eq_iff hplain (by decide) hm
    rwa [String.empty_append] at h
  · obtain ⟨i, hi, hkey⟩ := hkey
    exact (hfailure.mp hshown).no_tag (hasTag_ofIssues hi hkey heq)

/-- A message of words is shown as it is written, and one about a tag is not. -/
theorem shown_as_written_iff_words :
    (∀ readable, (success "Pipeline 'demo' valid").shown? readable =
      some "✓ Pipeline 'demo' valid\n") ∧
    (∀ readable, (warning "No node named [proc9]").shown? readable ≠
      some "⚠ No node named [proc9]\n") := by
  constructor
  · intro readable
    have hwords := shown_as_written_iff readable "Pipeline 'demo' valid"
      (List.all_iff_forall_prop.mp (by decide +kernel))
    exact hwords.1.mpr (.of_not_mem (by decide +kernel) (by decide +kernel))
  · intro readable hshown
    have htag := shown_as_written_iff readable "No node named [proc9]"
      (List.all_iff_forall_prop.mp (by decide +kernel))
    exact (htag.2.2.1.mp hshown).no_tag
      ⟨"No node named ".toList, "proc9".toList, [], by decide +kernel, by decide, 'p', rfl, rfl⟩

/-- The complaint about a configuration with a number for a source. -/
def numberedSource : Complaint :=
  .ofIssues (Deployment.check (.map [(.str "brokers", .list [.str "kafka:9092"]),
    (.str "source_topics", .map [(.int 1, .str "a")])])).issues "./deployment.yaml"

/-- The text of the complaint is shown without the mark that says that it is about a key. -/
theorem key_mark_not_shown : ∃ m : String,
    m = "Invalid configuration in ./deployment.yaml:\nValidation failed:\n" ++
      "  - source_topics.1.[key]: Input should be a valid string" ∧
    numberedSource.message = .whole m ∧ (∀ c ∈ m.toList, Printable c) ∧
    ∀ readable, (failure m).shown? readable =
        some ("✗ Invalid configuration in ./deployment.yaml:\nValidation failed:\n" ++
          "  - source_topics.1.: Input should be a valid string\n") ∧
      (failure m).shown? readable ≠ some ("✗ " ++ m ++ "\n") := by
  refine ⟨_, rfl, by decide +kernel, List.all_iff_forall_prop.mp (by decide +kernel), ?_⟩
  intro readable
  have hshown : (failure ("Invalid configuration in ./deployment.yaml:\nValidation failed:\n" ++
      "  - source_topics.1.[key]: Input should be a valid string" : String)).shown? readable =
      some ("✗ Invalid configuration in ./deployment.yaml:\nValidation failed:\n" ++
        "  - source_topics.1.: Input should be a valid string\n") := by
    -- no tag of the message closes a style, so that no parameters are read
    rw [shown?, signed, RawText.whole_append, messageShown?, paints_red.plain?,
      plain?_eq_of_harmless (by decide +kernel) readable fun _ => true]
    · decide +kernel
    · intro _ _ h
      cases h
  refine ⟨hshown, ?_⟩
  rw [hshown]
  decide +kernel

end Notice

end StreamMesh
