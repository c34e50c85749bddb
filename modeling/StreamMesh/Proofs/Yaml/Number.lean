import StreamMesh.Proofs.Text.Pattern
import StreamMesh.Yaml.Node.Value
import StreamMesh.Yaml.Print

/-!
# Whole numbers read back

A whole number is written in decimal digits, after a minus sign if it is negative. No other type of
plain scalar has that spelling, and it is read as the number, unless it has too many digits.

## Main definitions

* `wholeText` — the spelling of a whole number

## Main results

* `ofPlain_wholeText` — the spelling has the type of whole numbers
* `wholeValue_wholeText` — it is read as the number
-/

namespace StreamMesh

namespace Yaml

open Text Text.Pattern Implicit

variable {c : Char} {cs : List Char} {n : Nat} {x : Int}

/-- The decimal digits of a number, after a minus sign if it is negative. -/
def wholeText (x : Int) : List Char :=
  if x < 0 then '-' :: Nat.toDigits 10 x.natAbs else Nat.toDigits 10 x.natAbs

theorem toList_toString (x : Int) : (toString x).toList = wholeText x := by
  rw [Int.toString_eq_repr]
  cases x with
  | ofNat n => exact Nat.toList_repr
  | negSucc n =>
    have h : (Int.negSucc n).repr = "-" ++ (n + 1).repr := rfl
    rw [h, String.toList_append, Nat.toList_repr, wholeText, if_pos (Int.negSucc_lt_zero n)]
    rfl

/-- The digits of a number. -/
theorem isDigit_toDigits : ∀ c ∈ Nat.toDigits 10 n, c.isDigit = true := fun _ hc =>
  Nat.isDigit_of_mem_toDigits (by decide) (by decide) hc

/-- Digits start with a zero only for zero itself. -/
theorem head_toDigits (h : 0 < n) : ∃ d ds, Nat.toDigits 10 n = d :: ds ∧ d ≠ '0' := by
  induction n using Nat.strongRecOn with
  | _ n ih =>
    rw [Nat.toDigits_eq_if (by decide)]
    split
    · rename_i hn
      have hall : ∀ k : Fin 10, 0 < k.val → k.val.digitChar ≠ '0' := by decide
      exact ⟨_, _, rfl, hall ⟨n, hn⟩ h⟩
    · rename_i hn
      obtain ⟨d, ds, hds, hd⟩ := ih (n / 10) (by omega) (by omega)
      exact ⟨d, ds ++ [(n % 10).digitChar], by rw [hds]; rfl, hd⟩

theorem wholeText_ne_nil : wholeText x ≠ [] := by
  unfold wholeText
  split
  · exact List.cons_ne_nil _ _
  · exact List.ne_nil_of_length_pos Nat.length_toDigits_pos

theorem mem_wholeText (h : c ∈ wholeText x) : c = '-' ∨ c.isDigit = true := by
  unfold wholeText at h
  split at h
  · exact (List.mem_cons.mp h).imp_right (isDigit_toDigits c)
  · exact .inr (isDigit_toDigits c h)

/-- A character that is neither a digit nor a minus sign is not in a number. -/
theorem not_mem_wholeText (hminus : c ≠ '-') (hdigit : c.isDigit = false) : c ∉ wholeText x :=
    fun h =>
  (mem_wholeText h).elim hminus fun hc => Bool.false_ne_true (hdigit.symm.trans hc)

section Implicit

/-- What holds of the ten digits holds of every digit. -/
theorem forall_isDigit {P : Char → Prop} (h : ∀ k : Fin 10, P k.val.digitChar)
    (hc : c.isDigit = true) :
    P c := by
  obtain ⟨hlow, hhigh⟩ := Char.isDigit_iff_toNat.mp hc
  have hall : ∀ k : Fin 10, Char.ofNat (48 + k.val) = k.val.digitChar := by decide
  have hcode : 48 + (c.toNat - 48) = c.toNat := Nat.add_sub_cancel' hlow
  have hchar := hall ⟨c.toNat - 48, Nat.sub_lt_left_of_lt_add hlow (Nat.lt_succ_of_le hhigh)⟩
  rw [hcode, Char.ofNat_toNat] at hchar
  exact hchar ▸ h _

/-- No word for a truth value starts with a digit or a minus sign. -/
theorem boolPattern_wholeText : boolPattern.accepts (wholeText x) = false := by
  obtain ⟨c, cs, hcs⟩ := List.exists_cons_of_ne_nil (wholeText_ne_nil (x := x))
  have hc : c = '-' ∨ c.isDigit = true := mem_wholeText (hcs ▸ List.mem_cons_self ..)
  have hnever : boolPattern.derive c = .never := by
    rcases hc with rfl | hc
    · rfl
    · refine forall_isDigit (P := fun c => boolPattern.derive c = .never) ?_ hc
      exact fun | 0 | 1 | 2 | 3 | 4 | 5 | 6 | 7 | 8 | 9 => rfl
  rw [hcs, accepts, hnever, accepts_never]

/-- Every decimal fraction has a point. -/
theorem floatPattern_wholeText : floatPattern.accepts (wholeText x) = false := by
  refine Bool.eq_false_iff.mpr fun h => ?_
  obtain ⟨p, hp, hmatches⟩ := exists_of_matches_oneOf (accepts_iff.mp h)
  -- each way to write a fraction, an infinity and what is no number asks for a point
  have hpoint : '.' ∈ wholeText x := by
    simp only [List.mem_cons, List.not_mem_nil, or_false] at hp
    rcases hp with rfl | rfl | rfl | rfl | rfl <;> exact mem_of_matches_inOrder hmatches (by simp)
  exact not_mem_wholeText (by decide) (by decide) hpoint

/-- The digits of a number are those of a whole number in base ten. -/
theorem matches_toDigits :
    Matches (alt (char '0') (seq (between '1' '9') (many (alt digit (char '_')))))
      (Nat.toDigits 10 n) := by
  have hdigit : ∀ c : Char, c.isDigit = true → Matches (alt digit (char '_')) [c] := fun c hc =>
    .left (.one (forall_isDigit (P := fun c => ('0' ≤ c && c ≤ '9') = true) (by decide) hc))
  rcases Nat.eq_zero_or_pos n with rfl | hn
  · exact .left (.one rfl)
  · obtain ⟨d, ds, hds, hzero⟩ := head_toDigits hn
    have hall : ∀ c ∈ d :: ds, c.isDigit = true := fun c hc => isDigit_toDigits c (hds ▸ hc)
    rw [List.forall_mem_cons] at hall
    rw [hds, ← List.singleton_append]
    refine .right (.seq (.one ?_) (matches_many fun c hc => hdigit c (hall.2 c hc)))
    exact forall_isDigit (P := fun c => c ≠ '0' → ('1' ≤ c && c ≤ '9') = true) (by decide)
      hall.1 hzero

theorem intPattern_wholeText : intPattern.accepts (wholeText x) = true := by
  refine accepts_iff.mpr (matches_oneOf (List.mem_cons_of_mem _ (List.mem_cons_of_mem _
    (List.mem_cons_self ..))) ?_)
  have hdigits :
    Matches (inOrder [alt (char '0') (seq (between '1' '9') (many (alt digit (char '_'))))])
      (Nat.toDigits 10 x.natAbs) := by
    have h := Matches.seq (matches_toDigits (n := x.natAbs)) .blank
    rwa [List.append_nil] at h
  unfold wholeText
  split
  · exact .seq (s := ['-']) (.left (.one rfl)) hdigits
  · exact .seq (s := []) (.right .blank) hdigits

/-- The spelling of a whole number has the type of whole numbers. -/
theorem ofPlain_wholeText : ofPlain (wholeText x) = .int := by
  have hlast : (wholeText x).getLast? ≠ some '\n' := fun h =>
    not_mem_wholeText (by decide) (by decide) (List.mem_of_getLast? h)
  have hhead : (wholeText x).head? ≠ some '\n' := fun h =>
    not_mem_wholeText (by decide) (by decide) (List.mem_of_head? h)
  simp [ofPlain, patterns, acceptsLine_eq_accepts hlast, boolPattern_wholeText,
    floatPattern_wholeText, intPattern_wholeText, hhead]

end Implicit

section Values

theorem digitValue?_of_isDigit (h : c.isDigit = true) :
    digitValue? 10 c = some (c.toNat - '0'.toNat) :=
  forall_isDigit (P := fun c => digitValue? 10 c = some (c.toNat - '0'.toNat)) (by decide) h

theorem foldlM_digits {acc : Nat} (h : ∀ c ∈ cs, c.isDigit = true) :
    cs.foldlM (fun n c => (digitValue? 10 c).map fun d => n * 10 + d) acc =
      some (Nat.ofDigitChars 10 cs acc) := by
  induction cs generalizing acc with
  | nil => rfl
  | cons c cs ih =>
    rw [List.forall_mem_cons] at h
    rw [List.foldlM_cons, digitValue?_of_isDigit h.1, Option.map_some, Option.bind_eq_bind,
      Option.bind_some, ih h.2, Nat.mul_comm acc]
    rfl

/-- Digits spell their number. -/
theorem digitsValue?_toDigits : digitsValue? 10 (Nat.toDigits 10 n) = some n := by
  have hne : (Nat.toDigits 10 n).isEmpty = false :=
    List.isEmpty_eq_false_iff.mpr (List.ne_nil_of_length_pos Nat.length_toDigits_pos)
  rw [digitsValue?, hne, if_neg Bool.false_ne_true, foldlM_digits isDigit_toDigits,
    Nat.ofDigitChars_toDigits (by decide) (by decide)]

theorem trim_of_forall (h : ∀ c ∈ cs, Text.isBlank c = false) : Text.trim cs = cs := by
  have hdrop : ∀ {ds : List Char}, (∀ c ∈ ds, Text.isBlank c = false) →
      ds.dropWhile Text.isBlank = ds := by
    intro ds hds
    cases ds with
    | nil => rfl
    | cons d ds =>
      have hd : ¬ Text.isBlank d = true := Bool.eq_false_iff.mp (hds d (List.mem_cons_self ..))
      rw [List.dropWhile_cons_of_neg hd]
  rw [Text.trim, hdrop h, hdrop fun c hc => h c (List.mem_reverse.mp hc), List.reverse_reverse]

theorem splitSign_digits (h : ∀ c ∈ cs, c.isDigit = true) : splitSign cs = (false, cs) := by
  unfold splitSign
  split
  · cases h _ (List.mem_cons_self ..)
  · cases h _ (List.mem_cons_self ..)
  · rfl

theorem isBlank_of_isDigit (h : c.isDigit = true) : Text.isBlank c = false :=
  forall_isDigit (P := fun c => Text.isBlank c = false) (by decide) h

/-- The digits of a spelling are plain already. -/
theorem map_plainDigit_toDigits : (Nat.toDigits 10 n).map Text.plainDigit = Nat.toDigits 10 n := by
  have hplain : ∀ c ∈ Nat.toDigits 10 n, Text.plainDigit c = id c := fun c hc =>
    forall_isDigit (P := fun c => Text.plainDigit c = c) (by decide) (isDigit_toDigits c hc)
  rw [List.map_congr_left hplain, List.map_id]

theorem readWhole_toDigits (h : (Nat.toDigits 10 n).length ≤ Decimal.maxDigits) :
    readWhole 10 (Nat.toDigits 10 n) = .ok n := by
  have htrim : Text.trim (Nat.toDigits 10 n) = Nat.toDigits 10 n :=
    trim_of_forall fun c hc => isBlank_of_isDigit (isDigit_toDigits c hc)
  have hmark : dropBaseMark 10 (Nat.toDigits 10 n) = Nat.toDigits 10 n := by
    unfold dropBaseMark
    split
    · rename_i hds
      rw [hds]
      rfl
    · rfl
  simp only [readWhole, htrim, map_plainDigit_toDigits, splitSign_digits isDigit_toDigits, hmark,
    digitsValue?_toDigits]
  rw [if_neg fun hlong => Nat.not_lt.mpr h hlong.2]
  rfl

theorem splitSign_wholeText :
    splitSign (wholeText x) = (decide (x < 0), Nat.toDigits 10 x.natAbs) := by
  unfold wholeText
  split
  · rename_i hneg
    rw [decide_eq_true hneg]
    rfl
  · rename_i hnonneg
    rw [decide_eq_false hnonneg, splitSign_digits isDigit_toDigits]

theorem signed_natAbs : signed (decide (x < 0)) x.natAbs = x := by
  rcases Int.lt_or_le x 0 with hneg | hnonneg
  · rw [signed, if_pos (decide_eq_true hneg)]
    omega
  · rw [signed, if_neg fun h => Int.not_lt.mpr hnonneg (of_decide_eq_true h)]
    omega

/-- The spelling of a whole number is read as the number. -/
theorem wholeValue_wholeText (h : (Nat.toDigits 10 x.natAbs).length ≤ Decimal.maxDigits) :
    wholeValue (wholeText x) = .ok x := by
  have hfilter : (wholeText x).filter (· != '_') = wholeText x := by
    refine List.filter_eq_self.mpr fun c hc => bne_iff_ne.mpr ?_
    rintro rfl
    exact not_mem_wholeText (by decide) (by decide) hc
  have hempty : (wholeText x).isEmpty = false := List.isEmpty_eq_false_iff.mpr wholeText_ne_nil
  simp only [wholeValue, hfilter, hempty, splitSign_wholeText]
  rcases Nat.eq_zero_or_pos x.natAbs with hzero | hpos
  · obtain rfl := Int.natAbs_eq_zero.mp hzero
    rfl
  · obtain ⟨d, ds, hds, hd⟩ := head_toDigits hpos
    have hcolon : (Nat.toDigits 10 x.natAbs).contains ':' = false := by
      refine Bool.eq_false_iff.mpr fun hmem => ?_
      cases isDigit_toDigits _ (List.contains_iff_mem.mp hmem)
    have hread := readWhole_toDigits h
    simp only [Bool.false_eq_true, if_false, bind, Except.bind]
    -- the marks of other bases start with a zero, and base sixty has colons
    split
    · rename_i hnil
      rw [hds] at hnil
      cases hnil
    · rename_i hbinary
      rw [hds] at hbinary
      exact absurd (List.cons.inj hbinary).1 hd
    · rename_i hhex
      rw [hds] at hhex
      exact absurd (List.cons.inj hhex).1 hd
    · rename_i hoctal
      rw [hds] at hoctal
      exact absurd (List.cons.inj hoctal).1 hd
    · rw [hcolon, if_neg Bool.false_ne_true, hread]
      exact congrArg Except.ok signed_natAbs

end Values

section Plain

theorem isPlainAscii_wholeText : ∀ c ∈ wholeText x, isPlainAscii c = true := by
  intro c hc
  rcases mem_wholeText hc with rfl | hc
  · rfl
  · exact forall_isDigit (P := fun c => isPlainAscii c = true) (by decide) hc

theorem indicatorInside_eq_false {b : Char} (hcolon : ':' ∉ cs) (hcomment : '#' ∉ cs) :
    indicatorInside b cs = false := by
  induction cs generalizing b with
  | nil => rfl
  | cons c cs ih =>
    rw [List.mem_cons, not_or] at hcolon hcomment
    have hc : c ≠ ':' ∧ c ≠ '#' := ⟨fun e => hcolon.1 e.symm, fun e => hcomment.1 e.symm⟩
    simp [indicatorInside, hc, ih hcolon.2 hcomment.2]

/-- A number does not start like anything else. -/
theorem indicatorFirst_wholeText : indicatorFirst (wholeText x) = false := by
  have hdigit : ∀ d : Char, d.isDigit = true → ∀ ds, indicatorFirst (d :: ds) = false := by
    intro d hd ds
    refine forall_isDigit (P := fun d => indicatorFirst (d :: ds) = false) ?_ hd
    exact fun | 0 | 1 | 2 | 3 | 4 | 5 | 6 | 7 | 8 | 9 => rfl
  obtain ⟨d, ds, hds⟩ := List.exists_cons_of_ne_nil
    (List.ne_nil_of_length_pos (Nat.length_toDigits_pos (b := 10) (n := x.natAbs)))
  have hd : d.isDigit = true := isDigit_toDigits d (hds ▸ List.mem_cons_self ..)
  unfold wholeText
  split
  · have hne : d ≠ ' ' ∧ d ≠ '-' := by
      constructor <;> rintro rfl <;> cases hd
    rw [hds]
    simp [indicatorFirst, blankNext, hne]
  · rw [hds]
    exact hdigit d hd ds

/-- A number may stand bare. -/
theorem plainAllowed_wholeText : plainAllowed (wholeText x) = true := by
  obtain ⟨c, cs, hcs⟩ := List.exists_cons_of_ne_nil (wholeText_ne_nil (x := x))
  have hspace : ' ' ∉ wholeText x := not_mem_wholeText (by decide) (by decide)
  have hcolon : ':' ∉ wholeText x := not_mem_wholeText (by decide) (by decide)
  have hcomment : '#' ∉ wholeText x := not_mem_wholeText (by decide) (by decide)
  -- the facts about the spelling have to be there before its first character is split off
  have hfirst := indicatorFirst_wholeText (x := x)
  have hascii := isPlainAscii_wholeText (x := x)
  have hlast : (wholeText x).getLast? ≠ some ' ' := fun h => hspace (List.mem_of_getLast? h)
  rw [hcs] at hspace hcolon hcomment hfirst hascii hlast ⊢
  have hc : c ≠ ' ' := fun e => hspace (e ▸ List.mem_cons_self ..)
  have hinside : indicatorInside c cs = false :=
    indicatorInside_eq_false (fun h => hcolon (List.mem_cons_of_mem _ h))
      fun h => hcomment (List.mem_cons_of_mem _ h)
  simp only [plainAllowed, Bool.and_eq_true, List.all_eq_true, bne_iff_ne, Bool.not_eq_true']
  exact ⟨⟨⟨⟨hascii, hc⟩, hlast⟩, hfirst⟩, hinside⟩

end Plain

end Yaml

end StreamMesh
