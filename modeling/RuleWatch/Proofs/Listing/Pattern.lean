import Mathlib.Data.List.Infix
import Mathlib.Data.List.TakeWhile
import RuleWatch.Listing.Pattern
import RuleWatch.Proofs.Text.Lowercase

/-!
# Texts inside of names

A filter between two percent signs matches a name just if it occurs in it (`contains_iff_occurs`):
once it is escaped, its characters match themselves and nothing else, whatever they mean in other
patterns. Both texts are in small letters, and in both of them the database takes U+FFFE and U+FFFF
for the replacement character.
-/

namespace RuleWatch.Listing.Pattern

open Text (lowercase replacement)

variable {c d : Char} {cs ds text : List Char} {needle name : String}

/-! ## Characters as they are read -/

theorem asRead_of_ne_replacement (h : asRead c ≠ replacement) : asRead c = c := by
  unfold asRead at h ⊢
  split at h
  · exact absurd rfl h
  · rename_i hc
    exact if_neg hc

theorem asRead_of_isSpecial (h : isSpecial c) : asRead c = c := by
  simp only [isSpecial, Bool.or_eq_true, beq_iff_eq] at h
  obtain (rfl | rfl) | rfl := h <;> decide

theorem isSpecial_asRead (c : Char) : isSpecial (asRead c) = isSpecial c := by
  unfold asRead
  split
  next h => obtain rfl | rfl := h <;> decide
  next => rfl

theorem toLower_asRead (h : c.toLower = c) : (asRead c).toLower = asRead c := by
  unfold asRead
  split
  · decide
  · exact h

/-- A character with a meaning in patterns is no letter, and nothing else is read as it. -/
theorem eq_of_asRead_toLower (h : isSpecial c) (heq : asRead d.toLower = c) : d = c := by
  have hread : asRead d.toLower = d.toLower := by
    refine asRead_of_ne_replacement fun hreplaced ↦ ?_
    rw [← heq, hreplaced] at h
    contradiction
  have hlower : d.toLower = c := hread.symm.trans heq
  have hsmall := Text.toNat_toLower d
  rw [hlower] at hsmall
  simp only [isSpecial, Bool.or_eq_true, beq_iff_eq] at h
  split at hsmall
  next hcapital =>
    have hbetween : 97 ≤ c.toNat ∧ c.toNat ≤ 122 := by omega
    obtain (rfl | rfl) | rfl := h <;> exact absurd hbetween (by decide)
  next => exact (Char.toNat_inj.mp hsmall).symm

/-- A text without NUL is read to its end. -/
theorem read_eq_map (h : '\x00' ∉ cs) : read cs = cs.map asRead := by
  have hall : untilNul cs = cs := List.takeWhile_eq_self_iff.mpr fun c hc ↦ by
    simpa using fun heq : c = '\x00' ↦ h (heq ▸ hc)
  rw [read, hall]

/-! ## Escaped texts -/

theorem map_asRead_escape (cs : List Char) : (escape cs).map asRead = escape (cs.map asRead) := by
  induction cs with
  | nil => rfl
  | cons c cs ih =>
    have hbackslash : asRead '\\' = '\\' := by decide
    simp only [escape, List.map_cons, List.flatMap_cons, List.map_append] at ih ⊢
    rw [ih, isSpecial_asRead]
    cases isSpecial c <;> simp [hbackslash]

theorem nul_notMem_escape (h : '\x00' ∉ cs) : '\x00' ∉ escape cs := by
  intro hmem
  obtain ⟨c, hc, hnul⟩ := List.mem_flatMap.mp hmem
  have hne : '\x00' ≠ c := fun heq ↦ h (heq ▸ hc)
  split at hnul <;> simp [hne] at hnul

/-- Escaped characters stand for themselves. -/
theorem ofChars_escape_append (cs after : List Char) :
    ofChars (escape cs ++ after) =
      ⟨cs.map .literal ++ (ofChars after).parts, (ofChars after).unfinished⟩ := by
  induction cs with
  | nil => rfl
  | cons c cs ih =>
    have hcons : escape (c :: cs) = (if isSpecial c then ['\\', c] else [c]) ++ escape cs := rfl
    rw [hcons]
    cases hc : isSpecial c with
    | true =>
      change ofChars ('\\' :: c :: (escape cs ++ after)) = _
      rw [ofChars, ih]
      rfl
    | false =>
      change ofChars (c :: (escape cs ++ after)) = _
      have hplain : (c ≠ '%' ∧ c ≠ '_') ∧ c ≠ '\\' := by simpa [isSpecial] using hc
      rw [ofChars, ih]
      · rfl
      all_goals simp [hplain]

/-! ## Matching -/

theorem matchAfter_iff {rest : List Char → Bool} :
    matchAfter rest cs ↔ ∃ after, after <:+ cs ∧ rest after := by
  induction cs with
  | nil => simp [matchAfter]
  | cons c cs ih =>
    rw [matchAfter, Bool.or_eq_true, ih]
    constructor
    · rintro (h | ⟨after, hafter, h⟩)
      · exact ⟨_, List.suffix_rfl, h⟩
      · exact ⟨after, hafter.trans (List.suffix_cons c cs), h⟩
    · rintro ⟨after, hafter, h⟩
      rcases List.suffix_cons_iff.mp hafter with rfl | hafter
      · exact .inl h
      · exact .inr ⟨after, hafter, h⟩

/-- What may be followed by anything is followed by anything. -/
theorem matchParts_any (text : List Char) : matchParts [.any] text := by
  rw [matchParts, matchAfter_iff]
  exact ⟨[], List.nil_suffix, rfl⟩

/-- Where no capital letter is left, characters match what begins with them. -/
theorem matchParts_literals {parts : List Part} (hcs : ∀ c ∈ cs, c.toLower = c)
    (htext : ∀ d ∈ text, d.toLower = d) :
    matchParts (cs.map .literal ++ parts) text ↔
      ∃ after, cs ++ after = text ∧ matchParts parts after := by
  induction cs generalizing text with
  | nil => simp
  | cons c cs ih =>
    cases text with
    | nil => simp [matchParts]
    | cons d text =>
      have hagrees : agrees c d ↔ c = d := by
        rw [agrees, hcs c (.head _), htext d (.head _), beq_iff_eq]
      rw [List.map_cons, List.cons_append, matchParts, Bool.and_eq_true, hagrees,
        ih (fun x hx ↦ hcs x (.tail _ hx)) fun x hx ↦ htext x (.tail _ hx)]
      simp only [List.cons_append, List.cons_eq_cons, ← exists_and_left, and_assoc]

/-- Escaped characters between two percent signs match what they occur in. -/
theorem accepts_escaped (hnul : '\x00' ∉ cs) (hnulText : '\x00' ∉ text)
    (hcs : ∀ c ∈ cs, c.toLower = c) (htext : ∀ d ∈ text, d.toLower = d) :
    accepts ('%' :: escape cs ++ ['%']) text ↔ cs.map asRead <:+: text.map asRead := by
  have hpattern : '\x00' ∉ '%' :: escape cs ++ ['%'] := by
    simpa using nul_notMem_escape hnul
  have hparts : ofChars (read ('%' :: escape cs ++ ['%'])) =
      ⟨.any :: ((cs.map asRead).map .literal ++ [.any]), false⟩ := by
    have hpercent : asRead '%' = '%' := by decide
    rw [read_eq_map hpattern, List.map_append, List.map_cons, map_asRead_escape, hpercent,
      List.map_singleton, hpercent, List.cons_append, ofChars, ofChars_escape_append]
    rfl
  have hsmall {cs : List Char} (h : ∀ c ∈ cs, c.toLower = c) :
      ∀ c ∈ cs.map asRead, c.toLower = c := by
    intro c hc
    obtain ⟨d, hd, rfl⟩ := List.mem_map.mp hc
    exact toLower_asRead (h d hd)
  rw [accepts, hparts, read_eq_map hnulText, matchParts, Bool.not_false, Bool.true_and,
    matchAfter_iff, List.infix_iff_prefix_suffix]
  refine exists_congr fun after ↦ ?_
  rw [and_comm]
  refine and_congr_left fun hafter ↦ ?_
  rw [matchParts_literals (hsmall hcs) fun d hd ↦ hsmall htext d (hafter.subset hd)]
  simp only [matchParts_any, and_true]
  rfl

/-- The empty text is found in every name. -/
theorem contains_empty (name : String) : contains "" name = true := by
  have hparts : ofChars (read (containing "")) = ⟨[.any, .any], false⟩ := by decide
  rw [contains, accepts, hparts]
  change matchParts [.any, .any] _ = true
  rw [matchParts, matchAfter_iff]
  exact ⟨_, List.suffix_rfl, matchParts_any _⟩

/-! ## Occurrences -/

/-- The text in small letters occurs in the name in small letters, as both of them are read. -/
def Occurs (needle name : String) : Prop :=
  (lowercase needle).toList.map asRead <:+: (name.toList.map Char.toLower).map asRead

instance : Decidable (Occurs needle name) :=
  inferInstanceAs (Decidable (_ <:+: _))

/-- A name matches the pattern that is made of a filter just if the filter occurs in it. -/
theorem contains_iff_occurs (hneedle : '\x00' ∉ needle.toList) (hname : '\x00' ∉ name.toList) :
    contains needle name ↔ Occurs needle name := by
  refine accepts_escaped (Text.nul_notMem_lowercase hneedle) ?_
    (fun c hc ↦ Text.toLower_eq_of_mem_lowercase hc) ?_
  · intro hmem
    obtain ⟨c, hc, hnul⟩ := List.mem_map.mp hmem
    exact hname (Text.toLower_eq_nul_iff.mp hnul ▸ hc)
  · intro c hc
    obtain ⟨d, -, rfl⟩ := List.mem_map.mp hc
    exact Text.toLower_toLower d

/-- Unless it has one of the three characters that are read alike, a filter occurs in a name just if
its small letters stand among those of the name. -/
theorem occurs_iff_infix (h : ∀ c ∈ (lowercase needle).toList, asRead c ≠ replacement) :
    Occurs needle name ↔ (lowercase needle).toList <:+: name.toList.map Char.toLower := by
  unfold Occurs
  generalize (lowercase needle).toList = small at h
  have hsmall : small.map asRead = small :=
    (List.map_congr_left fun c hc ↦ asRead_of_ne_replacement (h c hc)).trans (List.map_id _)
  rw [hsmall, List.infix_map_iff]
  constructor
  · rintro ⟨found, hfound, rfl⟩
    have hsame : found.map asRead = found := by
      refine (List.map_congr_left fun c hc ↦ asRead_of_ne_replacement ?_).trans (List.map_id _)
      intro hreplaced
      have hread : asRead replacement = replacement := by decide
      exact h _ (List.mem_map_of_mem hc) (by rw [hreplaced, hread])
    rwa [hsame]
  · exact fun hinfix ↦ ⟨small, hinfix, hsmall.symm⟩

/-- Wherever a filter has a character with a meaning in patterns, the name has the same. -/
theorem Occurs.exists_found (h : Occurs needle name) :
    ∃ found, found <:+: name.toList ∧ found.length = (lowercase needle).toList.length ∧
      ∀ (i : Nat) (c : Char), (lowercase needle).toList[i]? = some c → isSpecial c →
        found[i]? = some c := by
  unfold Occurs at h
  rw [List.map_map, List.infix_map_iff] at h
  obtain ⟨found, hfound, heq⟩ := h
  refine ⟨found, hfound, by simpa using (congrArg List.length heq).symm, fun i c hc hspecial ↦ ?_⟩
  have hplace := congrArg (fun cs ↦ cs[i]?) heq
  simp only [List.getElem?_map, hc, Option.map_some, asRead_of_isSpecial hspecial] at hplace
  obtain ⟨d, hd, hread⟩ := Option.map_eq_some_iff.mp hplace.symm
  rw [hd, eq_of_asRead_toLower hspecial hread]

/-- Whatever the case of its letters is, ASCII text that stands in a name occurs in it. -/
theorem occurs_of_ascii {part : List Char} (hascii : ∀ c ∈ part, c.toNat < 128)
    (hpart : part <:+: name.toList)
    (hcase : needle.toList.map Char.toLower = part.map Char.toLower) : Occurs needle name := by
  have hneedle : ∀ c ∈ needle.toList, c.toNat < 128 := by
    intro c hc
    have hmem : c.toLower ∈ part.map Char.toLower := hcase ▸ List.mem_map_of_mem hc
    obtain ⟨d, hd, heq⟩ := List.mem_map.mp hmem
    have hlt := hascii d hd
    have hsmallC := Text.toNat_toLower c
    have hsmallD := Text.toNat_toLower d
    rw [heq] at hsmallD
    split at hsmallC <;> split at hsmallD <;> omega
  rw [Occurs, Text.lowercase_eq_map fun c hc ↦ Text.isWideCapital_of_lt (hneedle c hc), hcase]
  exact (hpart.map _).map _

theorem occurs_empty (name : String) : Occurs "" name := List.nil_infix

/-! ## Texts as they stand in names -/

/-- A text without capital letters beyond ASCII is found where it stands. -/
theorem occurs_of_infix (hpart : needle.toList <:+: name.toList)
    (h : ∀ c ∈ needle.toList, Text.isWideCapital c = false) : Occurs needle name := by
  rw [Occurs, Text.lowercase_eq_map h]
  exact (hpart.map _).map _

/-- Of the characters that are read alike none is a letter. -/
theorem smallLetter_eq_self_of_asRead (h : asRead (Text.Property.smallLetter c) = asRead c) :
    Text.Property.smallLetter c = c := by
  by_cases hreplaced : asRead c = replacement
  · have halike : c = '\uFFFE' ∨ c = '\uFFFF' ∨ c = replacement := by
      unfold asRead at hreplaced
      split at hreplaced
      next heither => exact heither.imp_right .inl
      next => exact .inr (.inr hreplaced)
    obtain rfl | rfl | rfl := halike <;> decide +kernel
  · have hread : asRead (Text.Property.smallLetter c) = Text.Property.smallLetter c :=
      asRead_of_ne_replacement (h ▸ hreplaced)
    rw [← hread, h, asRead_of_ne_replacement hreplaced]

/-- A capital letter beyond ASCII is not found in itself. -/
theorem isWideCapital_eq_false {before after : List Char}
    (h : (Text.lowercaseChar before c after).map asRead = [asRead c.toLower]) :
    Text.isWideCapital c = false := by
  rcases Nat.lt_or_ge c.toNat 128 with hlt | hge
  · exact Text.isWideCapital_of_lt hlt
  rw [Text.toLower_eq_self_of_le hge] at h
  unfold Text.lowercaseChar at h
  split at h
  next hsigma =>
    subst hsigma
    revert h
    split <;> decide
  split at h
  next hdotted => exact absurd (List.cons.inj h).2 (List.cons_ne_nil _ _)
  next hsigma hdotted =>
    have hsmall := smallLetter_eq_self_of_asRead (List.singleton_inj.mp h)
    simp [Text.isWideCapital, Text.lowercaseChar, hsigma, hdotted, hsmall]

/-- If the small forms are read like those of ASCII, there are no other capital letters. -/
theorem forall_isWideCapital_eq_false {before : List Char}
    (h : (Text.lowercaseList before cs).map asRead = (cs.map Char.toLower).map asRead) :
    ∀ c ∈ cs, Text.isWideCapital c = false := by
  induction cs generalizing before with
  | nil => simp
  | cons c cs ih =>
    have happend : (Text.lowercaseChar before c cs).map asRead ++
        (Text.lowercaseList (c :: before) cs).map asRead =
          [asRead c.toLower] ++ (cs.map Char.toLower).map asRead := by
      rw [← List.map_append]
      exact h
    -- The other characters have a small form each, so that only one is left for the first.
    have hlength : ((Text.lowercaseChar before c cs).map asRead).length = 1 := by
      have hall := congrArg List.length happend
      have hpos := Text.length_lowercaseChar_pos before c cs
      have hle := Text.length_le_lowercaseList (c :: before) cs
      simp only [List.length_append, List.length_map, List.length_singleton] at hall ⊢
      omega
    obtain ⟨hchar, hrest⟩ := List.append_inj happend hlength
    exact List.forall_mem_cons.mpr ⟨isWideCapital_eq_false hchar, ih hrest⟩

/-- A name is found in itself just if it has no capital letters beyond ASCII. -/
theorem occurs_self_iff : Occurs name name ↔ ∀ c ∈ name.toList, Text.isWideCapital c = false := by
  refine ⟨fun h ↦ ?_, occurs_of_infix List.infix_rfl⟩
  have hsmall : (lowercase name).toList = Text.lowercaseList [] name.toList := String.toList_ofList
  rw [Occurs, hsmall] at h
  have hle := Text.length_le_lowercaseList [] name.toList
  exact forall_isWideCapital_eq_false (h.eq_of_length_le (by simpa using hle))

end RuleWatch.Listing.Pattern
