import RuleWatch.Proofs.Text.ByteOrder
import RuleWatch.Text.Snippet

/-!
# Cutting between characters

Texts may be cut where the byte after the cut does not continue a character. From a place in the
bytes of a text, such a cut is found by going back (`lastBoundary`): it is where the last character
ends that still fits in (`lastBoundary_eq`), and since no character has more than four bytes, it is
at most three bytes away. So a snippet can be made by looking at single bytes, and no cut that is
made in this way fails (`cut?_eq_some`).
-/

namespace RuleWatch.Text

/-! ## Bytes -/

/-- The text that bytes are read as has these bytes. -/
theorem ofBytes?_eq_some_iff {bytes : Bytes} {s : String} :
    ofBytes? bytes = some s ↔ toBytes s = bytes := by
  have hbytes : ∀ a : ByteArray, a.toList = a.data.toList := fun a ↦ by
    rw [ByteArray.toList, toList_loop_eq a (Nat.zero_add _)]
    rfl
  have heq : toBytes s = bytes ↔ s.toByteArray = ⟨bytes.toArray⟩ := by
    rw [toBytes, hbytes, ByteArray.ext_iff, ← Array.toList_inj]
    rfl
  rw [heq, ofBytes?, String.fromUTF8?]
  split
  next h =>
    rw [Option.some.injEq, ← String.toByteArray_inj]
    exact eq_comm
  next h => exact iff_of_false (by simp) fun hs ↦ h (hs ▸ s.isValidUTF8)

/-- A text has as many bytes as its characters take. -/
theorem length_toBytes_eq (s : String) : (toBytes s).length = utf8Length s.toList := by
  rw [toBytes_eq_flatMap]
  induction s.toList with
  | nil => rfl
  | cons c cs ih =>
    rw [List.flatMap_cons, List.length_append, String.length_utf8EncodeChar, ih, utf8Length]

theorem length_flatMap_utf8EncodeChar (cs : List Char) :
    (cs.flatMap String.utf8EncodeChar).length = utf8Length cs := by
  rw [← String.toList_ofList (l := cs), ← toBytes_eq_flatMap, length_toBytes_eq]

@[simp] theorem utf8Length_append (before after : List Char) :
    utf8Length (before ++ after) = utf8Length before + utf8Length after := by
  induction before with
  | nil => exact (Nat.zero_add _).symm
  | cons c cs ih => rw [List.cons_append, utf8Length, utf8Length, ih, Nat.add_assoc]

theorem utf8Length_le_of_isPrefix {front cs : List Char} (h : front <+: cs) :
    utf8Length front ≤ utf8Length cs := by
  obtain ⟨after, rfl⟩ := h
  rw [utf8Length_append]
  exact Nat.le_add_right ..

/-! ## Characters that fit in -/

theorem utf8Length_takeFitting_le (room : Nat) (cs : List Char) :
    utf8Length (takeFitting room cs) ≤ room := by
  induction cs generalizing room with
  | nil => exact Nat.zero_le _
  | cons c cs ih =>
    unfold takeFitting
    split
    next h =>
      rw [utf8Length]
      have hle := ih (room - c.utf8Size)
      omega
    next => exact Nat.zero_le _

/-- No more characters fit in than those that are taken. -/
theorem isPrefix_takeFitting {room : Nat} {front cs : List Char} (h : front <+: cs)
    (hfits : utf8Length front ≤ room) : front <+: takeFitting room cs := by
  induction cs generalizing room front with
  | nil => exact h
  | cons c cs ih =>
    cases front with
    | nil => exact List.nil_prefix
    | cons d front =>
      obtain ⟨rfl, hfront⟩ := List.cons_prefix_cons.mp h
      rw [utf8Length] at hfits
      rw [takeFitting, if_pos (by omega)]
      exact List.cons_prefix_cons.mpr ⟨rfl, ih hfront (by omega)⟩

/-- If not all characters fit in, there is no room for four bytes after those that do. -/
theorem lt_utf8Length_takeFitting_add {room : Nat} {cs : List Char} (h : room < utf8Length cs) :
    room < utf8Length (takeFitting room cs) + 4 := by
  induction cs generalizing room with
  | nil => exact absurd h (Nat.not_lt_zero _)
  | cons c cs ih =>
    have hsize : c.utf8Size ≤ 4 := c.utf8Size_le_four
    rw [utf8Length] at h
    unfold takeFitting
    split
    next hle =>
      rw [utf8Length]
      have hrest : room - c.utf8Size < utf8Length cs := by omega
      have hlt := ih hrest
      omega
    next hlt => omega

/-! ## Places to cut at -/

/-- The byte is one of those that follow the first byte of a character. -/
def continues (b : UInt8) : Bool :=
  0x80 ≤ b.toNat && b.toNat < 0xC0

/-- A text may be cut at a place: it is at one of the ends, or the byte there does not continue a
character. -/
def isBoundary (bytes : Bytes) (i : Nat) : Bool :=
  i == 0 || match bytes[i]? with
    | some b => !continues b
    | none => i == bytes.length

/-- The last place to cut at that is not after a place, looked for by going back from there. -/
def lastBoundary (bytes : Bytes) : Nat → Nat
  | 0 => 0
  | i + 1 => if isBoundary bytes (i + 1) then i + 1 else lastBoundary bytes i

/-- The text before a place, unless that is no place to cut at. -/
def before? (bytes : Bytes) (i : Nat) : Option String :=
  if isBoundary bytes i then ofBytes? (bytes.take i) else none

/-- The snippet as it is made by looking at single bytes, unless a cut is made where there is no
place to cut at. -/
def cut? (bytes : Bytes) (room : Nat) : Option String :=
  match ofBytes? bytes with
  | none => some noText
  | some s =>
    if room < bytes.length then (before? bytes (lastBoundary bytes room)).map (· ++ "...")
    else some s

theorem continues_lead (c : Char) : continues (.ofNat (lead c.toNat)) = false := by
  have hlt := lead_lt (toNat_lt c)
  have hcases := lead_cases c.toNat
  rw [continues, UInt8.toNat_ofNat', ← Bool.decide_and, decide_eq_false_iff_not]
  omega

theorem continues_of_mem_continuation {k m : Nat} {b : UInt8} (h : b ∈ continuation k m) :
    continues b := by
  induction k with
  | zero => contradiction
  | succ k ih =>
    rcases List.mem_cons.mp h with rfl | h
    · rw [continues, UInt8.toNat_ofNat', ← Bool.decide_and, decide_eq_true_iff]
      omega
    · exact ih h

/-- The first byte of a code is the only one that does not continue a character. -/
theorem continues_getElem_utf8EncodeChar {c : Char} {i : Nat}
    (h : i < (String.utf8EncodeChar c).length) :
    continues (String.utf8EncodeChar c)[i] = decide (i ≠ 0) := by
  cases i with
  | zero =>
    have hhead : (String.utf8EncodeChar c)[0] = .ofNat (lead c.toNat) := by
      simp only [utf8EncodeChar_eq c, List.getElem_cons_zero]
    rw [hhead, continues_lead]
    rfl
  | succ i =>
    have htail : (String.utf8EncodeChar c)[i + 1] ∈ continuation (following c.toNat) c.toNat := by
      simp only [utf8EncodeChar_eq c, List.getElem_cons_succ]
      exact List.getElem_mem _
    rw [continues_of_mem_continuation htail]
    rfl

/-- Inside a character there is no place to cut at. -/
theorem isBoundary_inside {c : Char} {rest : Bytes} {i : Nat} (hpos : 0 < i)
    (h : i < c.utf8Size) : isBoundary (String.utf8EncodeChar c ++ rest) i = false := by
  have hlt : i < (String.utf8EncodeChar c).length := by rwa [String.length_utf8EncodeChar]
  rw [isBoundary, List.getElem?_append_left hlt, List.getElem?_eq_getElem hlt]
  simp [continues_getElem_utf8EncodeChar, Nat.ne_of_gt hpos]

/-- Behind a character the places to cut at are those of the other characters. -/
theorem isBoundary_behind {c : Char} {cs : List Char} {i : Nat} :
    isBoundary (String.utf8EncodeChar c ++ cs.flatMap String.utf8EncodeChar) (c.utf8Size + i) =
      isBoundary (cs.flatMap String.utf8EncodeChar) i := by
  have hne : (c.utf8Size + i == 0) = false := by
    have hpos : 0 < c.utf8Size := c.utf8Size_pos
    exact beq_false_of_ne (by omega)
  have hlength := String.length_utf8EncodeChar c
  have hend : (c.utf8Size + i == c.utf8Size + utf8Length cs) = (i == utf8Length cs) := by
    simp only [beq_eq_decide, Nat.add_left_cancel_iff]
  rw [isBoundary, isBoundary, hne, Bool.false_or,
    List.getElem?_append_right (by omega), hlength, Nat.add_sub_cancel_left, List.length_append,
    hlength, length_flatMap_utf8EncodeChar, hend]
  cases i with
  | succ i => rfl
  | zero =>
    cases cs with
    | nil => rfl
    | cons d ds => simp [utf8EncodeChar_eq, continues_lead]

/-- The places to cut at are those that whole characters are before. -/
theorem isBoundary_iff {cs : List Char} {i : Nat} :
    isBoundary (cs.flatMap String.utf8EncodeChar) i ↔
      ∃ front, front <+: cs ∧ utf8Length front = i := by
  induction cs generalizing i with
  | nil =>
    simp only [List.flatMap_nil, isBoundary, List.getElem?_nil, List.length_nil, Bool.or_self,
      beq_iff_eq, List.prefix_nil, exists_eq_left, utf8Length]
    exact eq_comm
  | cons c cs ih =>
    rw [List.flatMap_cons]
    rcases Nat.eq_zero_or_pos i with rfl | hpos
    · exact iff_of_true rfl ⟨[], List.nil_prefix, rfl⟩
    rcases Nat.lt_or_ge i c.utf8Size with hlt | hge
    · rw [isBoundary_inside hpos hlt]
      refine iff_of_false Bool.false_ne_true ?_
      rintro ⟨front, hprefix, rfl⟩
      cases front with
      | nil => contradiction
      | cons d front =>
        obtain ⟨rfl, -⟩ := List.cons_prefix_cons.mp hprefix
        rw [utf8Length] at hlt
        omega
    · obtain ⟨i, rfl⟩ := Nat.exists_eq_add_of_le hge
      rw [isBoundary_behind, ih]
      constructor
      · rintro ⟨front, hprefix, rfl⟩
        exact ⟨c :: front, List.cons_prefix_cons.mpr ⟨rfl, hprefix⟩, rfl⟩
      · rintro ⟨front, hprefix, hlength⟩
        cases front with
        | nil =>
          rw [utf8Length] at hlength
          omega
        | cons d front =>
          obtain ⟨rfl, hfront⟩ := List.cons_prefix_cons.mp hprefix
          exact ⟨front, hfront, Nat.add_left_cancel hlength⟩

/-- Going back ends at the first place to cut at. -/
theorem lastBoundary_eq_of_forall {bytes : Bytes} {i j : Nat} (hle : j ≤ i)
    (hj : isBoundary bytes j) (h : ∀ k, isBoundary bytes k → k ≤ i → k ≤ j) :
    lastBoundary bytes i = j := by
  induction i with
  | zero => exact (Nat.le_zero.mp hle).symm
  | succ i ih =>
    rw [lastBoundary]
    split
    next hboundary => exact Nat.le_antisymm (h _ hboundary (Nat.le_refl _)) hle
    next hboundary =>
      have hne : j ≠ i + 1 := fun heq ↦ hboundary (heq ▸ hj)
      exact ih (by omega) fun k hk hki ↦ h k hk (Nat.le_succ_of_le hki)

/-- Going back ends behind the characters that fit in. -/
theorem lastBoundary_eq (cs : List Char) (room : Nat) :
    lastBoundary (cs.flatMap String.utf8EncodeChar) room = utf8Length (takeFitting room cs) := by
  refine lastBoundary_eq_of_forall (utf8Length_takeFitting_le room cs)
    (isBoundary_iff.mpr ⟨_, takeFitting_isPrefix room cs, rfl⟩) fun k hk hle ↦ ?_
  obtain ⟨front, hprefix, rfl⟩ := isBoundary_iff.mp hk
  exact utf8Length_le_of_isPrefix (isPrefix_takeFitting hprefix hle)

/-- Whole characters can be cut off, and are the text before the cut. -/
theorem before?_eq_some {front cs : List Char} (h : front <+: cs) :
    before? (cs.flatMap String.utf8EncodeChar) (utf8Length front) = some (String.ofList front) := by
  rw [before?, if_pos (isBoundary_iff.mpr ⟨front, h, rfl⟩), ofBytes?_eq_some_iff,
    toBytes_eq_flatMap, String.toList_ofList]
  obtain ⟨after, rfl⟩ := h
  rw [List.flatMap_append, List.take_left' (length_flatMap_utf8EncodeChar front)]

/-! ## Snippets -/

/-- What is wanted of a snippet. -/
structure IsSnippet (bytes : Bytes) (room : Nat) (snippet : String) : Prop where
  of_no_text : (∀ s, toBytes s ≠ bytes) → snippet = "<non-utf8 body>"
  of_fits : ∀ s, toBytes s = bytes → bytes.length ≤ room → snippet = s
  /-- Of a text that is too long, it is as much as fits in of the front of it. -/
  of_long : ∀ s, toBytes s = bytes → room < bytes.length → ∃ front : String,
    snippet = front ++ "..." ∧ front.toList <+: s.toList ∧
      (toBytes front).length ≤ room ∧ room ≤ (toBytes front).length + 3 ∧
      ∀ other : String, other.toList <+: s.toList → (toBytes other).length ≤ room →
        other.toList <+: front.toList

/-- No cut is made inside a character. -/
theorem cut?_eq_some (bytes : Bytes) (room : Nat) :
    cut? bytes room = some (snippet bytes room) := by
  unfold cut? snippet
  cases hs : ofBytes? bytes with
  | none => rfl
  | some s =>
    have hbytes : toBytes s = bytes := ofBytes?_eq_some_iff.mp hs
    rcases Nat.lt_or_ge room bytes.length with hlt | hge
    · simp only [if_pos hlt, if_neg (Nat.not_le_of_lt hlt)]
      rw [← hbytes, toBytes_eq_flatMap, lastBoundary_eq,
        before?_eq_some (takeFitting_isPrefix room s.toList), Option.map_some, String.ofList_append]
    · simp only [if_neg (Nat.not_lt_of_le hge), if_pos hge]

/-- Snippets are what is wanted of them. -/
theorem isSnippet_snippet (bytes : Bytes) (room : Nat) :
    IsSnippet bytes room (snippet bytes room) := by
  unfold snippet
  constructor
  case of_no_text =>
    intro hno
    have hnone : ofBytes? bytes = none :=
      Option.eq_none_iff_forall_ne_some.mpr fun s hs ↦ hno s (ofBytes?_eq_some_iff.mp hs)
    simp only [hnone, noText]
  case of_fits =>
    intro s hs hle
    simp only [ofBytes?_eq_some_iff.mpr hs, if_pos hle]
  case of_long =>
    intro s hs hlt
    have hlong : room < utf8Length s.toList := by rwa [← length_toBytes_eq, hs]
    have hlength : (toBytes (.ofList (takeFitting room s.toList))).length =
        utf8Length (takeFitting room s.toList) := by
      rw [length_toBytes_eq, String.toList_ofList]
    refine ⟨.ofList (takeFitting room s.toList), ?_, ?_, ?_, ?_, fun other hprefix hfits ↦ ?_⟩
    · simp only [ofBytes?_eq_some_iff.mpr hs, if_neg (Nat.not_le_of_lt hlt), String.ofList_append]
    · rw [String.toList_ofList]
      exact takeFitting_isPrefix ..
    · rw [hlength]
      exact utf8Length_takeFitting_le ..
    · rw [hlength]
      exact Nat.le_of_lt_succ (lt_utf8Length_takeFitting_add hlong)
    · rw [String.toList_ofList]
      rw [length_toBytes_eq] at hfits
      exact isPrefix_takeFitting hprefix hfits

/-- The second byte is the first of two that make up a character, so only one fits in. -/
example : snippet (toBytes "héllo") 2 = "h..." := by decide +kernel

/-- A snippet is no longer than it may be, and three dots, or is the one that stands for no text. -/
theorem IsSnippet.length_le {bytes : Bytes} {room : Nat} {snippet : String}
    (h : IsSnippet bytes room snippet) : (toBytes snippet).length ≤ max (room + 3) 15 := by
  by_cases htext : ∃ s, toBytes s = bytes
  · obtain ⟨s, hs⟩ := htext
    rcases Nat.lt_or_ge room bytes.length with hlt | hge
    · obtain ⟨front, rfl, -, hfits, -⟩ := h.of_long s hs hlt
      have hdots : utf8Length ("..." : String).toList = 3 := by decide
      rw [length_toBytes_eq] at hfits ⊢
      rw [String.toList_append, utf8Length_append, hdots]
      omega
    · rw [h.of_fits s hs hge, hs]
      omega
  · have hlength : utf8Length ("<non-utf8 body>" : String).toList = 15 := by decide
    rw [h.of_no_text fun s hs ↦ htext ⟨s, hs⟩, length_toBytes_eq, hlength]
    exact Nat.le_max_right ..

end RuleWatch.Text
