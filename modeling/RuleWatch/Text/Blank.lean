/-!
# Blank characters

The characters with the Unicode property `White_Space`, and the removal of blanks at both ends of
a text. Names, ids, thresholds, filters and sort fields are read after this removal.
-/

namespace RuleWatch.Text

/-- The characters of the Unicode property `White_Space`. -/
def isBlank (c : Char) : Bool :=
  let n := c.toNat
  (9 ≤ n && n ≤ 13) || n == 0x20 || n == 0x85 || n == 0xA0 || n == 0x1680
    || (0x2000 ≤ n && n ≤ 0x200A) || n == 0x2028 || n == 0x2029 || n == 0x202F
    || n == 0x205F || n == 0x3000

/-- The characters without the blanks at either end. -/
def trimList (cs : List Char) : List Char :=
  ((cs.dropWhile isBlank).reverse.dropWhile isBlank).reverse

/-- The text without the blanks at either end. -/
def trim (s : String) : String :=
  String.ofList (trimList s.toList)

/-- A text that holds blanks only, or nothing. -/
def isBlankText (s : String) : Bool :=
  s.toList.all isBlank

/-- Every blank of the ASCII class is a blank here. -/
theorem isBlank_of_isWhitespace {c : Char} (h : c.isWhitespace) : isBlank c := by
  simp only [Char.isWhitespace, Bool.or_eq_true, decide_eq_true_eq] at h
  rcases h with ((rfl | rfl) | rfl) | rfl <;> decide

variable {cs : List Char} {s : String}

/-- Nothing comes in at the ends. -/
theorem mem_of_mem_trimList {c : Char} (h : c ∈ trimList cs) : c ∈ cs := by
  have hmem := (List.dropWhile_sublist isBlank).mem (List.mem_reverse.mp h)
  exact (List.dropWhile_sublist isBlank).mem (List.mem_reverse.mp hmem)

theorem dropWhile_isBlank_eq_self (h : ∀ c ∈ cs, isBlank c = false) :
    cs.dropWhile isBlank = cs := by
  cases cs with
  | nil => rfl
  | cons c cs => rw [List.dropWhile_cons, h c (.head _), if_neg Bool.false_ne_true]

/-- Where there are no blanks, none are removed. -/
theorem trim_eq_self (h : ∀ c ∈ s.toList, isBlank c = false) : trim s = s := by
  rw [trim, trimList, dropWhile_isBlank_eq_self h,
    dropWhile_isBlank_eq_self fun c hc ↦ h c (List.mem_reverse.mp hc), List.reverse_reverse,
    String.ofList_toList]

/-- Where there are blanks only, nothing is left. -/
theorem trim_of_isBlankText (h : isBlankText s) : trim s = "" := by
  have hnil : s.toList.dropWhile isBlank = [] := by
    rw [← List.append_nil s.toList, List.dropWhile_append_of_pos (List.all_eq_true.mp h),
      List.dropWhile_nil]
  rw [trim, trimList, hnil]
  rfl

end RuleWatch.Text
