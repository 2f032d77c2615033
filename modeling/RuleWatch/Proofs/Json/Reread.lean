import Mathlib.Tactic.IntervalCases
import RuleWatch.Json.Decoder
import RuleWatch.Proofs.Json.Doubles
import RuleWatch.Proofs.Json.Quoted
import RuleWatch.Proofs.Json.Spelled

/-!
# Values read again from their texts

The text of a value is read as the value, but for its doubles: a double is written with the fewest
digits that a careful reader tells apart, and the reader of numerals is not that careful. What comes
of a double is its own affair (`Double.reread`), and everything else comes back as it was
(`scan_toText`).
-/

namespace RuleWatch

/-- What is read of the text of a double. -/
def Double.reread (d : Double) : Double :=
  match Json.Decoder.double.ofBytes (Text.toBytes (Json.ofDouble d).toText) with
  | .ok x => x
  | .error _ => d

namespace Json

open String (utf8EncodeChar)

/-! ## Scanning texts -/

namespace Scan

variable {s : Scan} {stack : List Open} {o : Outline} {cs : List Char}

/-- A scan of the characters. -/
def run (s : Scan) (cs : List Char) : Scan :=
  (cs.flatMap utf8EncodeChar).foldl next s

theorem run_append (s : Scan) (cs cs' : List Char) : s.run (cs ++ cs') = (s.run cs).run cs' := by
  rw [run, run, run, List.flatMap_append, List.foldl_append]

theorem run_cons_of_lt {c : Char} (hc : c.toNat < 128) (s : Scan) (cs : List Char) :
    s.run (c :: cs) = (s.next (.ofNat c.toNat)).run cs := by
  rw [run, List.flatMap_cons, Text.utf8EncodeChar_of_lt hc]
  rfl

/-! ### Numerals -/

/-- No numeral goes on with a character that is no part of any. -/
theorem next?_eq_none {c : Char} (hdigit : c.isDigit = false)
    (hmark : c ∉ ['.', 'e', 'E', '+', '-']) (n : OpenNumeral) : n.next? c = none := by
  have hzero : c ≠ '0' := by
    rintro rfl
    contradiction
  simp only [List.mem_cons, List.not_mem_nil, or_false, not_or] at hmark
  unfold OpenNumeral.next?
  cases n.part <;> simp [hdigit, hzero, hmark]

theorem toNat_lt_of_next? {n n' : OpenNumeral} {c : Char} (h : n.next? c = some n') :
    c.toNat < 128 := by
  by_contra hlarge
  have hdigit : c.isDigit = false := Bool.eq_false_iff.mpr fun hc ↦ by
    have hrange := Text.toNat_of_isDigit hc
    omega
  have hmark : c ∉ ['.', 'e', 'E', '+', '-'] := by
    simp only [List.mem_cons, List.not_mem_nil, or_false]
    rintro (rfl | rfl | rfl | rfl | rfl) <;> exact hlarge (by decide)
  rw [next?_eq_none hdigit hmark] at h
  contradiction

theorem run_numeral {n n' : OpenNumeral} (h : cs.foldlM OpenNumeral.next? n = some n') :
    (inNumeral n stack).run cs = .inNumeral n' stack := by
  induction cs generalizing n with
  | nil =>
    obtain rfl := Option.some.inj h
    rfl
  | cons c cs ih =>
    rw [List.foldlM_cons, Option.bind_eq_bind, Option.bind_eq_some_iff] at h
    obtain ⟨m, hm, hrest⟩ := h
    have hc := toNat_lt_of_next? hm
    have hnext : (inNumeral n stack).next (.ofNat c.toNat) = .inNumeral m stack := by
      simp only [next, Text.ofNat_toNat_of_lt hc, hm]
    rw [run_cons_of_lt hc, hnext, ih hrest]

/-- A numeral begins where a value can. -/
theorem next_atValue_numeral {n : OpenNumeral} {c : Char} (h : OpenNumeral.start? c = some n)
    (mayClose : Bool) (stack : List Open) :
    (atValue mayClose stack).next (.ofNat c.toNat) = .inNumeral n stack ∧ c.toNat < 128 := by
  have hc : c.toNat = 45 ∨ 48 ≤ c.toNat ∧ c.toNat ≤ 57 := by
    by_cases hminus : c = '-'
    · exact .inl (hminus ▸ rfl)
    · by_cases hdigit : c.isDigit
      · exact .inr (Text.toNat_of_isDigit hdigit)
      · have hzero : c ≠ '0' := fun heq ↦ hdigit (heq ▸ rfl)
        simp [OpenNumeral.start?, hminus, hdigit, hzero] at h
  refine ⟨?_, by omega⟩
  rw [← Char.ofNat_toNat c] at h ⊢
  generalize c.toNat = k at hc h
  rcases hc with rfl | ⟨hlow, hhigh⟩
  · cases h
    cases mayClose <;> rfl
  · interval_cases k
    all_goals
      cases h
      cases mayClose <;> rfl

/-- A numeral is read from its spelling. -/
theorem exists_run_of_isSpelled {value : Number} (h : IsSpelled value cs) (mayClose : Bool)
    (stack : List Open) :
    ∃ n : OpenNumeral, (atValue mayClose stack).run cs = .inNumeral n stack ∧ n.mayEnd ∧
      n.outline = .number (some value) := by
  obtain ⟨numeral, rfl, hwell, hvalue⟩ := h
  obtain ⟨n, hread, hend, hnumeral⟩ := OpenNumeral.exists_ofText? hwell
  generalize numeral.text = cs at hread
  cases cs with
  | nil => contradiction
  | cons c cs =>
    rw [OpenNumeral.ofText?, Option.bind_eq_bind, Option.bind_eq_some_iff] at hread
    obtain ⟨first, hfirst, hrest⟩ := hread
    obtain ⟨hnext, hc⟩ := next_atValue_numeral hfirst mayClose stack
    refine ⟨n, ?_, hend, ?_⟩
    · rw [run_cons_of_lt hc, hnext, run_numeral hrest]
    · rw [OpenNumeral.outline, hnumeral, hvalue]

/-! ### Strings -/

/-- Wherever a string may stand, it is read from its text. -/
theorem run_renderString (wrap : OpenString → Scan) (done : Option String → Scan)
    (hopen : s.next 0x22 = wrap .empty)
    (hmore : ∀ t t' b, t.next b = .more t' → (wrap t).next b = wrap t')
    (hclosed : ∀ t text, t.next 0x22 = .closed text → (wrap t).next 0x22 = done text)
    (str : String) : s.run (renderString str) = done (some str) := by
  have hfold (t t' : OpenString) (bs : Bytes) (h : t.more? bs = some t') :
      bs.foldl next (wrap t) = wrap t' := by
    induction bs generalizing t with
    | nil => exact congrArg wrap (Option.some.inj h)
    | cons b bs ih =>
      rw [OpenString.more?] at h
      split at h
      next hnext => exact (congrArg (bs.foldl next) (hmore _ _ b hnext)).trans (ih _ h)
      next => contradiction
  obtain ⟨t, hread, hend⟩ := OpenString.exists_more? str
  have hinside : (wrap .empty).run (str.toList.flatMap renderChar) = wrap t := hfold _ _ _ hread
  rw [renderString, List.cons_append, run_cons_of_lt (by decide), run_append]
  change run (run (s.next 0x22) _) ['"'] = _
  rw [hopen, hinside]
  exact hclosed t (some str) hend

theorem run_string (str : String) (mayClose : Bool) (stack : List Open) :
    (atValue mayClose stack).run (renderString str) = feed (.string (some str)) stack := by
  refine run_renderString (fun t ↦ .inString t stack) (fun text ↦ feed (.string text) stack)
    ?_ ?_ ?_ str
  · cases mayClose <;> rfl
  · intro t t' b h
    rw [next, h]
  · intro t text h
    rw [next, h]

theorem run_key (key : String) (mayClose : Bool) (entries : List Entry) (stack : List Open) :
    (atKey mayClose entries stack).run (renderString key) = .atColon entries (some key) stack := by
  refine run_renderString (fun t ↦ .inKey t entries stack)
    (fun text ↦ .atColon entries text stack) ?_ ?_ ?_ key
  · cases mayClose <;> rfl
  · intro t t' b h
    rw [next, h]
  · intro t text h
    rw [next, h]

/-! ### Ends of values -/

/-- The value has been read; or it is a numeral, which may go on, but need not. -/
inductive Ends (o : Outline) (stack : List Open) : Scan → Prop
  | fed : Ends o stack (feed o stack)
  | numeral {n : OpenNumeral} (hend : n.mayEnd) (hvalue : n.outline = o) :
    Ends o stack (.inNumeral n stack)

/-- A comma or a closing bracket ends a value in any case. -/
theorem Ends.next_eq {x : Open} {rest : List Open} (h : Ends o stack s)
    (hfed : feed o stack = .afterValue (x :: rest)) {b : UInt8}
    (hb : b ∈ [(0x2C : UInt8), 0x5D, 0x7D]) : s.next b = goOn b (x :: rest) := by
  simp only [List.mem_cons, List.not_mem_nil, or_false] at hb
  have hbetween : between b (.afterValue (x :: rest)) = goOn b (x :: rest) := by
    rcases hb with rfl | rfl | rfl <;> rfl
  cases h with
  | fed =>
    rw [hfed]
    exact hbetween
  | @numeral n hend hvalue =>
    obtain ⟨hdigit, hmark⟩ : (Char.ofNat b.toNat).isDigit = false ∧
        Char.ofNat b.toNat ∉ ['.', 'e', 'E', '+', '-'] := by
      rcases hb with rfl | rfl | rfl <;> decide
    simp only [next, next?_eq_none hdigit hmark n, hend, OpenNumeral.isMalformedBy, hdigit,
      Bool.and_false, Bool.not_false, Bool.and_self, if_true]
    rw [hvalue, hfed]
    exact hbetween

theorem Ends.finish_eq (h : Ends o [] s) : s.finish = (o, true) := by
  cases h with
  | fed => rfl
  | numeral hend hvalue => simp [finish, hend, hvalue, feed]

end Scan

/-! ## Values -/

/-- What the text of a double spells is read of it. -/
theorem reread_eq_of_isSpelled {d x : Double} (h : IsSpelled (.double x) (renderDouble d)) :
    d.reread = x := by
  obtain ⟨n, hrun, hend, hvalue⟩ := Scan.exists_run_of_isSpelled h false []
  have hscan : scan (Text.toBytes (ofDouble d).toText) = (.number (some (.double x)), true) := by
    have hends : Scan.Ends (.number (some (.double x))) [] (Scan.start.run (renderDouble d)) :=
      hrun ▸ .numeral hend hvalue
    rw [scan, Text.toBytes_eq_flatMap, toText, String.toList_ofList]
    exact hends.finish_eq
  simp [Double.reread, Decoder.ofBytes, hscan, Decoder.double, Number.toDouble]

/-- The double that is read of the text of a finite one is in range. -/
theorem isSpelled_reread {d : Double} (hd : d.isFinite) :
    IsSpelled (.double d.reread) (renderDouble d) := by
  obtain ⟨x, hx⟩ := exists_isSpelled_double hd
  rwa [reread_eq_of_isSpelled hx]

/-- What is read of the text of the value, wherever it stands. -/
def ReadsBack (v : Json) : Prop :=
  ∀ mayClose stack, Scan.Ends (.ofJson (v.mapDoubles Double.reread)) stack
    ((Scan.atValue mayClose stack).run (render v))

theorem readsBack_number {n : Number} (h : n.FitsWord) : ReadsBack (.number n) := by
  intro mayClose stack
  cases n with
  | int k =>
    obtain ⟨n, hrun, hend, hvalue⟩ :=
      Scan.exists_run_of_isSpelled (isSpelled_int h.1 h.2) mayClose stack
    exact hrun ▸ .numeral hend hvalue
  | double d =>
    obtain ⟨n, hrun, hend, hvalue⟩ :=
      Scan.exists_run_of_isSpelled (isSpelled_reread h) mayClose stack
    exact hrun ▸ .numeral hend hvalue

/-- The items after the first, which has been read. -/
theorem ends_renderItems {items : List Json} (h : ∀ v ∈ items, ReadsBack v) {o : Outline}
    {read : List Outline} {stack : List Open} {s : Scan}
    (hs : Scan.Ends o (.array read :: stack) s) :
    Scan.Ends (.array (read.reverse ++ o :: Outline.ofItems (mapItems Double.reread items)) true)
      stack (s.run (renderItems items)) := by
  induction items generalizing o read s with
  | nil =>
    have hnext : s.next 0x5D = Scan.feed (.array (o :: read).reverse true) stack :=
      hs.next_eq rfl (by decide)
    rw [renderItems, Scan.run_cons_of_lt (by decide)]
    change Scan.Ends _ stack (s.next 0x5D)
    rw [hnext, List.reverse_cons]
    exact .fed
  | cons v items ih =>
    obtain ⟨hv, hitems⟩ := List.forall_mem_cons.mp h
    have hnext : s.next 0x2C = .atValue false (.array (o :: read) :: stack) :=
      hs.next_eq rfl (by decide)
    rw [renderItems, List.cons_append, Scan.run_cons_of_lt (by decide), Scan.run_append]
    change Scan.Ends _ stack (Scan.run (Scan.run (s.next 0x2C) _) _)
    rw [hnext]
    have hrest := ih hitems (hv false (.array (o :: read) :: stack))
    rwa [List.reverse_cons, List.append_assoc] at hrest

theorem ends_member {v : Json} (hv : ReadsBack v) (key : String) (mayClose : Bool)
    (entries : List Entry) (stack : List Open) :
    Scan.Ends (.ofJson (v.mapDoubles Double.reread)) (.object entries (some key) :: stack)
      ((Scan.atKey mayClose entries stack).run (renderString key ++ ':' :: render v)) := by
  rw [Scan.run_append, Scan.run_key, Scan.run_cons_of_lt (by decide)]
  exact hv false (.object entries (some key) :: stack)

/-- The members after the first, which has been read. -/
theorem ends_renderMembers {members : List (String × Json)} (h : ∀ m ∈ members, ReadsBack m.2)
    {key : String} {o : Outline} {read : List Entry} {stack : List Open} {s : Scan}
    (hs : Scan.Ends o (.object read (some key) :: stack) s) :
    Scan.Ends (.object (read.reverse ++
        (some key, o) :: Outline.ofMembers (mapMembers Double.reread members)) true)
      stack (s.run (renderMembers members)) := by
  induction members generalizing key o read s with
  | nil =>
    have hnext : s.next 0x7D = Scan.feed (.object ((some key, o) :: read).reverse true) stack :=
      hs.next_eq rfl (by decide)
    rw [renderMembers, Scan.run_cons_of_lt (by decide)]
    change Scan.Ends _ stack (s.next 0x7D)
    rw [hnext, List.reverse_cons]
    exact .fed
  | cons m members ih =>
    obtain ⟨key', v⟩ := m
    obtain ⟨hv, hmembers⟩ := List.forall_mem_cons.mp h
    have hnext : s.next 0x2C = .atKey false ((some key, o) :: read) stack :=
      hs.next_eq rfl (by decide)
    have hsplit : renderMembers ((key', v) :: members) =
        ',' :: ((renderString key' ++ ':' :: render v) ++ renderMembers members) := by
      simp [renderMembers]
    rw [hsplit, Scan.run_cons_of_lt (by decide), Scan.run_append]
    change Scan.Ends _ stack (Scan.run (Scan.run (s.next 0x2C) _) _)
    rw [hnext]
    have hrest := ih hmembers (ends_member hv key' false ((some key, o) :: read) stack)
    rwa [List.reverse_cons, List.append_assoc] at hrest

/-- A value whose numbers fit is read from its text, but for its doubles. -/
theorem FitsWords.readsBack {v : Json} (h : v.FitsWords) : ReadsBack v := by
  induction h with
  | null =>
    intro mayClose stack
    cases mayClose <;> exact .fed
  | bool b =>
    intro mayClose stack
    cases b <;> cases mayClose <;> exact .fed
  | number h => exact readsBack_number h
  | string s =>
    intro mayClose stack
    rw [render, Scan.run_string]
    exact .fed
  | @array items _ ih =>
    intro mayClose stack
    cases items with
    | nil => cases mayClose <;> exact .fed
    | cons v items =>
      obtain ⟨hv, hitems⟩ := List.forall_mem_cons.mp ih
      have hopen :
          (Scan.atValue mayClose stack).next 0x5B = .atValue true (.array [] :: stack) := by
        cases mayClose <;> rfl
      rw [render, List.cons_append, Scan.run_cons_of_lt (by decide), Scan.run_append]
      change Scan.Ends _ stack (Scan.run (Scan.run (Scan.next _ 0x5B) _) _)
      rw [hopen]
      exact ends_renderItems hitems (hv true (.array [] :: stack))
  | @object members _ ih =>
    intro mayClose stack
    cases members with
    | nil => cases mayClose <;> exact .fed
    | cons m members =>
      obtain ⟨key, v⟩ := m
      obtain ⟨hv, hmembers⟩ := List.forall_mem_cons.mp ih
      have hopen : (Scan.atValue mayClose stack).next 0x7B = .atKey true [] stack := by
        cases mayClose <;> rfl
      have hsplit : render (.object ((key, v) :: members)) =
          '\x7b' :: ((renderString key ++ ':' :: render v) ++ renderMembers members) := by
        simp [render]
      rw [hsplit, Scan.run_cons_of_lt (by decide), Scan.run_append]
      change Scan.Ends _ stack (Scan.run (Scan.run (Scan.next _ 0x7B) _) _)
      rw [hopen]
      exact ends_renderMembers hmembers (ends_member hv key true [] stack)

/-- What is read of the text of a value. -/
theorem scan_toText {v : Json} (h : v.FitsWords) :
    scan (Text.toBytes v.toText) = (.ofJson (v.mapDoubles Double.reread), true) := by
  rw [scan, Text.toBytes_eq_flatMap, toText, String.toList_ofList]
  exact (h.readsBack false []).finish_eq

theorem Decoder.ofBytes_toText {α : Type} {v : Json} (h : v.FitsWords) (d : Decoder α) :
    ofBytes d (Text.toBytes v.toText) = d.ofJson (v.mapDoubles Double.reread) := by
  rw [ofBytes, scan_toText h]
  exact bind_pure _

/-- A finite double is read again of its text. -/
theorem Decoder.ofBytes_ofDouble {d : Double} (hd : d.isFinite) :
    double.ofBytes (Text.toBytes (ofDouble d).toText) = .ok d.reread := by
  have hfits : (ofDouble d).FitsWords := .number hd
  rw [ofBytes_toText hfits]
  rfl

end Json

end RuleWatch
