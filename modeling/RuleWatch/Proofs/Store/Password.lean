import RuleWatch.Store.Address

/-!
# Passwords in addresses

An address that is written down shows its scheme, the user, and what follows the last at sign; three
stars stand for all that is between the user and that sign. So whatever a password is made of, at
signs, colons and marks of a scheme among it, no part of it is shown (`redact_eq`).
-/

namespace RuleWatch

namespace Text

variable {mark : Char}

/-- A mark that begins with a character that has not come yet stands at the first place. -/
theorem splitFirst?_append {before : List Char} (h : mark ∉ before) (marks after : List Char) :
    splitFirst? (mark :: marks) (before ++ mark :: marks ++ after) = some (before, after) := by
  induction before with
  | nil => simp [splitFirst?]
  | cons c before ih =>
    obtain ⟨hc, hbefore⟩ := not_or.mp (mt List.mem_cons.mpr h)
    have hother : (mark :: marks).isPrefixOf (c :: (before ++ mark :: marks ++ after)) = false := by
      rw [List.isPrefixOf, beq_false_of_ne hc, Bool.false_and]
    rw [List.cons_append, List.cons_append, splitFirst?, hother, ih hbefore]
    rfl

/-- What follows the last place where the character stands, and everything if it stands nowhere. -/
def afterLast (mark : Char) (cs : List Char) : List Char :=
  match splitLast? mark cs with
  | some (_, after) => after
  | none => cs

theorem splitLast?_eq_none {cs : List Char} (h : mark ∉ cs) : splitLast? mark cs = none := by
  induction cs with
  | nil => rfl
  | cons c cs ih =>
    obtain ⟨hc, hcs⟩ := not_or.mp (mt List.mem_cons.mpr h)
    rw [splitLast?, ih hcs]
    exact if_neg (Ne.symm hc)

theorem afterLast_eq_self {cs : List Char} (h : mark ∉ cs) : afterLast mark cs = cs := by
  rw [afterLast, splitLast?_eq_none h]

/-- What comes before a place where the character stands is no part of what follows the last one. -/
theorem exists_splitLast?_append (mark : Char) (before after : List Char) :
    ∃ between, splitLast? mark (before ++ mark :: after) =
      some (before ++ between, afterLast mark after) := by
  induction before with
  | nil =>
    rw [List.nil_append, splitLast?, afterLast]
    cases splitLast? mark after with
    | some parts => exact ⟨mark :: parts.1, rfl⟩
    | none => exact ⟨[], if_pos rfl⟩
  | cons c before ih =>
    obtain ⟨between, hsplit⟩ := ih
    exact ⟨between, by rw [List.cons_append, splitLast?, hsplit]; rfl⟩

end Text

namespace Store.Address

open Text

/-- The address of a store for which a user has to give a password. -/
def withPassword (scheme user password rest : String) : String :=
  scheme ++ "://" ++ user ++ ":" ++ password ++ "@" ++ rest

variable {scheme user : String}

/-- Of an address with a password is shown what stands before the password, and what follows the
last at sign. -/
theorem redact_eq (hscheme : ':' ∉ scheme.toList) (huser : ':' ∉ user.toList)
    (password rest : String) :
    redact (withPassword scheme user password rest) =
      scheme ++ "://" ++ user ++ ":***@" ++ String.ofList (afterLast '@' rest.toList) := by
  -- The scheme ends at the first mark, the login at the last at sign, the user at the first colon.
  have hscheme := splitFirst?_append hscheme "//".toList
    (user.toList ++ ':' :: password.toList ++ '@' :: rest.toList)
  obtain ⟨between, hlogin⟩ := exists_splitLast?_append '@'
    (user.toList ++ ':' :: password.toList) rest.toList
  have huser : splitFirst? [':'] (user.toList ++ ':' :: password.toList ++ between) =
      some (user.toList, password.toList ++ between) := by
    simpa using splitFirst?_append huser [] (password.toList ++ between)
  have haddress : (withPassword scheme user password rest).toList = scheme.toList ++ "://".toList
      ++ (user.toList ++ ':' :: password.toList ++ '@' :: rest.toList) := by
    simp [withPassword]
  have hshown : redacted? (withPassword scheme user password rest).toList =
      some (scheme.toList ++ "://".toList ++ user.toList ++ ":***@".toList
        ++ afterLast '@' rest.toList) := by
    rw [redacted?, haddress]
    refine Option.bind_eq_some_iff.mpr ⟨_, hscheme, Option.bind_eq_some_iff.mpr ⟨_, hlogin, ?_⟩⟩
    exact Option.bind_eq_some_iff.mpr ⟨_, huser, rfl⟩
  rw [redact, hshown]
  simp only [String.ofList_append, String.ofList_toList]

/-- What is shown of an address tells nothing of its password. -/
theorem redact_hides_password (hscheme : ':' ∉ scheme.toList) (huser : ':' ∉ user.toList)
    (rest : String) :
    (∀ password password', redact (withPassword scheme user password rest) =
      redact (withPassword scheme user password' rest)) ∧
    ('@' ∉ rest.toList → ∀ password, redact (withPassword scheme user password rest) =
      scheme ++ "://" ++ user ++ ":***@" ++ rest) := by
  refine ⟨fun password password' ↦ ?_, fun hrest password ↦ ?_⟩
  · rw [redact_eq hscheme huser, redact_eq hscheme huser]
  · rw [redact_eq hscheme huser, afterLast_eq_self hrest, String.ofList_toList]

/-- The password holds marks of every kind, and the user an at sign. -/
theorem redact_hides_password_of_marks :
    redact "sqlite://me@home:a@:/b://c@d@store/rules.db" = "sqlite://me@home:***@store/rules.db" ∧
    redact "sqlite://me@home:@store/rules.db" = "sqlite://me@home:***@store/rules.db" := by
  have hscheme : ':' ∉ "sqlite".toList := by decide
  have huser : ':' ∉ "me@home".toList := by decide
  have hhides := redact_hides_password hscheme huser "store/rules.db"
  have hrest : '@' ∉ "store/rules.db".toList := by decide
  exact ⟨hhides.2 hrest "a@:/b://c@d", hhides.2 hrest ""⟩

end Store.Address

end RuleWatch
