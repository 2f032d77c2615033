import RuleWatch.PromQL.Expr
import RuleWatch.PromQL.Lexer

/-!
# Reading query expressions

The grammar of query expressions over tokens. Operators are grouped by how tightly they bind; a sign
before an operand binds like a multiplication; ranges, shifts and fixed times belong to what stands
right before them.

The readers take a bound on the number of their calls; `Expr.parse?` gives one that no expression
reaches.
-/

namespace RuleWatch.PromQL

namespace Parser

/-! ## Selectors -/

/-- A matcher at the front: a label, a sign and a string. -/
def matcher? : List Token → Option (Matcher × List Token)
  | .name label :: .sign s :: .string value :: ts =>
    (Matcher.make? label s value).map fun m ↦ (m, ts)
  | _ => none

/-- Matchers after the first, up to the closing brace. A comma may stand before the brace. -/
def moreMatchers? : Nat → List Matcher → List Token → Option (List Matcher × List Token)
  | _, before, .sign .rightBrace :: ts => some (before.reverse, ts)
  | _, before, .sign .comma :: .sign .rightBrace :: ts => some (before.reverse, ts)
  | fuel + 1, before, .sign .comma :: ts | fuel + 1, before, .keyword .or _ :: ts => do
    let (m, ts) ← matcher? ts
    moreMatchers? fuel (m :: before) ts
  | _, _, _ => none

/-- Matchers after the opening brace. -/
def matchers? (ts : List Token) : Option (List Matcher × List Token) :=
  match ts with
  | .sign .rightBrace :: ts => some ([], ts)
  | ts => do
    let (m, ts) ← matcher? ts
    moreMatchers? ts.length [m] ts

/-- A selector after the name of its metric, if it has one. -/
def selector? (name : Option (List Char)) (ts : List Token) : Option (Expr × List Token) :=
  match ts with
  | .sign .leftBrace :: ts => do
    let (matchers, ts) ← matchers? ts
    return (.vector ⟨name, matchers⟩ .plain, ts)
  | ts => if name.isSome then some (.vector ⟨name, []⟩ .plain, ts) else none

/-! ## Lists of labels -/

/-- The label at the front; keywords are labels here. -/
def label? : List Token → Option (List Char × List Token)
  | .name s :: ts => some (s, ts)
  | .keyword _ word :: ts => some (word, ts)
  | _ => none

/-- Labels after the first, up to the closing parenthesis. A comma may stand before it. -/
def moreLabels? : Nat → List (List Char) → List Token → Option (List (List Char) × List Token)
  | _, before, .sign .rightParen :: ts => some (before.reverse, ts)
  | _, before, .sign .comma :: .sign .rightParen :: ts => some (before.reverse, ts)
  | fuel + 1, before, .sign .comma :: ts => do
    let (l, ts) ← label? ts
    moreLabels? fuel (l :: before) ts
  | _, _, _ => none

/-- Labels in parentheses. -/
def labels? : List Token → Option (List (List Char) × List Token)
  | .sign .leftParen :: .sign .rightParen :: ts => some ([], ts)
  | .sign .leftParen :: ts => do
    let (l, ts) ← label? ts
    moreLabels? ts.length [l] ts
  | _ => none

/-- Labels in parentheses, or nothing at all. -/
def optionalLabels? (ts : List Token) : Option (List (List Char) × List Token) :=
  match ts with
  | .sign .leftParen :: _ => labels? ts
  | ts => some ([], ts)

/-! ## Operators -/

/-- The operator of a token. -/
def operator? : Token → Option Operator
  | .sign .add => some .add
  | .sign .sub => some .sub
  | .sign .mul => some .mul
  | .sign .div => some .div
  | .sign .mod => some .mod
  | .sign .pow => some .pow
  | .sign .eq => some .eq
  | .sign .ne => some .ne
  | .sign .lt => some .lt
  | .sign .gt => some .gt
  | .sign .le => some .le
  | .sign .ge => some .ge
  | .keyword .atan2 _ => some .atan2
  | .keyword .and _ => some .and
  | .keyword .or _ => some .or
  | .keyword .unless _ => some .unless
  | _ => none

/-- Which series of the left operand many series of the right one match, or the other way round. -/
def grouping? (bool on : Bool) (labels : List (List Char)) (ts : List Token) :
    Option (Matching × List Token) :=
  match ts with
  | .keyword .groupLeft _ :: ts | .keyword .groupRight _ :: ts => do
    let (group, ts) ← optionalLabels? ts
    return (⟨bool, some (on, labels), some group⟩, ts)
  | ts => some (⟨bool, some (on, labels), none⟩, ts)

/-- What stands between an operator and its right operand. -/
def matching? (ts : List Token) : Option (Matching × List Token) :=
  let (bool, ts) := match ts with
    | .keyword .bool _ :: ts => (true, ts)
    | ts => (false, ts)
  match ts with
  | .keyword .on _ :: ts => do
    let (labels, ts) ← labels? ts
    grouping? bool true labels ts
  | .keyword .ignoring _ :: ts => do
    let (labels, ts) ← labels? ts
    grouping? bool false labels ts
  | ts => some (⟨bool, none, none⟩, ts)

/-! ## Times -/

/-- A time can be fixed at a finite number of seconds that is not the greatest. -/
def isTime (d : Double) : Bool :=
  d.isFinite && d != Double.greatest && d.neg != Double.greatest

/-- The time at which a selector is pinned: what follows it. -/
def time? : List Token → Option (List Token)
  | .number d :: ts => if isTime d then some ts else none
  | .sign .add :: .number d :: ts | .sign .sub :: .number d :: ts =>
    if isTime d then some ts else none
  | .keyword .start _ :: .sign .leftParen :: .sign .rightParen :: ts
  | .keyword .end _ :: .sign .leftParen :: .sign .rightParen :: ts => some ts
  | _ => none

/-- What an expression is followed by: ranges, shifts and fixed times. -/
def suffixes? : Nat → Expr → List Token → Option (Expr × List Token)
  | 0, _, _ => none
  | fuel + 1, e, ts =>
    match ts with
    | .sign .leftBracket :: .duration :: .sign .rightBracket :: ts => do
      suffixes? fuel (← e.overRange?) ts
    | .sign .leftBracket :: .duration :: .sign .colon :: .sign .rightBracket :: ts
    | .sign .leftBracket :: .duration :: .sign .colon :: .duration :: .sign .rightBracket :: ts =>
      suffixes? fuel (.subquery e .plain) ts
    | .sign .leftBracket :: _ => none
    | .keyword .offset _ :: .duration :: ts
    | .keyword .offset _ :: .sign .add :: .duration :: ts
    | .keyword .offset _ :: .sign .sub :: .duration :: ts => do suffixes? fuel (← e.shift?) ts
    | .keyword .offset _ :: _ => none
    | .sign .at :: ts => do
      let ts ← time? ts
      suffixes? fuel (← e.pin?) ts
    | ts => some (e, ts)

/-- How tightly a sign before an operand binds what follows it. -/
def signPrecedence : Nat := Operator.mul.precedence + 1

/-- The labels that an aggregation keeps or drops: what follows them. -/
def grouped? : List Token → Option (List Token)
  | .keyword .by _ :: ts | .keyword .without _ :: ts => (labels? ts).map Prod.snd
  | _ => none

/-! ## Expressions -/

mutual

/-- An expression of operators that bind at least so tightly. -/
def expr? : Nat → Nat → List Token → Option (Expr × List Token)
  | 0, _, _ => none
  | fuel + 1, precedence, ts => do
    let (e, ts) ← operand? fuel ts
    operations? fuel precedence e ts

/-- The operators after a left operand that bind at least so tightly. -/
def operations? : Nat → Nat → Expr → List Token → Option (Expr × List Token)
  | 0, _, _, _ => none
  | _, _, left, [] => some (left, [])
  | fuel + 1, precedence, left, t :: ts =>
    match operator? t with
    | none => some (left, t :: ts)
    | some op =>
      if op.precedence < precedence then some (left, t :: ts)
      else do
        let (m, ts) ← matching? ts
        let (right, ts) ← expr? fuel op.rightPrecedence ts
        operations? fuel precedence (.binary op m left right) ts

/-- An operand with the sign before it, or with what follows it. -/
def operand? : Nat → List Token → Option (Expr × List Token)
  | 0, _ => none
  | fuel + 1, .sign .add :: ts => expr? fuel signPrecedence ts
  | fuel + 1, .sign .sub :: ts =>
    (expr? fuel signPrecedence ts).map fun (e, ts) ↦ (e.negate, ts)
  | fuel + 1, ts => do
    let (e, ts) ← primary? fuel ts
    suffixes? (ts.length + 1) e ts

/-- A number, a string, a selector, a call, an aggregation, or an expression in parentheses. -/
def primary? : Nat → List Token → Option (Expr × List Token)
  | 0, _ => none
  | fuel + 1, ts =>
    match ts with
    | .number d :: ts => some (.number d, ts)
    | .string s :: ts => some (.string s, ts)
    | .sign .leftParen :: ts => do
      match ← expr? fuel 0 ts with
      | (e, .sign .rightParen :: ts) => return (.paren e, ts)
      | _ => none
    | .sign .leftBrace :: _ => selector? none ts
    | .name s :: .sign .leftParen :: ts => do
      let f ← Function.ofName? s
      let (args, ts) ← arguments? fuel ts
      return (.call f args, ts)
    | .name s :: ts | .metric s :: ts => selector? (some s) ts
    | .keyword (.aggregator a) word :: ts => aggregation? fuel a word ts
    | .keyword k word :: ts => if k.namesMetric then selector? (some word) ts else none
    | _ => none

/-- What follows the word of an aggregation; where it is none, the word names a metric. The labels
come before the arguments or after them. -/
def aggregation? : Nat → Aggregator → List Char → List Token → Option (Expr × List Token)
  | 0, _, _, _ => none
  | fuel + 1, a, word, ts =>
    match ts with
    | .sign .leftParen :: ts => do
      let (args, ts) ← arguments? fuel ts
      match grouped? ts with
      | some ts => return (.aggregate a args, ts)
      | none => return (.aggregate a args, ts)
    | .keyword .by _ :: _ | .keyword .without _ :: _ => do
      match ← grouped? ts with
      | .sign .leftParen :: ts => do
        let (args, ts) ← arguments? fuel ts
        return (.aggregate a args, ts)
      | _ => none
    | ts => selector? (some word) ts

/-- The arguments of a call after the opening parenthesis. -/
def arguments? : Nat → List Token → Option (List Expr × List Token)
  | 0, _ => none
  | fuel + 1, ts =>
    match ts with
    | .sign .rightParen :: ts => some ([], ts)
    | ts => moreArguments? fuel ts

/-- One argument and those after it, up to the closing parenthesis. -/
def moreArguments? : Nat → List Token → Option (List Expr × List Token)
  | 0, _ => none
  | fuel + 1, ts => do
    match ← expr? fuel 0 ts with
    | (e, .sign .rightParen :: ts) => return ([e], ts)
    | (e, .sign .comma :: ts) =>
      let (es, ts) ← moreArguments? fuel ts
      return (e :: es, ts)
    | _ => none

end

end Parser

/-- The expression of tokens, if they are one from the first to the last. -/
def Expr.parse? (ts : List Token) : Option Expr := do
  match ← Parser.expr? (8 * ts.length + 8) 0 ts with
  | (e, []) => return e
  | _ => none

end RuleWatch.PromQL
