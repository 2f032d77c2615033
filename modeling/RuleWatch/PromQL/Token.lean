import RuleWatch.Double.Basic

/-!
# Tokens

The pieces that the text of a query expression falls into.
-/

namespace RuleWatch.PromQL

/-- Signs. -/
inductive Sign
  | leftParen | rightParen | leftBrace | rightBrace | leftBracket | rightBracket
  | comma | colon | at
  | add | sub | mul | div | mod | pow
  | eq | ne | lt | gt | le | ge
  /-- One equals sign, between a label and its value. -/
  | is
  | matchesRegex | missesRegex
  deriving DecidableEq, Repr

/-- Ways to make one series out of many. -/
inductive Aggregator
  | avg | bottomk | count | countValues | group | max | min | quantile | stddev | stdvar | sum
  | topk
  deriving DecidableEq, Repr

/-- Words with a meaning of their own. -/
inductive Keyword
  | and | or | unless | atan2
  | offset | by | without | on | ignoring | groupLeft | groupRight | bool | start | end
  | aggregator (a : Aggregator)
  deriving DecidableEq, Repr

/-- A piece of a query expression. -/
inductive Token
  | sign (s : Sign)
  /-- A word with a meaning, and how it is spelt. -/
  | keyword (k : Keyword) (word : List Char)
  /-- A name without a colon. -/
  | name (s : List Char)
  /-- A name with a colon, which only a metric can have. -/
  | metric (s : List Char)
  | number (d : Double)
  /-- A length of time, which is not zero. -/
  | duration
  /-- What stands between quotes, escapes and all. -/
  | string (s : List Char)
  deriving DecidableEq, Repr

/-- The keyword of a word, in small or capital letters. -/
def Keyword.ofWord? (word : List Char) : Option Keyword :=
  match String.ofList (word.map Char.toLower) with
  | "and" => some .and
  | "or" => some .or
  | "unless" => some .unless
  | "atan2" => some .atan2
  | "offset" => some .offset
  | "by" => some .by
  | "without" => some .without
  | "on" => some .on
  | "ignoring" => some .ignoring
  | "group_left" => some .groupLeft
  | "group_right" => some .groupRight
  | "bool" => some .bool
  | "start" => some .start
  | "end" => some .end
  | "avg" => some (.aggregator .avg)
  | "bottomk" => some (.aggregator .bottomk)
  | "count" => some (.aggregator .count)
  | "count_values" => some (.aggregator .countValues)
  | "group" => some (.aggregator .group)
  | "max" => some (.aggregator .max)
  | "min" => some (.aggregator .min)
  | "quantile" => some (.aggregator .quantile)
  | "stddev" => some (.aggregator .stddev)
  | "stdvar" => some (.aggregator .stdvar)
  | "sum" => some (.aggregator .sum)
  | "topk" => some (.aggregator .topk)
  | _ => none

/-- A metric may go by a keyword, unless it says how two sides are matched. -/
def Keyword.namesMetric : Keyword → Bool
  | .atan2 | .on | .ignoring | .groupLeft | .groupRight | .bool => false
  | _ => true

end RuleWatch.PromQL
