import CycleSim.Decimal.Basic
import CycleSim.Log.Event
import CycleSim.Pattern.WellFormed
import CycleSim.Text.Bytes
import CycleSim.Text.Blank

/-!
# Log filters

A filter is a list of rules.  A rule names the events it is about by the beginning of their
category, and says down to which severity it keeps them.  Of the rules about an event the most
specific one decides, and of equally specific ones the last; an event that no rule is about is
dropped.

As text, rules stand between commas:

    warn,rtl_harness::sim=debug

A rule is a severity for all categories, a category for all severities, or a category, an equals
sign and a severity.  Brackets after the category restrict a rule to a named span of a run, or to
events that carry a field, maybe with a given number or a text of a given pattern as its value.
-/

namespace CycleSim

/-- A rule of a filter. -/
structure LogRule where
  /-- Beginning of the categories that the rule is about; without it the rule is about all. -/
  category : Option String := none
  /-- Name of a field that events have to carry, if any. -/
  field : Option String := none
  /-- Whether the rule is restricted to a span or to the value of a field.  A run opens no spans,
  and the value of its only field is not looked at, so such a rule is about no event. -/
  inert : Bool := false
  /-- How many of the severities are kept, from the gravest on. -/
  kept : Nat
  deriving DecidableEq, Repr

namespace LogRule

/-- Whether the rule is about an event.  Events carry their message and no other field. -/
def applies (rule : LogRule) (event : LogEvent) : Bool :=
  !rule.inert
    && rule.category.all (fun start => start.toList.isPrefixOf event.category.toList)
    && rule.field.all (· == "message")

/-- Measure of how specific a rule is: the length of its category counts before its field. -/
def specificity (rule : LogRule) : Nat :=
  2 * (rule.category.map (·.utf8ByteSize + 1)).getD 0 + rule.field.toList.length

/-- Reads how many severities are kept: their number, the name of the least grave one in any case,
or `off`. -/
def readKept (word : List Char) : Option Nat :=
  let word := String.ofList word
  match Decimal.readNat UInt64.size word with
  | some n => if n ≤ Severity.all.length then some n else none
  | none =>
    if word.toUpper = "OFF" then some 0
    else (Severity.all.find? (·.label == word.toUpper)).map (·.rank)

/-- Reads what is kept behind an equals sign, where nothing stands for everything. -/
def readKeptOrAll (word : List Char) : Option Nat :=
  if word.isEmpty then some Severity.all.length else readKept word

/-- A character that a rule may start with, apart from a bracket. -/
def isStartChar (c : Char) : Bool :=
  c == '-' || c == ':' || c == '_' || Text.isAlphanumeric c

/-- The part of a rule's text that begins where `rest` begins in the text without the blanks around
it.  Places are told by the bytes in front of them in either text, so blanks in front shift the
part. -/
def partFrom (text rest : List Char) : List Char :=
  Text.dropBytes (Text.utf8Length (Text.trim text) - Text.utf8Length rest) text

/-- Ends a rule: with nothing, or with an equals sign and what is kept. -/
def finish? (text : List Char) (rule : LogRule) : List Char → Option LogRule
  | [] => some rule
  | '=' :: rest => (readKeptOrAll (partFrom text rest)).map fun kept => { rule with kept }
  | _ => none

/-- Whether a text says which values of a field a rule is about: it is a number or a pattern. -/
def isFieldValue (text : List Char) : Bool :=
  Decimal.isNumeral text || Pattern.isWellFormed text

/-- Reads a rule from what is inside its brackets on: the name of a span, or the name of a field
between braces, with or without a span before it.  The value of a field stands between the first and
the second equals sign. -/
def parseBrackets? (text : List Char) (rule : LogRule) (inside : List Char) : Option LogRule :=
  let span := inside.takeWhile fun c => c ≠ ']' && c ≠ '\x7b'
  match inside.drop span.length with
  | ']' :: rest => finish? text { rule with inert := true } rest
  | '\x7b' :: braced =>
    let shown := braced.takeWhile (· ≠ '\x7d')
    let field := Text.takeBytes (Text.utf8Length shown) (partFrom text braced)
    match braced.drop shown.length with
    | '\x7d' :: ']' :: rest =>
      let name := field.takeWhile (· ≠ '=')
      let value := (field.drop (name.length + 1)).takeWhile (· ≠ '=')
      if field.isEmpty || !isFieldValue value then none
      else
        finish? text { rule with
          field := some (String.ofList name)
          inert := !span.isEmpty || field.contains '=' } rest
    | _ => none
  | _ => none

/-- Reads one rule. -/
def parse? (text : List Char) : Option LogRule :=
  let trimmed := Text.trim text
  let all := Severity.all.length
  match trimmed with
  | [] => none
  | '[' :: inside => parseBrackets? text { kept := all } inside
  | first :: _ =>
    if !isStartChar first then none
    else
      let word := trimmed.takeWhile fun c => c ≠ '=' && c ≠ '['
      let category := String.ofList (Text.takeBytes (Text.utf8Length word) text)
      let rule : LogRule := { category := some category, kept := all }
      match trimmed.drop word.length with
      | [] =>
        match readKept text with
        | some kept => some { kept }
        | none => some { rule with category := some (String.ofList text) }
      | '[' :: inside => parseBrackets? text rule inside
      | rest => finish? text rule rest

end LogRule

/-- Which events a log keeps. -/
structure LogFilter where
  rules : List LogRule := []
  deriving DecidableEq, Repr, Inhabited

namespace LogFilter

/-- Keeps nothing. -/
def off : LogFilter := {}

/-- Keeps events of a severity and of all graver ones. -/
def upTo (severity : Severity) : LogFilter := ⟨[{ kept := severity.rank }]⟩

/-- The rule that decides about an event, if any is about it. -/
def rule? (filter : LogFilter) (event : LogEvent) : Option LogRule :=
  (filter.rules.filter (·.applies event)).foldl
    (fun best rule => if best.any (rule.specificity < ·.specificity) then best else some rule) none

/-- Whether an event is kept. -/
def allows (filter : LogFilter) (event : LogEvent) : Bool :=
  (filter.rule? event).any (event.severity.rank ≤ ·.kept)

/-- The filter for a debug level. -/
def ofDebugLevel (level : UInt32) : LogFilter :=
  if level = 0 then upTo .info else if level = 1 then upTo .debug else upTo .trace

/-- The pieces of a text between commas. -/
def splitCommas : List Char → List (List Char)
  | [] => [[]]
  | ',' :: rest => [] :: splitCommas rest
  | c :: rest =>
    match splitCommas rest with
    | [] => [[c]]
    | piece :: pieces => (c :: piece) :: pieces

/-- Reads a filter; `none` if one of its rules is malformed.  Empty pieces are passed over. -/
def parse? (text : String) : Option LogFilter :=
  (((splitCommas text.toList).filter (· ≠ [])).mapM LogRule.parse?).map LogFilter.mk

end LogFilter

end CycleSim
