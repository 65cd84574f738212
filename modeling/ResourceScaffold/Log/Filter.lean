import ResourceScaffold.Event
import ResourceScaffold.Number.Numeral

/-!
Contract: which events a log shows.

Owns:
- verbosities and the words for them;
- filters as lists of directives, and reading them;
- the decision about one event.

Does not own: how an event is written.
-/

namespace ResourceScaffold.Log

/-! ## Verbosity -/

/-- How much a log shows. Each verbosity includes those before it. -/
inductive Verbosity where
  | off
  | error
  | warning
  | info
  | debug
  | trace
deriving DecidableEq, Repr

namespace Verbosity

def all : List Verbosity := [off, error, warning, info, debug, trace]

def rank (verbosity : Verbosity) : Nat := all.idxOf verbosity

def word : Verbosity → List Char
  | off => "off".toList
  | error => "error".toList
  | warning => "warn".toList
  | info => "info".toList
  | debug => "debug".toList
  | trace => "trace".toList

/-- The verbosity that a text names: by its word in any case, or by its rank. Nothing at all names
that of errors. -/
def ofText? (text : List Char) : Option Verbosity :=
  if text.isEmpty then some error
  else if text.all Char.isDigit then all[Numeral.natOfDigits text]?
  else all.find? fun verbosity => verbosity.word = text.map Char.toLower

end Verbosity

def Verbosity.ofLevel : EventLevel → Verbosity
  | .error => .error
  | .warning => .warning
  | .info => .info

/-! ## Directives -/

/-- A directive: the verbosity for all topics that begin in a certain way. One that is bound to a
span of execution applies to no event. -/
structure Directive where
  topic : Option (List Char)
  verbosity : Verbosity
  isBound : Bool := false
deriving DecidableEq, Repr

def startsDirective (character : Char) : Bool :=
  character.isAlphanum || ['-', ':', '_'].contains character || 0x80 ≤ character.toNat

/-- The verbosity after an equals sign. Without one, everything is shown. -/
def verbosityAfter? (text : List Char) : Option Verbosity :=
  if text.isEmpty then some .trace else Verbosity.ofText? text

/-- Reads a directive that is bound to a span, after the bracket that opens the span. -/
def readBound? (topic : Option (List Char)) (text : List Char) : Option Directive :=
  match text.dropWhile (· ≠ ']') with
  | [_] => some ⟨topic, .trace, true⟩
  | _ :: '=' :: word => (verbosityAfter? word).map fun verbosity => ⟨topic, verbosity, true⟩
  | _ => none

/-- Reads a directive: a verbosity, a topic, or both with an equals sign between them. -/
def Directive.ofText? (text : List Char) : Option Directive :=
  match text with
  | [] => none
  | '[' :: rest => readBound? none rest
  | first :: _ =>
      if !startsDirective first then none
      else
        let name := text.takeWhile fun character => character ≠ '=' && character ≠ '['
        match text.dropWhile fun character => character ≠ '=' && character ≠ '[' with
        | [] =>
            match Verbosity.ofText? text with
            | some verbosity => some ⟨none, verbosity, false⟩
            | none => some ⟨some text, .trace, false⟩
        | '=' :: word => (verbosityAfter? word).map fun verbosity => ⟨some name, verbosity, false⟩
        | _ :: rest => readBound? (some name) rest

/-! ## Filters -/

/-- Directives, of which a later one replaces an earlier one for the same topic. -/
abbrev Filter := List Directive

namespace Filter

/-- The filter of a program that is not told otherwise: warnings and errors. -/
def standard : Filter := [⟨none, .warning, false⟩]

/-- Reads directives between commas. A text without directives shows errors alone. -/
def ofText? (text : List Char) : Option Filter :=
  match ((Text.splitOn ',' text).filter fun part => !part.isEmpty).mapM Directive.ofText? with
  | some [] => some [⟨none, .error, false⟩]
  | other => other

def ofSetting (setting : Option String) : Filter :=
  match setting.bind fun text => ofText? text.toList with
  | some filter => filter
  | none => standard

def concerns (topic : List Char) (directive : Directive) : Bool :=
  !directive.isBound && (directive.topic.getD []).isPrefixOf topic

/-- How specific a directive is: one without a topic is less so than any with one. -/
def weight (directive : Directive) : Nat :=
  match directive.topic with
  | some topic => topic.length + 1
  | none => 0

/-- The more specific of two directives; of equally specific ones the later. -/
def moreSpecific (best : Option Directive) (next : Directive) : Option Directive :=
  match best with
  | some found => if weight found ≤ weight next then some next else some found
  | none => some next

/-- Whether a filter lets an event through: the most specific directive about its topic decides. -/
def shows (filter : Filter) (event : Event) : Bool :=
  match (filter.filter (concerns event.topic.toList)).foldl moreSpecific none with
  | some directive => (Verbosity.ofLevel event.level).rank ≤ directive.verbosity.rank
  | none => false

end Filter

end ResourceScaffold.Log
