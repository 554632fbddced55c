/-
# Log rules

Which log entries reach the console.  The rules are a list, separated by commas, of levels and of
targets with a level, such as `warn,hciprobe_core=debug`.  A target stands for every part of the
program whose name begins with it.  In brackets a rule may further be confined to the entries that
hold a named value, as in `hciprobe_core[{port}]=info`, or to a span.  Of several rules that
match an entry the most specific one decides.

The places of the words of a rule are counted from its first character that is not blank, but the
words are cut out of the whole rule.  So blanks at the beginning move all of them.
-/
import VersionProbe.ByteOrder
import VersionProbe.Decimal
import VersionProbe.Log
import VersionProbe.Pattern.Reader
import VersionProbe.Text.Slice

namespace VersionProbe

/-! ## Thresholds -/

/-- How much a rule lets through: the entries of a level and of all more important ones, or
nothing. -/
abbrev Threshold := Option Level

namespace Threshold

/-- Whether an entry of some level gets through. -/
def admits (t : Threshold) (level : Level) : Bool :=
  match t with
  | none => false
  | some most => level.detail ≤ most.detail

/-- The threshold that a number from zero to five stands for. -/
def ofNumber? : Nat → Option Threshold
  | 0 => some none
  | 1 => some (some .error)
  | 2 => some (some .warn)
  | 3 => some (some .info)
  | 4 => some (some .debug)
  | 5 => some (some .trace)
  | _ => none

/-- The threshold that a word names, in any case. -/
def ofName? (word : String) : Option Threshold :=
  match word.toLower with
  | "off" => some none
  | "error" => some (some .error)
  | "warn" => some (some .warn)
  | "info" => some (some .info)
  | "debug" => some (some .debug)
  | "trace" => some (some .trace)
  | _ => none

/-- The threshold that a text states, by number or by name. -/
def ofText? (cs : List Char) : Option Threshold :=
  ((number? cs).bind ofNumber?).or (ofName? (String.ofList cs))

end Threshold

/-! ## Rules -/

/-- What a rule is confined to, besides its target. -/
inductive Scope
  /-- Nothing: it is about every entry. -/
  | all
  /-- The entries that hold a value of some name. -/
  | withField (name : String)
  /-- The entries inside a span.  The program opens no spans, so this is about no entry. -/
  | inSpan
deriving DecidableEq

/-- One rule: the beginning of the targets that it is about, what it is confined to, and what it
lets through. -/
structure LogRule where
  target : List Char
  scope : Scope
  threshold : Threshold
deriving DecidableEq

namespace LogRule

/-- Whether a rule is about an entry. -/
def covers (rule : LogRule) (e : LogEntry) : Bool :=
  rule.target.isPrefixOf e.target.toList &&
    match rule.scope with
    | .all => true
    | .withField name => e.fieldNames.contains name
    | .inSpan => false

/-- Whether a rule is at most as specific as another about the same entry: the longer target counts
first, then a named value, then its name. -/
def le (a b : LogRule) : Bool :=
  if a.target.length < b.target.length then true
  else if b.target.length < a.target.length then false
  else
    match a.scope, b.scope with
    | .withField x, .withField y => bytesLe (utf8 x) (utf8 y)
    | .withField _, _ => false
    | _, _ => true

/-- Whether a rule may begin with a character, unless it begins with a bracket. -/
def startsTarget (c : Char) : Bool :=
  c = '-' || c = ':' || c = '_' || Text.isAlphanumeric c

/-- Whether a text can be what a named value has to be: a number or a pattern. -/
def isValue (cs : List Char) : Bool :=
  isNumeral cs || Pattern.isPattern cs

/-- The scope that a named value after the name of a span states.  After an equals sign stands what
the value has to be, up to a second one; only a value of a span can be told to be something. -/
def scopeOf? (span field : List Char) : Option Scope :=
  let name := field.takeWhile (· ≠ '=')
  match field.drop name.length with
  | [] => some (if span.isEmpty then .withField (String.ofList field) else .inSpan)
  | _ :: value => if isValue (value.takeWhile (· ≠ '=')) then some .inSpan else none

/-- What a rule says at the place of one of its words.  The word and what follows it are parts of
the rule without blanks around it, where they have their place. -/
def cut? (whole core word rest : List Char) : Option (List Char) :=
  Text.slice? whole (Text.byteSize core - Text.byteSize (word ++ rest)) (Text.byteSize word)

/-- The scope that stands after an opening bracket, and what follows the closing one.  It is the
name of a span, which may be empty, or a named value in braces after such a name. -/
def readScope (whole core bracket : List Char) : Option (Scope × List Char) :=
  let span := bracket.takeWhile fun c => c ≠ ']' && c ≠ '\x7b'
  match bracket.drop span.length with
  | ']' :: rest => some (.inSpan, rest)
  | '\x7b' :: inner =>
    let field := inner.takeWhile (· ≠ '\x7d')
    match inner.drop field.length with
    | '\x7d' :: ']' :: rest =>
      if field.isEmpty then none
      else
        ((cut? whole core field (inner.drop field.length)).bind (scopeOf? span)).map (·, rest)
    | _ => none
  | _ => none

/-- The threshold in the text after an equals sign; no text lets everything through. -/
def readThreshold (cs : List Char) : Option Threshold :=
  if cs.isEmpty then some (some .trace) else Threshold.ofText? cs

/-- The threshold that a rule states after the equals sign before some rest. -/
def thresholdOf? (whole core rest : List Char) : Option Threshold :=
  (Text.dropBytes? (Text.byteSize core - Text.byteSize rest) whole).bind readThreshold

/-- The rule of a single word, which is a level for everything or else a target. -/
def ofWord (word : List Char) : LogRule :=
  match Threshold.ofText? word with
  | some threshold => ⟨[], .all, threshold⟩
  | none => ⟨word, .all, some .trace⟩

/-- The rule that a text without commas states.  A level alone is about everything, and a target or
a scope without a level lets everything through. -/
def ofText? (whole : List Char) : Option LogRule :=
  let core := Text.trim whole
  let word := core.takeWhile fun c => c ≠ '=' && c ≠ '['
  match core with
  | [] => none
  | first :: _ =>
    if first ≠ '[' && !startsTarget first then none
    else
      match core.drop word.length with
      | [] => some (ofWord whole)
      | '[' :: bracket => do
        let target ← cut? whole core word (core.drop word.length)
        let (scope, rest) ← readScope whole core bracket
        match rest with
        | [] => some ⟨target, scope, some .trace⟩
        | '=' :: level => (thresholdOf? whole core level).map (⟨target, scope, ·⟩)
        | _ => none
      | _ :: level => do
        let target ← cut? whole core word (core.drop word.length)
        (thresholdOf? whole core level).map (⟨target, .all, ·⟩)

end LogRule

/-! ## Filters -/

/-- The rules for the console, in the order in which they were stated. -/
abbrev LogFilter := List LogRule

namespace LogFilter

/-- The filter that lets through what is at least of some level. -/
def atLeast (level : Level) : LogFilter :=
  [⟨[], .all, some level⟩]

/-- The parts of a text between its commas. -/
def parts : List Char → List (List Char)
  | [] => [[]]
  | c :: cs =>
    if c = ',' then [] :: parts cs
    else
      match parts cs with
      | [] => [[c]]
      | part :: rest => (c :: part) :: rest

/-- The filter that a text states; empty parts state nothing, and a text that states nothing lets
errors through. -/
def ofText? (text : String) : Option LogFilter :=
  match (parts text.toList).filter (fun part => !part.isEmpty) with
  | [] => some (atLeast .error)
  | stated => stated.mapM LogRule.ofText?

/-- The filter for a text that may be missing or state no rules; then warnings are let through. -/
def ofSetting (text : Option String) : LogFilter :=
  (text.bind ofText?).getD (atLeast .warn)

/-- The more specific of two rules that cover an entry; of two that are equally so, the later
one. -/
def moreSpecific (earlier : Option LogRule) (later : LogRule) : Option LogRule :=
  match earlier with
  | none => some later
  | some rule => if rule.le later then some later else some rule

/-- The rule that decides about an entry. -/
def deciding (f : LogFilter) (e : LogEntry) : Option LogRule :=
  (f.filter fun rule => rule.covers e).foldl moreSpecific none

/-- Whether an entry reaches the console; one that no rule covers does not. -/
def allows (f : LogFilter) (e : LogEntry) : Bool :=
  match f.deciding e with
  | none => false
  | some rule => rule.threshold.admits e.level

end LogFilter

end VersionProbe
