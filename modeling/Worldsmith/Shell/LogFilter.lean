/-
Filters of the log.

A filter says, for parts of the program, which levels are shown.  It is written as
directives with commas between them: a level holds for everything, and the name of a
part, an equal sign and a level hold for all parts whose names begin with it.  In
brackets a directive may name a span and a field.  The longest name that fits decides,
of two rules for it the one that asks for a field, and where none fits nothing is shown.
-/
import Worldsmith.Event
import Worldsmith.Shell.EnvFile
import Worldsmith.Text.Decimal
import Worldsmith.Text.Pattern

namespace Worldsmith

/-- Which events a rule is for. -/
structure LogScope where
  /-- The beginning of the name of the part they belong to. -/
  part : String
  /-- A field that they have to carry. -/
  field? : Option String := none
  deriving DecidableEq, Repr

namespace LogScope

def covers (s : LogScope) (e : Event) : Bool :=
  s.part.toList.isPrefixOf e.source.toList && s.field?.all (· = Event.field)

/-- How narrow a scope is: first by its name, then by its field. -/
def narrowness (s : LogScope) : Nat := 2 * s.part.length + if s.field?.isSome then 1 else 0

end LogScope

/-- What is shown of the events in a scope: everything up to a level, or nothing at
all. -/
structure LogFilter where
  rules : Table LogScope (Option Level)

namespace LogFilter

open Text (after? isAlphanumeric isSpace)

/-! ### Levels -/

/-- The words for a level. -/
def levelWords : List (String × Option Level) := [
  ("off", none), ("error", some .error), ("warn", some .warn), ("info", some .info),
  ("debug", some .debug), ("trace", some .trace)]

/-- A level as a word, in any case, or as its place among the words, counted from
zero. -/
def level? (word : List Char) : Option (Option Level) :=
  match Text.decimal? ((after? ['+'] word).getD word) with
  | some n => levelWords[n]?.map Prod.snd
  | none => levelWords.lookup (String.ofList (word.map Char.toLower))

/-! ### Directives -/

inductive Directive where
  /-- What is shown of some events. -/
  | rule (scope : LogScope) (upTo : Option Level)
  /-- What is shown within spans, in which no event of this program lies. -/
  | spans
  deriving DecidableEq, Repr

/-- May the name of a part begin so? -/
def opensPart (c : Char) : Bool := isAlphanumeric c || c ∈ ['_', ':', '-']

/-- A value that a field may be compared with: a number, or else a pattern. -/
def isFieldValue (cs : List Char) : Bool :=
  let word := String.ofList ((Text.sign cs).2.map Char.toLower)
  Text.isFloat cs || word ∈ ["inf", "infinity", "nan"] || Text.isPattern cs

/-- A field in braces: its name, if nothing is said of its value.  Only spans are looked
at for values. -/
def field? (cs : List Char) : Option (Option String) :=
  match Text.cutAll '=' cs with
  | [[]] => none
  | [name] => some (some (String.ofList name))
  | _ :: value :: _ => if isFieldValue value then some none else none
  | [] => none

/-- What follows an opening bracket: the name of a span, a field in braces, or both.
Gives the field that events have to carry, if the directive is about events at all. -/
def brackets? (cs : List Char) : Option (Option String × List Char) :=
  let span := cs.takeWhile fun c => c ≠ ']' && c ≠ '\x7b'
  match cs.drop span.length with
  | ']' :: r => some (none, r)
  | _ :: r => do
    let field := r.takeWhile (· ≠ '\x7d')
    let field? ← field? field
    return (if span.isEmpty then field? else none, ← after? ['\x7d', ']'] (r.drop field.length))
  | [] => none

/-- The level behind an equal sign; without one everything is shown. -/
def upTo? : List Char → Option (Option Level)
  | '=' :: [] => some (some .trace)
  | '=' :: word => level? word
  | r => if r.all isSpace then some (some .trace) else none

/-- A directive.  White space is not taken off names and levels, so a level must have
none around it; a directive with white space in front of it cannot say a level, and
its name fits no part. -/
def directive? (cs : List Char) : Option Directive := do
  let body := cs.dropWhile isSpace
  if !body.head?.any fun c => c = '[' || opensPart c then none
  let upTo? := fun r =>
    if body.length ≠ cs.length && r.head? = some '=' then none else upTo? r
  let part := cs.takeWhile fun c => c ≠ '=' && c ≠ '['
  match cs.drop part.length with
  | [] =>
    match level? cs with
    | some upTo => return .rule ⟨"", none⟩ upTo
    | none => return .rule ⟨String.ofList part, none⟩ (some .trace)
  | '[' :: r => do
    let (field?, r) ← brackets? r
    let upTo ← upTo? r
    match field? with
    | some field => return .rule ⟨String.ofList part, some field⟩ upTo
    | none => return .spans
  | r => return .rule ⟨String.ofList part, none⟩ (← upTo? r)

/-! ### Filters -/

/-- The rule for everything. -/
def everything (upTo : Level) : LogFilter := ⟨Table.ofList [(⟨"", none⟩, some upTo)]⟩

/-- The filter of the directives.  A later rule for the same scope replaces an earlier
one, and without any directive errors are shown. -/
def ofDirectives (ds : List Directive) : LogFilter :=
  if ds.isEmpty then everything .error
  else ⟨Table.ofList (ds.filterMap fun
    | .rule scope upTo => some (scope, upTo)
    | .spans => none)⟩

/-- The filter that text stands for, if all of its directives are well formed. -/
def ofText? (text : String) : Option LogFilter :=
  (((Text.cutAll ',' text.toList).filter (!·.isEmpty)).mapM directive?).map ofDirectives

/-- The filter that the environment asks for, or else one that leaves out details. -/
def ofEnvironment (env : Environment) : LogFilter :=
  ((env.get? "RUST_LOG").bind ofText?).getD (everything .info)

/-- What the narrowest rule for an event says. -/
def ruling? (f : LogFilter) (e : Event) : Option (Option Level) :=
  ((f.rules.entries.filter (·.1.covers e)).foldl (fun best? r =>
    if best?.all (·.1.narrowness < r.1.narrowness) then some r else best?) none).map Prod.snd

def shows (f : LogFilter) (e : Event) : Bool :=
  match f.ruling? e with
  | some (some upTo) => e.level.rank ≤ upTo.rank
  | _ => false

end LogFilter

end Worldsmith
