/-
Environments, and the file `.env` that adds to them.

The file holds a variable and its value on a line.  A value may be quoted, in which case
it may run over several lines; outside single quotes a dollar sign and a name stand for
the value of another variable.  Reading stops at the first line that is malformed, and
what came before it counts.  A variable that is set already is never changed.
-/
import Worldsmith.Shell.Files
import Worldsmith.Text.Blank
import Worldsmith.Text.Letters
import Worldsmith.Text.Lines

namespace Worldsmith

/-- The variables that are set. -/
abbrev Environment : Type := Table String String

namespace EnvFile

open Text (isSpace isAlphanumeric trimEnd fullLines withoutLineEnd)

/-! ### Lines -/

/-- What a line is in the middle of, as far as it matters for where it ends. -/
inductive LineState where
  | plain
  /-- After white space, where a comment may begin. -/
  | gap
  | escape
  | single
  | singleEscape
  | double
  | doubleEscape
  deriving DecidableEq, Repr

/-- Outside quotes. -/
def LineState.outside (c : Char) : LineState :=
  match c with
  | '\\' => .escape
  | '"' => .double
  | '\'' => .single
  | _ => .plain

def LineState.next (s : LineState) (c : Char) : LineState :=
  match s with
  | .plain => if isSpace c && c != '\n' && c != '\r' then .gap else outside c
  | .gap => outside c
  | .escape => .plain
  | .single => if c = '\\' then .singleEscape else if c = '\'' then .plain else .single
  | .singleEscape => .single
  | .double => if c = '\\' then .doubleEscape else if c = '"' then .plain else .double
  | .doubleEscape => .double

/-- Follows a line from a state to its end or to a comment.  Gives what comes before the
comment, and no state when there is one. -/
def follow (s : LineState) : List Char → List Char × Option LineState
  | [] => ([], some s)
  | c :: cs =>
    if s = .gap ∧ c = '#' then ([], none)
    else
      let (kept, last) := follow (s.next c) cs
      (c :: kept, last)

/-- The lines with those joined that are one by their quotes, up to the first that does
not end: a comment that is a whole line is an empty one. -/
def logicalLines (begun : List Char) (s : LineState) : List (List Char) → List (List Char)
  | [] => []
  | line :: lines =>
    let text := begun ++ line
    if (text.dropWhile isSpace).head? = some '#' then [] :: logicalLines [] .plain lines
    else match follow s line with
      | (kept, none) => (begun ++ kept) :: logicalLines [] .plain lines
      | (_, some .plain) => withoutLineEnd text :: logicalLines [] .plain lines
      | (_, some s) => logicalLines text s lines

/-! ### Values -/

/-- What a value is in the middle of.  Names and escapes know whether they stand in double
quotes; names are held backwards. -/
inductive ValueState where
  | plain
  | single
  | double
  | escape (quoted : Bool)
  | name (read : List Char) (quoted : Bool)
  | bracedName (read : List Char) (quoted : Bool)
  /-- After white space, where only a comment may follow. -/
  | ended

def ValueState.back (quoted : Bool) : ValueState := if quoted then .double else .plain

/-- The value of a variable whose name was read backwards. -/
def valueOf (env : Environment) (read : List Char) : List Char :=
  ((env.get? (String.ofList read.reverse)).map String.toList).getD []

/-- The characters that a backslash may stand before, with what they become. -/
def escapes : List (Char × Char) :=
  [('\\', '\\'), ('\'', '\''), ('"', '"'), ('$', '$'), (' ', ' '), ('n', '\n')]

/-- The value from a state on; nothing if it is malformed. -/
def value? (env : Environment) (s : ValueState) : List Char → Option (List Char)
  | [] =>
    match s with
    | .plain | .ended | .escape false => some []
    | .name read false => some (valueOf env read)
    | .single | .double | .escape true | .name _ true | .bracedName .. => none
  | c :: cs =>
    match s with
    | .ended =>
      if c = ' ' || c = '\t' then value? env .ended cs else if c = '#' then some [] else none
    | .escape quoted =>
      match escapes.lookup c with
      | some d => (value? env (.back quoted) cs).map (d :: ·)
      | none => none
    | .single =>
      if c = '\'' then value? env .plain cs else (value? env .single cs).map (c :: ·)
    | .name read quoted =>
      if isAlphanumeric c then value? env (.name (c :: read) quoted) cs
      else if c = '{' && read.isEmpty then value? env (.bracedName [] quoted) cs
      else if c = '$' then (value? env (.name [] quoted) cs).map (valueOf env read ++ ·)
      else (value? env (.back quoted) cs).map (valueOf env read ++ c :: ·)
    | .bracedName read quoted =>
      if c = '\x7d' then (value? env (.back quoted) cs).map (valueOf env read ++ ·)
      else value? env (.bracedName (c :: read) quoted) cs
    | .double =>
      if c = '$' then value? env (.name [] true) cs
      else if c = '"' then value? env .plain cs
      else if c = '\\' then value? env (.escape true) cs
      else (value? env .double cs).map (c :: ·)
    | .plain =>
      if c = '$' then value? env (.name [] false) cs
      else if c = '\'' then value? env .single cs
      else if c = '"' then value? env .double cs
      else if c = '\\' then value? env (.escape false) cs
      else if c = ' ' || c = '\t' then value? env .ended cs
      else (value? env .plain cs).map (c :: ·)

/-! ### Assignments -/

/-- The name of a variable. -/
def key? (cs : List Char) : Option (List Char × List Char) :=
  match cs with
  | c :: _ =>
    if c.isAlpha || c = '_' then
      let goesOn (c : Char) := c.isAlphanum || c = '_' || c = '.'
      some (cs.takeWhile goesOn, cs.dropWhile goesOn)
    else none
  | [] => none

def afterEqual? (cs : List Char) : Option (List Char) :=
  match cs with
  | '=' :: r => some r
  | _ => none

/-- A name and the equal sign that follows it. -/
def keyAndEqual? (cs : List Char) : Option (List Char × List Char) := do
  let (key, r) ← key? cs
  return (key, ← afterEqual? (r.dropWhile isSpace))

/-- What a line says: nothing, or the value of a variable.  The word `export` in front is
passed over, unless it is the variable. -/
def assignment? (env : Environment) (line : List Char) :
    Option (Option (String × String)) := do
  let cs := (trimEnd line).dropWhile isSpace
  if cs.isEmpty || cs.head? = some '#' then return none
  let (key, r) ← key? cs
  let r := r.dropWhile isSpace
  let (key, r) ← match afterEqual? r with
    | some r => some (key, r)
    | none => if key = "export".toList then keyAndEqual? r else none
  let r := r.dropWhile isSpace
  if r.isEmpty || r.head? = some '#' then return some (String.ofList key, "")
  return some (String.ofList key, String.ofList (← value? env .plain r))

/-- The environment after the lines. -/
def loadLines (env : Environment) : List (List Char) → Environment
  | [] => env
  | line :: lines =>
    match assignment? env line with
    | none => env
    | some none => loadLines env lines
    | some (some (key, value)) =>
      loadLines (if env.contains key then env else env.set key value) lines

/-- The environment after the file.  A value may hold any character here.  A system takes no
zero character in one, and a program that sets such a variable ends at once; this is left
out. -/
def load (env : Environment) (text : String) : Environment :=
  let cs := match text.toList with
    | '\ufeff' :: cs => cs
    | cs => cs
  loadLines env (logicalLines [] .plain (fullLines cs))

/-- The environment after the file in the current directory, or in the nearest directory
above it that has one. -/
def extend {m : Type → Type} [Monad m] [MonadFiles m] (env : Environment) : m Environment := do
  let here ← MonadFiles.currentDirectory
  let paths := here.ancestors.map (·.join ⟨".env"⟩)
  match ← paths.findM? MonadFiles.isFile with
  | none => return env
  | some path => return ((← MonadFiles.read? path).map (load env)).getD env

end EnvFile

end Worldsmith
