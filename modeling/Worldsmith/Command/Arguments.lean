/-
The command line.

A command is named first and may be followed by options.  An option is spelled out with
two hyphens; its value follows it, or is joined to it by an equal sign.  After two
hyphens alone come operands, of which no command takes any.  Arguments are read from the
left, and the first that is wrong or that asks for help settles the matter.
-/
import Worldsmith.Shell.Path

namespace Worldsmith

/-- What every command may be told about where the catalog is. -/
structure Whereabouts where
  directory? : Option Path := none
  catalog? : Option Path := none
  deriving DecidableEq, Repr

inductive Command where
  | generate (w : Whereabouts) (strict dryRun : Bool)
  | check (w : Whereabouts)
  | stats (w : Whereabouts)
  deriving DecidableEq, Repr

/-- What the program is asked to do. -/
inductive Request where
  | perform (c : Command)
  | showHelp
  | showVersion
  deriving DecidableEq, Repr

inductive UsageError where
  | missingCommand
  | unknownCommand (word : String)
  | unexpected (argument : String)
  | missingValue (option : String)
  | unneededValue (option : String)
  | repeated (option : String)
  deriving DecidableEq, Repr

def UsageError.message : UsageError → String
  | .missingCommand => "a command is needed: generate, check or stats"
  | .unknownCommand word => "unknown command " ++ word
  | .unexpected argument => "unexpected argument " ++ argument
  | .missingValue option => "a value is needed for " ++ option
  | .unneededValue option => "no value is taken by " ++ option
  | .repeated option => "given more than once: " ++ option

namespace Arguments

inductive CommandName where
  | generate
  | check
  | stats
  deriving DecidableEq, Repr

def CommandName.ofText? : String → Option CommandName
  | "generate" => some .generate
  | "check" => some .check
  | "stats" => some .stats
  | _ => none

/-- What the options of a command say, as far as they have been read. -/
structure Options where
  directory? : Option String := none
  catalog? : Option String := none
  strict : Bool := false
  dryRun : Bool := false
  deriving DecidableEq, Repr

def Options.command (o : Options) (c : CommandName) : Command :=
  let w : Whereabouts := ⟨o.directory?.map Path.mk, o.catalog?.map Path.mk⟩
  match c with
  | .generate => .generate w o.strict o.dryRun
  | .check => .check w
  | .stats => .stats w

/-! ### Options -/

/-- The options by what they take. -/
inductive Kind where
  /-- Takes a value.  It fits when it was not given before and the value is not empty. -/
  | valued (set : Options → String → Except UsageError Options)
  | switch (set : Options → Except UsageError Options)
  | help

def setDirectory (o : Options) (value : String) : Except UsageError Options :=
  if o.directory?.isSome then .error (.repeated "--data-dir")
  else if value = "" then .error (.missingValue "--data-dir")
  else .ok { o with directory? := some value }

def setCatalog (o : Options) (value : String) : Except UsageError Options :=
  if o.catalog?.isSome then .error (.repeated "--content")
  else if value = "" then .error (.missingValue "--content")
  else .ok { o with catalog? := some value }

def setStrict (o : Options) : Except UsageError Options :=
  if o.strict then .error (.repeated "--strict") else .ok { o with strict := true }

def setDryRun (o : Options) : Except UsageError Options :=
  if o.dryRun then .error (.repeated "--dry-run") else .ok { o with dryRun := true }

/-- The option of a command that a word spells out.  Only tables that are written can be
held to be strict or dry. -/
def kind? (c : CommandName) (word : String) : Option Kind :=
  match word, c with
  | "--data-dir", _ => some (.valued setDirectory)
  | "--content", _ => some (.valued setCatalog)
  | "--strict", .generate => some (.switch setStrict)
  | "--dry-run", .generate => some (.switch setDryRun)
  | "--help", _ => some .help
  | _, _ => none

/-- The forms that an argument may have. -/
inductive Form where
  /-- Two hyphens alone. -/
  | divider
  | long (word : String) (value? : Option String)
  /-- One hyphen and letters; only the first is ever looked at. -/
  | short (letter : Char)
  | operand
  deriving DecidableEq, Repr

def Form.ofText (argument : String) : Form :=
  match argument.toList with
  | ['-', '-'] => .divider
  | '-' :: '-' :: cs =>
    let word := "--" ++ String.ofList (cs.takeWhile (· ≠ '='))
    match cs.dropWhile (· ≠ '=') with
    | _ :: value => .long word (some (String.ofList value))
    | [] => .long word none
  | '-' :: letter :: _ => .short letter
  | _ => .operand

/-- A value for an option is anything that has not the form of an option itself. -/
def isValue (argument : String) : Bool := Form.ofText argument = .operand

/-- The options of a command. -/
def options (c : CommandName) (o : Options) : List String → Except UsageError Request
  | [] => .ok (.perform (o.command c))
  | argument :: rest =>
    match Form.ofText argument with
    | .operand => .error (.unexpected argument)
    | .short 'h' => .ok .showHelp
    | .short _ => .error (.unexpected argument)
    | .divider =>
      match rest with
      | [] => .ok (.perform (o.command c))
      | operand :: _ => .error (.unexpected operand)
    | .long word value? =>
      match kind? c word, value?, rest with
      | some (.valued set), some value, rest => do options c (← set o value) rest
      | some (.valued set), none, value :: rest =>
        if isValue value then do options c (← set o value) rest
        else .error (.missingValue word)
      | some (.valued _), none, [] => .error (.missingValue word)
      | some (.switch set), none, rest => do options c (← set o) rest
      | some .help, none, _ => .ok .showHelp
      | some (.switch _), some _, _ | some .help, some _, _ => .error (.unneededValue word)
      | none, _, _ => .error (.unexpected argument)

/-! ### The whole line -/

/-- After the word `help` may stand one command to be helped with. -/
def helpWith : List String → Except UsageError Request
  | [] => .ok .showHelp
  | word :: rest =>
    if (CommandName.ofText? word).isNone && word ≠ "help" then .error (.unknownCommand word)
    else match rest with
      | [] => .ok .showHelp
      | word :: _ => .error (.unknownCommand word)

/-- What the arguments ask for. -/
def parse : List String → Except UsageError Request
  | [] => .error .missingCommand
  | "help" :: rest => helpWith rest
  | argument :: rest =>
    match CommandName.ofText? argument, Form.ofText argument with
    | some c, _ => options c {} rest
    | none, .short 'h' | none, .long "--help" none => .ok .showHelp
    | none, .short 'V' | none, .long "--version" none => .ok .showVersion
    | none, .operand => .error (.unknownCommand argument)
    | none, .divider => .error .missingCommand
    | none, _ => .error (.unexpected argument)

end Arguments

end Worldsmith
