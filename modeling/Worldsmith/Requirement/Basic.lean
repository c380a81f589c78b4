/-
Requirements: what a player must own before a location can be reached.

A requirement is a tree.  Its leaves name subjects, that is items and categories of
items, or are text that the author wrote in the engine's grammar himself; inner nodes
join requirements or wrap one in a macro of the engine.  A tree can be built that has
no text, such as one that joins a single operand; `RequirementError` lists what can be
wrong with it.
-/
import Worldsmith.Text.Quoted
import Worldsmith.Text.Decimal

namespace Worldsmith

open Text (quoted decimal)

/-- What a leaf of a requirement points at. -/
inductive Subject where
  | item (name : String)
  | category (name : String)
  deriving DecidableEq, Repr

def Subject.name : Subject → String
  | .item name => name
  | .category name => name

/-- How much of a subject is needed.  A percentage is kept as it was written. -/
inductive Amount where
  | count (n : UInt32)
  | percent (text : String)
  deriving DecidableEq, Repr

inductive Operator where
  | and
  | or
  deriving DecidableEq, Repr

def Operator.text : Operator → String
  | .and => "and"
  | .or => "or"

/-- The engine's macros for requirements that hang on the player's options: met when
any of the dependencies is, or when all of them are. -/
inductive Gate where
  | optOne
  | optAll
  deriving DecidableEq, Repr

def Gate.text : Gate → String
  | .optOne => "OptOne"
  | .optAll => "OptAll"

inductive Requirement where
  | subject (s : Subject)
  | threshold (s : Subject) (amount : Amount)
  | combination (op : Operator) (operands : List Requirement)
  | gate (g : Gate) (inner : Requirement)
  /-- Text in the engine's grammar, passed on as it is. -/
  | raw (text : String)
  deriving Repr

/-- The kinds of node that cannot be given an amount. -/
inductive Unmeasurable where
  | threshold
  | combination
  | optionGate
  | rawText
  deriving DecidableEq, Repr

def Unmeasurable.text : Unmeasurable → String
  | .threshold => "threshold"
  | .combination => "combination"
  | .optionGate => "option gate"
  | .rawText => "raw string"

inductive RequirementError where
  | emptyName
  /-- The name holds the character that ends a subject. -/
  | reservedCharacter (name : String)
  | tooFewOperands (op : Operator) (count : Nat)
  /-- The name is legal text but reads back as another subject. -/
  | ambiguousName (name : String)
  | invalidAmount (text : String)
  | amountOnNonSubject (node : Unmeasurable)
  deriving DecidableEq, Repr

def RequirementError.message : RequirementError → String
  | .emptyName => "requirement subject has an empty name"
  | .reservedCharacter name =>
    "subject name " ++ quoted name ++ " contains reserved character '|'"
  | .tooFewOperands op count =>
    op.text ++ " combination needs at least two operands, got " ++ decimal count
  | .ambiguousName name =>
    "subject name " ++ quoted name ++ " would be read back as a different subject"
  | .invalidAmount text =>
    "invalid amount " ++ quoted text
      ++ ": expected a positive count or a `<digits>%` percentage"
  | .amountOnNonSubject node =>
    "an amount can only qualify an item or category subject, not " ++ node.text

namespace Requirement

/-- The bare subject qualified by an amount.  No other node takes one, nor does a
threshold take a second. -/
def withAmount (r : Requirement) (amount : Amount) : Except RequirementError Requirement :=
  match r with
  | .subject s => .ok (.threshold s amount)
  | .threshold .. => .error (.amountOnNonSubject .threshold)
  | .combination .. => .error (.amountOnNonSubject .combination)
  | .gate .. => .error (.amountOnNonSubject .optionGate)
  | .raw _ => .error (.amountOnNonSubject .rawText)

end Requirement

end Worldsmith
