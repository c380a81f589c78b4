/-
Coloured text.

A terminal is told of a colour or a weight by a code before the text, and to go back to
plain text by a last code.  Text is coloured only where the environment insists on it.
-/
import Worldsmith.Shell.EnvFile
import Worldsmith.Text.Decimal

namespace Worldsmith

/-- The colours and weights in use. -/
inductive Style where
  | bold
  | dim
  | red
  | green
  | cyan
  deriving DecidableEq, Repr

namespace Style

def code : Style → Nat
  | .bold => 1
  | .dim => 2
  | .red => 31
  | .green => 32
  | .cyan => 36

/-- A code as a terminal takes it. -/
def escape (n : Nat) : String := "\x1b[" ++ Text.decimal n ++ "m"

/-- Text with all of the styles, in this order. -/
def paint (coloured : Bool) (styles : List Style) (text : String) : String :=
  if coloured then String.join (styles.map (escape ·.code)) ++ text ++ escape 0 else text

/-- Does the environment insist on colours? -/
def isForced (env : Environment) : Bool :=
  match env.get? "CLICOLOR_FORCE" with
  | some value => value ≠ "0"
  | none => false

end Style

end Worldsmith
