/-
The lexemes of RON: blanks and comments, names, text and characters.

Each function reads from the front of the text and gives back what it read and the
rest, or nothing when the text is malformed there.
-/
import Worldsmith.Ron.Basic
import Worldsmith.Text.Cut
import Worldsmith.Text.Units

namespace Worldsmith.Ron

open Text

/-! ### Blanks and comments -/

mutual

/-- Passes over blanks and comments.  A slash that opens no comment is a fault. -/
def skip? : List Char → Option (List Char)
  | [] => some []
  | c :: cs =>
    if isSpace c then skip? cs
    else if c = '/' then
      match cs with
      | '/' :: r => skipLine? r
      | '*' :: r => skipBlock? 0 r
      | _ => none
    else some (c :: cs)

/-- Passes over a comment up to the end of its line. -/
def skipLine? : List Char → Option (List Char)
  | [] => some []
  | c :: cs => if c = '\n' then skip? cs else skipLine? cs

/-- Passes over a comment up to the mark that closes it, and over `level` comments around
it. -/
def skipBlock? (level : Nat) : List Char → Option (List Char)
  | [] => none
  | '/' :: '*' :: r => skipBlock? (level + 1) r
  | '*' :: '/' :: r => if level = 0 then skip? r else skipBlock? (level - 1) r
  | _ :: r => skipBlock? level r

end

/-- A comma that may be missing, with the blanks around it.  Tells whether it was there. -/
def comma? (cs : List Char) : Option (Bool × List Char) := do
  match ← skip? cs with
  | ',' :: r => return (true, ← skip? r)
  | r => return (false, r)

/-! ### Names -/

/-- Does a literal begin here that starts with the letters of a name? -/
def opensLiteral (cs : List Char) : Bool :=
  [['b', '"'], ['b', '\''], ['b', 'r', '#'], ['b', 'r', '"'],
    ['r', '"'], ['r', '#', '"'], ['r', '#', '#']].any (·.isPrefixOf cs)

/-- Does a name end here, so that `word` before this is a whole one? -/
def endsWord (cs : List Char) : Bool := !(cs.head?.any isIdentifierContinue)

/-- The text after the whole word. -/
def word? (word : List Char) (cs : List Char) : Option (List Char) :=
  (after? word cs).filter endsWord

/-- A name, as far as it goes; `r#` in front admits dots and signs. -/
def name? (cs : List Char) : Option (String × List Char) :=
  if opensLiteral cs then none
  else match cs with
    | 'r' :: '#' :: r =>
      if (r.takeWhile isRawIdentifier).isEmpty then none
      else some (String.ofList (r.takeWhile isRawIdentifier), r.dropWhile isRawIdentifier)
    | c :: r =>
      if isIdentifierStart c then
        some (String.ofList (c :: r.takeWhile isIdentifierContinue), r.dropWhile isIdentifierContinue)
      else none
    | [] => none

/-- A name in a place where nothing else can stand: it must not run on into a dot or a
sign, as only a raw one may. -/
def properName? (cs : List Char) : Option (String × List Char) := do
  let (n, r) ← name? cs
  if !(['r', '#'].isPrefixOf cs) && r.head?.any isRawIdentifier then none
  return (n, r)

/-! ### Text -/

/-- A byte as two hexadecimal digits. -/
def byte? : List Char → Option (Nat × List Char)
  | a :: b :: cs => do return (16 * (← hexDigit? a) + (← hexDigit? b), cs)
  | _ => none

/-- As many further bytes as asked for, each after `\x`. -/
def bytes? : Nat → List Char → Option (List Nat × List Char)
  | 0, cs => some ([], cs)
  | n + 1, cs => do
    let (b, r) ← byte? (← after? ['\\', 'x'] cs)
    let (bs, r) ← bytes? n r
    return (b :: bs, r)

/-- A code point in braces, of one to six hexadecimal digits. -/
def codePoint? (cs : List Char) : Option (Char × List Char) := do
  let r ← after? ['{'] cs
  let digits := (r.take 6).takeWhile (· ≠ '}')
  if digits.isEmpty then none
  let n ← digits.foldlM (fun n d => (hexDigit? d).map (16 * n + ·)) 0
  return (← char? n, ← after? ['}'] (r.drop digits.length))

/-- The letters that follow a backslash, and the characters they stand for. -/
def shortEscapes : List (Char × Char) :=
  [('\'', '\''), ('"', '"'), ('\\', '\\'), ('n', '\n'), ('r', '\r'), ('t', '\t'), ('0', '\x00')]

/-- What follows a backslash in text. -/
def escape? : List Char → Option (Char × List Char)
  | 'x' :: cs => do
    let (first, r) ← byte? cs
    let (following, r) ← bytes? (← utf8Following? first) r
    return (← charOfUtf8? first following, r)
  | 'u' :: cs => codePoint? cs
  | c :: cs => (shortEscapes.lookup c).map fun d => (d, cs)
  | [] => none

/-- What follows a backslash in a single character: a byte of its own has to be ASCII. -/
def charEscape? : List Char → Option (Char × List Char)
  | 'x' :: cs => do
    let (b, r) ← byte? cs
    if b < 0x80 then return (← char? b, r) else none
  | cs => escape? cs

/-- What follows a backslash among bytes, where any byte may stand. -/
def byteEscape? : List Char → Option (List Char)
  | 'x' :: cs => (byte? cs).map Prod.snd
  | cs => (escape? cs).map Prod.snd

/-- Text after its opening quote; `read` holds what was read of it, backwards. -/
def quotedText? (read : List Char) : Nat → List Char → Option (String × List Char)
  | 0, _ => none
  | _ + 1, [] => none
  | fuel + 1, c :: cs =>
    if c = '"' then some (String.ofList read.reverse, cs)
    else if c = '\\' then do
      let (d, r) ← escape? cs
      quotedText? (d :: read) fuel r
    else quotedText? (c :: read) fuel cs

/-- Bytes after their opening quote. -/
def quotedBytes? : Nat → List Char → Option (List Char)
  | 0, _ => none
  | _ + 1, [] => none
  | fuel + 1, c :: cs =>
    if c = '"' then some cs
    else if c = '\\' then do quotedBytes? fuel (← byteEscape? cs)
    else quotedBytes? fuel cs

/-- Raw text up to a quote and as many hashes as it opened with. -/
def rawBody? (closing read : List Char) : List Char → Option (String × List Char)
  | [] => none
  | c :: cs =>
    match after? closing (c :: cs) with
    | some r => some (String.ofList read.reverse, r)
    | none => rawBody? closing (c :: read) cs

/-- Raw text after the letter that announces it. -/
def rawText? (cs : List Char) : Option (String × List Char) := do
  let hashes := cs.takeWhile (· = '#')
  let r ← after? ['"'] (cs.drop hashes.length)
  rawBody? ('"' :: hashes) [] r

/-- Text, quoted or raw. -/
def text? : List Char → Option (String × List Char)
  | '"' :: cs => quotedText? [] (cs.length + 1) cs
  | 'r' :: cs => rawText? cs
  | _ => none

/-- A byte string, quoted or raw. -/
def byteText? : List Char → Option (List Char)
  | 'b' :: '"' :: cs => quotedBytes? (cs.length + 1) cs
  | 'b' :: 'r' :: cs => (rawText? cs).map Prod.snd
  | _ => none

/-- A single character in its quotes. -/
def character? : List Char → Option (List Char)
  | '\'' :: '\\' :: cs => do after? ['\''] (← charEscape? cs).2
  | '\'' :: _ :: cs => after? ['\''] cs
  | _ => none

/-- A single byte in its quotes: an ASCII character or an escape other than by code
point. -/
def byteCharacter? : List Char → Option (List Char)
  | 'b' :: '\'' :: '\\' :: 'u' :: _ => none
  | 'b' :: '\'' :: '\\' :: cs => do after? ['\''] (← byteEscape? cs)
  | 'b' :: '\'' :: c :: cs => if c.toNat < 0x80 then after? ['\''] cs else none
  | _ => none

end Worldsmith.Ron
