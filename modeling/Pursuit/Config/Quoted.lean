import Pursuit.Text.Digits
import Pursuit.Text.Graphic
import Pursuit.Text.Reader

/-! # Quoted texts

* **`quote`** — a text between quotes. Quotes and backslashes are escaped, and so are the characters
  that cannot be seen, or not by themselves.
* **`Quoted.text`** — the text of a quoted form at the front of a text. More is read than written:
  escapes by number, lines that go on after a backslash, and raw forms `r#"…"#`, in which a
  backslash is a character like any other.
* **`Quoted.character`, `Quoted.byteText`, `Quoted.byte`** — a character, bytes, and a byte.
* **`Quoted.afterQuoted`** — what follows the quoted forms at the front of a text. -/

namespace Pursuit

/-- A character as it stands between quotes. -/
def escape (c : Char) : List Char :=
  if c = '\n' then ['\\', 'n']
  else if c = '\t' then ['\\', 't']
  else if c = '\r' then ['\\', 'r']
  else if c.toNat = 0 then ['\\', '0']
  else if c = '"' ∨ c = '\'' ∨ c = '\\' then ['\\', c]
  else if isGraphic c && !isExtending c then [c]
  else ['\\', 'u', '{'] ++ Nat.toDigits 16 c.toNat ++ ['}']

/-- A text between quotes. -/
def quote (s : String) : String :=
  String.ofList ('"' :: s.toList.flatMap escape ++ ['"'])

namespace Quoted

open Reader

/-! ## Escapes -/

/-- Two hexadecimal digits. -/
def hexByte : Reader Nat
  | a :: b :: rest => do return (16 * (← digit? 16 a) + (← digit? 16 b), rest)
  | _ => none

/-- The character that bytes encode, if they encode one. -/
def ofBytes? (bytes : List UInt8) : Option Char :=
  (String.fromUTF8? ⟨bytes.toArray⟩).bind fun s => s.toList.head?

/-- The character that the given bytes encode together with at most `more` further bytes, each in an
escape of its own. -/
def encoded : Nat → List UInt8 → Reader Char
  | more, bytes => fun s =>
    match ofBytes? bytes with
    | some c => some (c, s)
    | none =>
      match more with
      | 0 => none
      | more + 1 => do
        let (_, s) ← word ['\\', 'x'] s
        let (b, s) ← hexByte s
        encoded more (bytes ++ [.ofNat b]) s

/-- One to six hexadecimal digits in braces, the number of a character. -/
def numbered : Reader Char := fun s => do
  let (_, s) ← char '{' s
  let (digits, s) := digitRun 16 s
  let n := ofDigits 16 digits
  let (_, s) ← char '}' s
  if digits = [] ∨ 6 < digits.length ∨ ¬ n.isValidChar then none else some (Char.ofNat n, s)

/-- What an escape may stand for: a byte, or a character that takes at most so many bytes more than
one. -/
inductive Alphabet where
  /-- Any byte. -/
  | bytes
  /-- Characters. -/
  | characters (more : Nat)

/-- What follows the backslash of an escape. -/
def escaped (a : Alphabet) : Reader Char
  | [] => none
  | c :: s =>
    if c = 'n' then some ('\n', s)
    else if c = 't' then some ('\t', s)
    else if c = 'r' then some ('\r', s)
    else if c = '0' then some (Char.ofNat 0, s)
    else if c = '"' ∨ c = '\'' ∨ c = '\\' then some (c, s)
    else if c = 'x' then do
      let (b, s) ← hexByte s
      match a with
      | .bytes => some (Char.ofNat b, s)
      | .characters more => encoded more [.ofNat b] s
    else if c = 'u' then numbered s
    else none

/-! ## Forms -/

/-- Whether a character is left out in front of what goes on after the end of a line. -/
def isIndent (c : Char) : Bool := c == ' ' || c == '\t' || c == '\n' || c == '\r'

/-- What a text goes on with after a backslash at the end of a line. -/
def nextLine? : List Char → Option (List Char)
  | '\n' :: s => some (s.dropWhile isIndent)
  | '\r' :: '\n' :: s => some (s.dropWhile isIndent)
  | _ => none

/-- What stands before the closing quote, of at most `fuel` characters and escapes. -/
def body (a : Alphabet) : Nat → Reader (List Char)
  | 0, _ => none
  | _ + 1, [] => none
  | fuel + 1, c :: s =>
    if c = '"' then some ([], s)
    else
      match (if c = '\\' then nextLine? s else none) with
      | some s => body a fuel s
      | none => do
        let (c, s) ← if c = '\\' then escaped a s else some (c, s)
        let (cs, s) ← body a fuel s
        return (c :: cs, s)

/-- What stands before the first occurrence of an ending. -/
def upTo (ending : List Char) : Reader (List Char)
  | [] => none
  | c :: s =>
    match word ending (c :: s) with
    | some (_, rest) => some ([], rest)
    | none => (upTo ending s).map fun (cs, rest) => (c :: cs, rest)

/-- Hash signs, a quote, characters that stand for themselves, a quote and as many hash signs. -/
def raw : Reader (List Char) := fun s => do
  let hashes := s.takeWhile (· == '#')
  let (_, s) ← char '"' (s.dropWhile (· == '#'))
  upTo ('"' :: hashes) s

/-- A text, quoted or raw. -/
def text : Reader String := fun s =>
  let read : Option (List Char × List Char) :=
    match s with
    | '"' :: s => body (.characters 3) (s.length + 1) s
    | 'r' :: s => raw s
    | _ => none
  read.map fun (cs, s) => (String.ofList cs, s)

/-- Bytes, quoted or raw. -/
def byteText : Reader Unit
  | 'b' :: '"' :: s => (body .bytes (s.length + 1) s).map fun (_, s) => ((), s)
  | 'b' :: 'r' :: s => (raw s).map fun (_, s) => ((), s)
  | _ => none

/-- A character between apostrophes. -/
def character : Reader Char
  | '\'' :: c :: s => do
    let (c, s) ← if c = '\\' then escaped (.characters 0) s else some (c, s)
    let (_, s) ← char '\'' s
    return (c, s)
  | _ => none

/-- A byte, written as an ASCII character between apostrophes. -/
def byte : Reader Nat
  | 'b' :: '\'' :: c :: s => do
    let (c, s) ←
      if c = '\\' then if s.head? = some 'u' then none else escaped .bytes s
      else if c.toNat < 0x80 then some (c, s) else none
    let (_, s) ← char '\'' s
    return (c.toNat, s)
  | _ => none

/-! ## Passing over quoted forms -/

/-- Whether a quoted text lacks its closing quote: there is none after the opening one, or none
after one of at most `fuel` escapes. -/
def isUnclosed (a : Alphabet) : Nat → List Char → Bool
  | 0, _ => false
  | fuel + 1, s =>
    if !s.contains '"' then true
    else
      match s.dropWhile fun c => c != '"' && c != '\\' with
      | '\\' :: s =>
        match nextLine? s <|> (escaped a s).map (·.2) with
        | some s => isUnclosed a fuel s
        | none => false
      | _ => false

/-- Whether a raw form has begun and lacks its ending. -/
def isRawUnclosed (s : List Char) : Bool :=
  (s.dropWhile (· == '#')).head? = some '"' && (raw s).isNone

/-- Whether a text begins with a quoted form, of characters or of bytes, that is not closed. -/
def beginsUnclosed : List Char → Bool
  | '"' :: s => isUnclosed (.characters 3) (s.length + 1) s
  | 'b' :: '"' :: s => isUnclosed .bytes (s.length + 1) s
  | 'r' :: s => isRawUnclosed s
  | 'b' :: 'r' :: s => isRawUnclosed s
  | _ => false

/-- What follows a form at the front of a text, or all of it if it begins with none. Nothing follows
a form that is not closed. -/
def after? {α : Type} (form : Reader α) (s : List Char) : Option (List Char) :=
  if beginsUnclosed s then none else some ((rest? form s).getD s)

/-- What follows a character, a text and bytes at the front of a text, each of which may be
missing. -/
def afterQuoted (s : List Char) : Option (List Char) := do
  after? byteText (← after? text ((rest? character s).getD s))

end Quoted

end Pursuit
