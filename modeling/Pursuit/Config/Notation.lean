import Pursuit.Config.Numeral

/-! # The notation of the settings file

Records are written `Name(field: value, …)`, where the name can be left out. Lists have brackets,
maps have braces, and blanks and comments may stand between any two parts.

* **`Notation.blanks`** — skips blanks and comments, which can be nested.
* **`Notation.name`** — a name, or a raw one after `r#`.
* **`Notation.items`** — items with commas between them, up to a closing character.
* **`Notation.content`** — what the parentheses of a `Some` hold: fields, several values or one.
* **`Notation.value`** — skips a value of any shape, nested no deeper than a limit allows.
* **`Notation.head`** — the attributes at the front of a file, which can turn extensions on. -/

namespace Pursuit.Notation

open Reader

/-! ## Blanks and names -/

/-- Whether a character separates the parts of a file, as the Unicode property
`Pattern_White_Space` says. -/
def isSeparator (c : Char) : Bool :=
  let n := c.toNat
  (9 ≤ n && n ≤ 13) || n == 0x20 || n == 0x85 || n == 0x200e || n == 0x200f || n == 0x2028
    || n == 0x2029

/-- What follows a comment of which so many openings are still to be closed. -/
def afterComment : Nat → List Char → Option (List Char)
  | 0, s => some s
  | _ + 1, [] => none
  | depth + 1, '/' :: '*' :: s => afterComment (depth + 2) s
  | depth + 1, '*' :: '/' :: s => afterComment depth s
  | depth + 1, _ :: s => afterComment (depth + 1) s

/-- No text is left behind a comment that was not there before it. -/
theorem length_afterComment_le {depth : Nat} {s t : List Char} (h : afterComment depth s = some t) :
    t.length ≤ s.length := by
  fun_induction afterComment depth s with
  | case1 s => simp_all
  | case2 => cases h
  | case3 depth s ih => have := ih h; simp only [List.length_cons]; omega
  | case4 depth s ih => have := ih h; simp only [List.length_cons]; omega
  | case5 depth c s _ _ ih => have := ih h; simp only [List.length_cons]; omega

/-- What follows the blanks and comments at the front of a text. A slash that begins no comment has
no place there. -/
def blanks : List Char → Option (List Char)
  | [] => some []
  | c :: s =>
    if isSeparator c then blanks s
    else if c = '/' then
      match s with
      | '/' :: s => blanks (s.dropWhile (· != '\n'))
      | '*' :: s =>
        match _h : afterComment 1 s with
        | some rest => blanks rest
        | none => none
      | _ => none
    else some (c :: s)
termination_by s => s.length
decreasing_by
  · simp
  · have := (List.dropWhile_sublist (fun c => c != '\n') (l := s)).length_le
    simp only [List.length_cons]; omega
  · have := length_afterComment_le _h
    simp only [List.length_cons]; omega

/-- Whether a raw name can go on with a character. -/
def isRawNamePart (c : Char) : Bool := isNamePart c || c == '.' || c == '+' || c == '-'

/-- Whether a text begins with one of some words. -/
def beginsWithOne (table : List String) (s : List Char) : Bool :=
  table.any fun w => w.toList.isPrefixOf s

/-- A name, plain or raw. -/
def anyName : Reader String := fun s =>
  let take (p : Char → Bool) (s : List Char) : String × List Char :=
    (String.ofList (s.takeWhile p), s.dropWhile p)
  match s with
  | 'r' :: '#' :: t => if t.head?.any isRawNamePart then some (take isRawNamePart t) else none
  | c :: _ => if isNameStart c then some (take isNamePart s) else none
  | [] => none

/-- The name of a field or of an extension. A plain one may not run into the characters that only
raw names have. -/
def name : Reader String := fun s =>
  if beginsWithOne ["r\"", "r#\"", "r##"] s then none
  else do
    let (n, rest) ← anyName s
    if "r#".toList.isPrefixOf s ∨ ¬ rest.head?.any isRawNamePart then some (n, rest) else none

/-- The name of a value, which no quoted form begins with. -/
def valueName : Reader String := fun s =>
  if beginsWithOne ["b\"", "b'", "br#", "br\"", "r\"", "r#\"", "r##"] s then none else anyName s

/-! ## Rows of items -/

/-- Items up to a closing character, at most `fuel` of them. Each hands a state on to the next. -/
def itemsFrom {σ : Type} (item : σ → Reader σ) (close : Char) : Nat → σ → Reader σ
  | 0, _, _ => none
  | fuel + 1, a, s =>
    if s.head? = some close then some (a, s)
    else do
      let (a, s) ← item a s
      let s ← blanks s
      match s with
      | ',' :: s => itemsFrom item close fuel a (← blanks s)
      | s => if s.head? = some close then some (a, s) else none

/-- Items with commas between them, and perhaps after the last, up to a closing character and with
it. Each hands a state on to the next. -/
def items {σ : Type} (item : σ → Reader σ) (close : Char) (start : σ) : Reader σ := fun s => do
  let s ← blanks s
  let (a, s) ← itemsFrom item close (s.length + 1) start s
  let (_, s) ← char close s
  return (a, s)

/-! ## Fields and pairs -/

/-- The colon between a name or a key and its value. -/
def colon : Reader Unit := fun s => do
  let (_, s) ← char ':' (← blanks s)
  return ((), ← blanks s)

/-- A named field. -/
def field (value : Reader Unit) : Reader Unit := fun s => do
  let (_, s) ← name s
  let (_, s) ← colon s
  value s

/-- A pair of a map. -/
def pair (value : Reader Unit) : Reader Unit := fun s => do
  let (_, s) ← value s
  let (_, s) ← colon s
  value s

/-- Whether a text begins with a name and a colon. -/
def beginsWithField (s : List Char) : Bool :=
  (valueName s).any fun (_, rest) => (blanks rest).any (·.head? = some ':')

/-- The inside of a record, and the closing parenthesis. -/
def inside (value : Reader Unit) : Reader Unit := fun s => do
  let s ← blanks s
  let item := if beginsWithField s then field value else value
  items (fun _ => item) ')' () s

/-! ## What parentheses hold -/

/-- What stands between parentheses. -/
inductive Content where
  /-- Named fields. -/
  | fields
  /-- Several values. -/
  | several
  /-- One value, perhaps with a comma after it. -/
  | single
deriving DecidableEq, Repr

/-- Whether what follows the comma after the first of some values is another one. -/
def goesOn (s : List Char) : Option Content :=
  (blanks s).map fun rest => if rest.head? = some ')' then .single else .several

/-- Looks, in at most `fuel` steps, for a comma that stands no deeper than where the parentheses
began; `depth` counts the brackets that are open, those parentheses included. Brackets and commas in
quotes do not count. -/
def contentFrom : Nat → Nat → List Char → Option Content
  | 0, _, _ => none
  | fuel + 1, depth, s => do
    match ← Quoted.afterQuoted (← blanks s) with
    | [] => none
    | c :: s =>
      if c = '(' ∨ c = '[' ∨ c = '\x7b' then contentFrom fuel (depth + 1) s
      else if c = ')' ∨ c = ']' ∨ c = '\x7d' then
        if depth ≤ 1 then some .single else contentFrom fuel (depth - 1) s
      else if c = ',' ∧ depth = 1 then goesOn s
      else contentFrom fuel depth s

/-- What stands between parentheses of which the first has been read, and something follows it. -/
def content (s : List Char) : Option Content :=
  match valueName s with
  | none => contentFrom (s.length + 1) 1 s
  | some (_, rest) => do
    match ← blanks rest with
    | ':' :: _ => some .fields
    | ',' :: rest => goesOn rest
    | rest => contentFrom (rest.length + 1) 1 rest

/-! ## Values -/

/-- What the head of a file can turn on. -/
structure Extensions where
  /-- A value can stand for its own `Some`. -/
  implicitSome : Bool := false
  /-- Every record has to be named. -/
  explicitNames : Bool := false
  /-- What a `Some` holds can be written as the inside of a record. -/
  unwrapsSome : Bool := false

/-- A value, a comma perhaps, and the closing parenthesis. -/
def closed (value : Reader Unit) : Reader Unit := fun s => do
  let (_, s) ← value s
  match ← blanks s with
  | ',' :: s => char ')' (← blanks s)
  | s => char ')' s

/-- What follows the word `Some`. A `Some` spends one unit of the limit, and a record inside it one on
itself and one on each element. -/
def someValue (x : Extensions) (limit : Nat) (below : Nat → Reader Unit) : Reader Unit := fun s => do
  match ← blanks s with
  | '(' :: s =>
    let s ← blanks s
    if limit = 0 then none
    else if !x.unwrapsSome then closed (below 1) s
    else if s.head? = some ')' then some ((), s.tail)
    else
      match ← content s with
      | .single => closed (below 1) s
      | .several => if limit = 1 then none else items (fun _ => below 3) ')' () s
      | .fields => if limit = 1 then none else items (fun _ => field (below 3)) ')' () s
  | s => if x.implicitSome then below 1 s else none

/-- The words that stand for a value by themselves. -/
def plainWords : List (String × Unit) := [("true", ()), ("false", ()), ("None", ())]

/-- A value that begins with no name. A list, a map or a record spends one unit of the limit on itself
and one on each element. -/
def unnamedValue (limit : Nat) (below : Nat → Reader Unit) : Reader Unit := fun s =>
  match s with
  | '(' :: ')' :: t => some ((), t)
  | '(' :: t => if limit = 0 then none else inside (below 2) t
  | '[' :: t => if limit = 0 then none else items (fun _ => below 2) ']' () t
  | '\x7b' :: t => if limit = 0 then none else items (fun _ => pair (below 2)) '\x7d' () t
  | '\'' :: _ => (Quoted.character s).map fun (_, t) => ((), t)
  | '"' :: _ | 'r' :: _ => (Quoted.text s).map fun (_, t) => ((), t)
  | 'b' :: '\'' :: _ => Numeral.numberOrSpan s
  | 'b' :: _ => Quoted.byteText s
  | c :: _ => if c.isDigit || "+-.".toList.contains c then Numeral.numberOrSpan s else none
  | [] => none

/-- A value under a limit, where `below` reads a value under a limit that is lower by so much. -/
def valueWith (x : Extensions) (limit : Nat) (below : Nat → Reader Unit) : Reader Unit := fun s =>
  match Numeral.keyword "Some".toList s with
  | some (_, rest) => someValue x limit below rest
  | none =>
    match Numeral.oneOf plainWords s with
    | some (_, rest) => some ((), rest)
    | none =>
      if (Numeral.oneOf Numeral.nonFinite s).isSome then Numeral.numberOrSpan s
      else
        match valueName s with
        | none => unnamedValue limit below s
        | some (_, rest) => do
          match ← blanks rest with
          | '(' :: t => if limit = 0 then none else inside (below 2) t
          | rest => some ((), rest)

/-- A value of any shape, nested no deeper than the limit allows. -/
def value (x : Extensions) (limit : Nat) : Reader Unit :=
  valueWith x limit fun spent =>
    if _h : 0 < spent ∧ spent ≤ limit then value x (limit - spent) else fail
termination_by limit
decreasing_by omega

/-! ## The head of a file -/

/-- The extensions with the named one turned on, if there is one of that name. -/
def Extensions.enable? (x : Extensions) (n : String) : Option Extensions :=
  if n = "implicit_some" then some { x with implicitSome := true }
  else if n = "explicit_struct_names" then some { x with explicitNames := true }
  else if n = "unwrap_variant_newtypes" then some { x with unwrapsSome := true }
  else if n = "unwrap_newtypes" then some x
  else none

/-- One extension of a row. -/
def extension (x : Extensions) : Reader Extensions := fun s => do
  let (n, s) ← name s
  return (← x.enable? n, s)

/-- Parts of which each may have blanks after it. -/
def parts : List String → Reader Unit
  | [], s => some ((), s)
  | w :: ws, s => do
    let (_, s) ← word w.toList s
    parts ws (← blanks s)

/-- The rest of an attribute that turns extensions on. -/
def enabling (x : Extensions) : Reader Extensions := fun s => do
  let (_, s) ← parts ["("] s
  let (x, s) ← extension x s
  match ← blanks s with
  | ',' :: s => items extension ')' x s
  | s => (char ')' s).map fun (_, s) => (x, s)

/-- The rest of an attribute that says what the file is for, which changes nothing. -/
def labelling (x : Extensions) : Reader Extensions := fun s => do
  let (_, s) ← parts ["="] s
  (Quoted.text s).map fun (_, s) => (x, s)

/-- What an attribute can begin with, and how it goes on. -/
def attributes (x : Extensions) : List (String × Reader Extensions) :=
  [("enable", enabling x), ("type", labelling x), ("schema", labelling x)]

/-- Attributes at the front of a file, at most `fuel` of them. -/
def headFrom : Nat → Extensions → Reader Extensions
  | 0, _, _ => none
  | fuel + 1, x, s =>
    if s.head? = some '#' then do
      let (_, s) ← parts ["#", "!", "["] s
      let (rest, s) ← Numeral.oneOf (attributes x) s
      let (x, s) ← rest (← blanks s)
      let (_, s) ← parts ["]"] (← blanks s)
      headFrom fuel x s
    else some (x, s)

/-- The attributes at the front of a file. -/
def head : Reader Extensions := fun s => do
  let s ← blanks s
  headFrom (s.length + 1) {} s

end Pursuit.Notation
