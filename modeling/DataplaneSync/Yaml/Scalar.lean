import DataplaneSync.Text.Numeral
import DataplaneSync.Yaml.Cursor

namespace DataplaneSync.Yaml

/-!
# Scalars of a YAML text

* `Gap` — the spaces and line breaks between two words of a scalar, and what they stand for.
* `plain?` — a scalar without quotation marks.
* `quoted?` — a scalar between single or double quotation marks.
-/

/-! ### Gaps -/

/-- Spaces and line breaks between two words of a scalar. -/
structure Gap where
  /-- The spaces before the first line break. -/
  spaces : List Char := []
  /-- Whether the gap leads to another line. -/
  broken : Bool := false
  /-- The first line break, unless it was escaped. -/
  first : Option Char := none
  /-- The further line breaks. -/
  more : List Char := []

namespace Gap

/-- What a gap stands for: spaces within a line stand for themselves, a single line break for a
space, and of several line breaks all but the first stand for themselves. -/
def fold (g : Gap) : List Char :=
  if g.broken then
    match g.first with
    | some '\n' => if g.more.isEmpty then [' '] else g.more
    | some b => b :: g.more
    | none => g.more
  else g.spaces

/-- Add a line break. -/
def addBreak (g : Gap) (b : Char) : Gap :=
  if g.broken then { g with more := g.more ++ [b] }
  else { g with broken := true, first := some b, spaces := [] }

/-- Add a space; those at the start of a line do not count. -/
def addSpace (g : Gap) (c : Char) : Gap :=
  if g.broken then g else { g with spaces := g.spaces ++ [c] }

end Gap

/-- Read a gap.  No tab may stand at the start of a line before column `indent`. -/
def gap? : (fuel : Nat) → (indent : Nat) → Gap → Cursor → Option (Gap × Cursor)
  | 0, _, _, _ => none
  | fuel + 1, indent, g, c =>
    match c.rest with
    | [] => some (g, c)
    | x :: _ =>
      if isSpace x then
        if g.broken && c.column < indent && x == '\t' then none
        else gap? fuel indent (g.addSpace x) c.skip
      else if isBreak x then gap? fuel indent (g.addBreak (Cursor.breakText c.rest)) c.skipBreak
      else some (g, c)

/-! ### Plain scalars -/

/-- Whether a character ends a plain scalar in a flow collection. -/
def isFlowIndicator (c : Char) : Bool :=
  c == ',' || c == '[' || c == ']' || c == '{' || c == '}'

/-- The characters of a word, up to a space or an indicator.  In a flow collection a colon may
not stand right before an indicator. -/
def word? (flow : Bool) : List Char → Option (List Char)
  | [] => some []
  | x :: rest =>
    if isSpace x || isBreak x then some []
    else if x == ':' && flow && rest.head?.any fun y => isFlowIndicator y || y == '?' then none
    else if x == ':' && endsWord rest then some []
    else if flow && isFlowIndicator x then some []
    else (word? flow rest).map (x :: ·)

/-- A scalar without quotation marks. -/
structure Plain where
  text : List Char
  /-- Whether the scalar was followed by a line break. -/
  broken : Bool
  after : Cursor

/-- Go on reading a plain scalar behind the text read so far and a gap.  Outside of flow
collections its lines start at column `indent` or later. -/
def continuePlain? : (fuel : Nat) → (flow : Bool) → (indent : Nat) → List Char → Gap → Cursor →
    Option Plain
  | 0, _, _, _, _, _ => none
  | fuel + 1, flow, indent, done, g, c =>
    if c.isAnyMarker || c.rest.head? == some '#' then some ⟨done, g.broken, c⟩
    else do
      let w ← word? flow c.rest
      let (done, g) := if w.isEmpty then (done, g) else (done ++ g.fold ++ w, {})
      let c := c.skips w.length
      match c.rest with
      | [] => some ⟨done, g.broken, c⟩
      | x :: _ =>
        if isSpace x || isBreak x then
          let (g, c) ← gap? (c.rest.length + 1) indent g c
          if !flow && c.column < indent then some ⟨done, g.broken, c⟩
          else continuePlain? fuel flow indent done g c
        else some ⟨done, g.broken, c⟩

/-- Read a plain scalar. -/
def plain? (flow : Bool) (indent : Nat) (c : Cursor) : Option Plain :=
  continuePlain? (c.rest.length + 1) flow indent [] {} c

/-! ### Quoted scalars -/

/-- The character of an escape by letter. -/
def lettered? : Char → Option Char
  | '0' => some '\x00'
  | 'a' => some '\x07'
  | 'b' => some '\x08'
  | 't' => some '\t'
  | '\t' => some '\t'
  | 'n' => some '\n'
  | 'v' => some '\x0b'
  | 'f' => some '\x0c'
  | 'r' => some '\r'
  | 'e' => some '\x1b'
  | ' ' => some ' '
  | '"' => some '"'
  | '/' => some '/'
  | '\\' => some '\\'
  | 'N' => some '\u0085'
  | '_' => some '\u00a0'
  | 'L' => some '\u2028'
  | 'P' => some '\u2029'
  | _ => none

/-- The number of hexadecimal digits of an escape by number. -/
def digitCount? : Char → Option Nat
  | 'x' => some 2
  | 'u' => some 4
  | 'U' => some 8
  | _ => none

/-- The character of an escape behind its backslash, with the length of the escape. -/
def escape? : List Char → Option (Char × Nat)
  | [] => none
  | x :: rest =>
    match digitCount? x with
    | some n =>
      if rest.length < n then none
      else (Text.value? 16 (rest.take n)).bind fun v =>
        if Nat.isValidChar v then some (Char.ofNat v, n + 1) else none
    | none => (lettered? x).map fun y => (y, 1)

/-- What a run of characters of a quoted scalar ends at. -/
inductive Stop where
  /-- The closing quotation mark. -/
  | quote
  /-- A space, a line break or the end of the text. -/
  | gap
  /-- An escaped line break. -/
  | escapedBreak

/-- Read characters of a quoted scalar up to a gap or the closing quotation mark. -/
def run? : (fuel : Nat) → (single : Bool) → List Char → Cursor →
    Option (List Char × Stop × Cursor)
  | 0, _, _, _ => none
  | fuel + 1, single, done, c =>
    match c.rest with
    | [] => some (done, .gap, c)
    | x :: rest =>
      if isSpace x || isBreak x then some (done, .gap, c)
      else if single then
        if x == '\'' then
          if rest.head? == some '\'' then run? fuel single (done ++ ['\'']) (c.skips 2)
          else some (done, .quote, c)
        else run? fuel single (done ++ [x]) c.skip
      else if x == '"' then some (done, .quote, c)
      else if x == '\\' then
        if rest.head?.any isBreak then some (done, .escapedBreak, c.skip.skipBreak)
        else (escape? rest).bind fun (y, n) => run? fuel single (done ++ [y]) (c.skips (n + 1))
      else run? fuel single (done ++ [x]) c.skip

/-- Go on reading a quoted scalar behind the text read so far.  No document marker may start
one of its lines. -/
def continueQuoted? : (fuel : Nat) → (single : Bool) → List Char → Cursor →
    Option (List Char × Cursor)
  | 0, _, _, _ => none
  | fuel + 1, single, done, c =>
    if c.isAnyMarker || c.rest.isEmpty then none
    else do
      let (done, stop, c) ← run? (c.rest.length + 1) single done c
      match stop with
      | .quote => some (done, c.skip)
      | .gap =>
        let (g, c) ← gap? (c.rest.length + 1) 0 {} c
        continueQuoted? fuel single (done ++ g.fold) c
      | .escapedBreak =>
        let (g, c) ← gap? (c.rest.length + 1) 0 { broken := true } c
        continueQuoted? fuel single (done ++ g.fold) c

/-- Read a scalar from its opening quotation mark, with the place behind the closing one. -/
def quoted? (single : Bool) (c : Cursor) : Option (List Char × Cursor) :=
  continueQuoted? (c.rest.length + 1) single [] c.skip

end DataplaneSync.Yaml
