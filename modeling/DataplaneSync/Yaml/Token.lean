import DataplaneSync.Yaml.Scalar

namespace DataplaneSync.Yaml

/-!
# Tokens of a YAML text

The marks and scalars of a text, with the start and the end of each block collection, which the
text shows by indentation only.

* `Token` — what a text is made of.
* `Scanner` — a place in a text with the open block collections and the places where a key
  could have started.
* `Token.scan?` — the tokens of a whole text.

That a scalar or a flow collection is a key turns out when a colon follows it on its line, at most
1024 bytes after its start; its token is then put in front of it.  Directives, anchors, tags and block scalars are not read.
-/

/-- A mark or a scalar of a text. -/
inductive Token where
  | documentStart
  | documentEnd
  | blockSequenceStart
  | blockMappingStart
  | blockEnd
  | flowSequenceStart
  | flowSequenceEnd
  | flowMappingStart
  | flowMappingEnd
  | blockEntry
  | flowEntry
  | key
  | value
  /-- A scalar, which is plain if it has no quotation marks. -/
  | scalar (plain : Bool) (text : String)
  deriving DecidableEq

/-- A place where a key without question mark may have started. -/
structure KeyStart where
  /-- The number of tokens before it. -/
  tokens : Nat
  /-- Whether nothing but a key can stand there. -/
  required : Bool
  line : Nat
  column : Nat
  /-- The number of bytes before it. -/
  offset : Nat

/-- A place in a text, with what the tokens before it leave open. -/
structure Scanner where
  cursor : Cursor
  tokens : Array Token := #[]
  /-- The columns of the open block collections, the innermost first. -/
  indents : List Nat := []
  /-- Where a key may have started, for each open flow collection and for the block around
  them, the innermost first. -/
  keys : List (Option KeyStart) := [none]
  /-- Whether a key may start here. -/
  keyAllowed : Bool := true

namespace Scanner

/-- Whether the place is inside of a flow collection. -/
def inFlow (s : Scanner) : Bool := 1 < s.keys.length

/-- The column before which a line leaves the innermost block collection. -/
def contentColumn (s : Scanner) : Nat :=
  match s.indents with
  | [] => 0
  | i :: _ => i + 1

/-- Add a token. -/
def push (s : Scanner) (t : Token) : Scanner := { s with tokens := s.tokens.push t }

/-- Add a token of `n` characters. -/
def mark (s : Scanner) (t : Token) (n : Nat) : Scanner :=
  { s.push t with cursor := s.cursor.skips n }

/-! ### Block collections -/

/-- Close the block collections to the right of a column. -/
def unroll (column : Nat) : (indents : List Nat) → Scanner → Scanner
  | [], s => { s with indents := [] }
  | i :: is, s =>
    if column < i then unroll column is (s.push .blockEnd) else { s with indents := i :: is }

/-- Close all block collections. -/
def unrollAll (s : Scanner) : Scanner :=
  { s with
    tokens := s.tokens ++ Array.replicate s.indents.length .blockEnd
    indents := [] }

/-- Open a block collection at a column, unless one is open there, in front of all but the first
`at` tokens. -/
def roll (s : Scanner) (column place : Nat) (t : Token) : Scanner :=
  if s.inFlow then s
  else if column < s.contentColumn then s
  else { s with
    tokens := s.tokens.insertIdxIfInBounds place t
    indents := column :: s.indents }

/-! ### Keys -/

/-- Give up keys that have not been followed by a colon on their line, or not within 1024 bytes. -/
def dropStale (s : Scanner) : Option Scanner := do
  let keys ← s.keys.mapM fun
    | none => some none
    | some k =>
      if k.line < s.cursor.line || k.offset + 1024 < s.cursor.offset then
        if k.required then none else some none
      else some (some k)
  pure { s with keys := keys }

/-- Give up the innermost key. -/
def dropKey (s : Scanner) : Option Scanner :=
  match s.keys with
  | some k :: ks => if k.required then none else some { s with keys := none :: ks }
  | _ => some s

/-- Remember that a key may start here. -/
def saveKey (s : Scanner) : Option Scanner :=
  if s.keyAllowed then do
    let s ← s.dropKey
    let required := !s.inFlow && s.indents.head? == some s.cursor.column
    let k : KeyStart :=
      { tokens := s.tokens.size
        required := required
        line := s.cursor.line
        column := s.cursor.column
        offset := s.cursor.offset }
    pure { s with keys := some k :: s.keys.drop 1 }
  else some s

/-! ### Between tokens -/

/-- Go to the next token, over spaces, comments and line breaks.  A tab is not passed where a
key may start in a block. -/
def toToken : (fuel : Nat) → Scanner → Scanner
  | 0, s => s
  | fuel + 1, s =>
    match s.cursor.rest with
    | [] => s
    | x :: _ =>
      if x == '\ufeff' && s.cursor.column == 0 then toToken fuel { s with cursor := s.cursor.skip }
      else if x == ' ' || (x == '\t' && (s.inFlow || !s.keyAllowed)) then
        toToken fuel { s with cursor := s.cursor.skip }
      else if x == '#' then
        let comment := s.cursor.rest.takeWhile (!isBreak ·)
        toToken fuel { s with cursor := s.cursor.skips comment.length }
      else if isBreak x then
        toToken fuel
          { s with
            cursor := s.cursor.skipBreak
            keyAllowed := s.keyAllowed || !s.inFlow }
      else s

/-! ### Tokens of each kind -/

/-- A document marker. -/
def document (s : Scanner) (t : Token) : Option Scanner := do
  let s ← s.unrollAll.dropKey
  pure { s.mark t 3 with keyAllowed := false }

/-- The start of a flow collection. -/
def flowStart (s : Scanner) (t : Token) : Option Scanner := do
  let s ← s.saveKey
  pure { s.mark t 1 with keys := none :: s.keys, keyAllowed := true }

/-- The end of a flow collection. -/
def flowEnd (s : Scanner) (t : Token) : Option Scanner := do
  let s ← s.dropKey
  pure { s.mark t 1 with keys := if s.inFlow then s.keys.drop 1 else s.keys, keyAllowed := false }

/-- A comma. -/
def flowEntry (s : Scanner) : Option Scanner := do
  let s ← s.dropKey
  pure { s.mark .flowEntry 1 with keyAllowed := true }

/-- A hyphen before an item. -/
def blockEntry (s : Scanner) : Option Scanner :=
  if !s.inFlow && !s.keyAllowed then none
  else do
    let s ← (s.roll s.cursor.column s.tokens.size .blockSequenceStart).dropKey
    pure { s.mark .blockEntry 1 with keyAllowed := true }

/-- A question mark before a key. -/
def explicitKey (s : Scanner) : Option Scanner :=
  if !s.inFlow && !s.keyAllowed then none
  else do
    let s ← (s.roll s.cursor.column s.tokens.size .blockMappingStart).dropKey
    pure { s.mark .key 1 with keyAllowed := !s.inFlow }

/-- A colon before a value. -/
def value (s : Scanner) : Option Scanner :=
  match s.keys with
  | some k :: ks =>
    let s := { s with tokens := s.tokens.insertIdxIfInBounds k.tokens .key, keys := none :: ks }
    let s := s.roll k.column k.tokens .blockMappingStart
    some { s.mark .value 1 with keyAllowed := false }
  | _ =>
    if !s.inFlow && !s.keyAllowed then none
    else
      let s := s.roll s.cursor.column s.tokens.size .blockMappingStart
      some { s.mark .value 1 with keyAllowed := !s.inFlow }

/-- A scalar between quotation marks. -/
def quotedScalar (s : Scanner) (single : Bool) : Option Scanner := do
  let s ← s.saveKey
  let (text, c) ← quoted? single s.cursor
  pure { s.push (.scalar false (String.ofList text)) with cursor := c, keyAllowed := false }

/-- A scalar without quotation marks. -/
def plainScalar (s : Scanner) : Option Scanner := do
  let s ← s.saveKey
  let p ← plain? s.inFlow s.contentColumn s.cursor
  pure { s.push (.scalar true (String.ofList p.text)) with cursor := p.after, keyAllowed := p.broken }

/-- Whether a plain scalar may start with a text: not with an indicator, unless that is a
hyphen, a question mark or a colon right before a word. -/
def startsPlain (flow : Bool) : List Char → Bool
  | [] => false
  | x :: rest =>
    if x == '-' then !(rest.head?.any isSpace)
    else if x == '?' || x == ':' then !flow && !endsWord rest
    else !(isSpace x || isBreak x || "-?:,[]\x7b\x7d#&*!|>'\"%@\x60".toList.contains x)

/-- The next token. -/
def token (s : Scanner) : Option Scanner :=
  let rest := s.cursor.rest
  let s := if s.inFlow then s else unroll s.cursor.column s.indents s
  if s.cursor.isMarker '-' then s.document .documentStart
  else if s.cursor.isMarker '.' then s.document .documentEnd
  else
    match rest with
    | [] => none
    | x :: after =>
      if x == '%' && s.cursor.column == 0 then none
      else if x == '[' then s.flowStart .flowSequenceStart
      else if x == '\x7b' then s.flowStart .flowMappingStart
      else if x == ']' then s.flowEnd .flowSequenceEnd
      else if x == '\x7d' then s.flowEnd .flowMappingEnd
      else if x == ',' then s.flowEntry
      else if x == '-' && endsWord after then s.blockEntry
      else if x == '?' && (s.inFlow || endsWord after) then s.explicitKey
      else if x == ':' && (s.inFlow || endsWord after) then s.value
      else if x == '\'' then s.quotedScalar true
      else if x == '"' then s.quotedScalar false
      else if startsPlain s.inFlow rest then s.plainScalar
      else none

/-- All further tokens. -/
def finish : (fuel : Nat) → Scanner → Option (Array Token)
  | 0, _ => none
  | fuel + 1, s =>
    (toToken (s.cursor.rest.length + 1) s).dropStale.bind fun s =>
      if s.cursor.rest.isEmpty then s.unrollAll.dropKey.map (·.tokens)
      else s.token.bind (finish fuel)

end Scanner

/-- The tokens of a text. -/
def Token.scan? (text : String) : Option (List Token) :=
  let cs := text.toList
  if cs.all isPrintable then
    (Scanner.finish (cs.length + 1) { cursor := { rest := cs } }).map Array.toList
  else none

end DataplaneSync.Yaml
