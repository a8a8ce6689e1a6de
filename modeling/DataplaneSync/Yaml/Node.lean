import DataplaneSync.Document
import DataplaneSync.Text.Numeral
import DataplaneSync.Yaml.Token

namespace DataplaneSync.Yaml

/-!
# YAML documents

* `Node` — scalars, sequences and mappings.
* `Node.parse?` — the only document of a text.
* Nodes are documents that configurations can be read from.  What a plain scalar means depends
  on the value that is expected; a quoted scalar is always a text.
-/

/-- A value of a YAML document. -/
inductive Node where
  /-- The content of a text without document. -/
  | nothing
  /-- A scalar, which is plain if it has no quotation marks. -/
  | scalar (plain : Bool) (text : String)
  | sequence (items : List Node)
  | mapping (pairs : List (Node × Node))

namespace Node

instance : Inhabited Node := ⟨.nothing⟩

/-- A scalar that is not written. -/
def empty : Node := .scalar true ""

/-! ### From tokens -/

/-- Whether no value stands before a token of a block mapping. -/
def endsBlockValue : List Token → Bool
  | .key :: _ => true
  | .value :: _ => true
  | .blockEnd :: _ => true
  | _ => false

/-- Whether no value stands before a token of a flow mapping. -/
def endsFlowValue : List Token → Bool
  | .flowEntry :: _ => true
  | .flowMappingEnd :: _ => true
  | _ => false

/-- Whether no value stands before a token of a pair in a flow sequence. -/
def endsPairValue : List Token → Bool
  | .flowEntry :: _ => true
  | .flowSequenceEnd :: _ => true
  | _ => false

/-- The tokens behind a value mark, if there is one. -/
def behindValue? : List Token → Option (List Token)
  | .value :: rest => some rest
  | _ => none

mutual

/-- A node.  In a block it may be a block collection, and as part of a block mapping it may be a
sequence that is not indented. -/
def node : (fuel : Nat) → (block indentless : Bool) → List Token → Option (Node × List Token)
  | 0, _, _, _ => none
  | fuel + 1, block, indentless, ts =>
    match ts with
    | .scalar plain text :: rest => some (.scalar plain text, rest)
    | .flowSequenceStart :: rest =>
      (flowItems fuel true rest).map fun (xs, r) => (.sequence xs, r)
    | .flowMappingStart :: rest =>
      (flowPairs fuel true rest).map fun (xs, r) => (.mapping xs, r)
    | .blockSequenceStart :: rest =>
      if block then (blockItems fuel rest).map fun (xs, r) => (.sequence xs, r) else none
    | .blockMappingStart :: rest =>
      if block then (blockPairs fuel rest).map fun (xs, r) => (.mapping xs, r) else none
    | .blockEntry :: rest =>
      if indentless then
        (plainItems fuel (.blockEntry :: rest)).map fun (xs, r) => (.sequence xs, r)
      else none
    | _ => none

/-- The items of a block sequence. -/
def blockItems : (fuel : Nat) → List Token → Option (List Node × List Token)
  | 0, _ => none
  | fuel + 1, ts =>
    match ts with
    | .blockEnd :: rest => some ([], rest)
    | .blockEntry :: rest => do
      let (x, rest) ← match rest with
        | .blockEntry :: _ => some (empty, rest)
        | .blockEnd :: _ => some (empty, rest)
        | _ => node fuel true false rest
      let (xs, rest) ← blockItems fuel rest
      pure (x :: xs, rest)
    | _ => none

/-- The items of a sequence that is not indented. -/
def plainItems : (fuel : Nat) → List Token → Option (List Node × List Token)
  | 0, _ => none
  | fuel + 1, ts =>
    match ts with
    | .blockEntry :: rest => do
      let (x, rest) ← match rest with
        | .blockEntry :: _ => some (empty, rest)
        | _ => if endsBlockValue rest then some (empty, rest) else node fuel true false rest
      let (xs, rest) ← plainItems fuel rest
      pure (x :: xs, rest)
    | _ => some ([], ts)

/-- The pairs of a block mapping. -/
def blockPairs : (fuel : Nat) → List Token → Option (List (Node × Node) × List Token)
  | 0, _ => none
  | fuel + 1, ts =>
    match ts with
    | .blockEnd :: rest => some ([], rest)
    | .key :: rest => do
      let (k, rest) ← if endsBlockValue rest then some (empty, rest) else node fuel true true rest
      let (v, rest) ← match behindValue? rest with
        | none => some (empty, rest)
        | some rest =>
          if endsBlockValue rest then some (empty, rest) else node fuel true true rest
      let (xs, rest) ← blockPairs fuel rest
      pure ((k, v) :: xs, rest)
    | _ => none

/-- The items of a flow sequence; a comma precedes all but the first. -/
def flowItems : (fuel : Nat) → (first : Bool) → List Token → Option (List Node × List Token)
  | 0, _, _ => none
  | fuel + 1, first, ts =>
    match ts with
    | .flowSequenceEnd :: rest => some ([], rest)
    | _ => do
      let ts ← match first, ts with
        | true, ts => some ts
        | false, .flowEntry :: rest => some rest
        | false, _ => none
      match ts with
      | .flowSequenceEnd :: rest => pure ([], rest)
      | .key :: rest =>
        let (x, rest) ← pair fuel rest
        let (xs, rest) ← flowItems fuel false rest
        pure (x :: xs, rest)
      | _ =>
        let (x, rest) ← node fuel false false ts
        let (xs, rest) ← flowItems fuel false rest
        pure (x :: xs, rest)

/-- A mapping of one pair in a flow sequence, behind its key mark.  A missing key takes the next
mark along. -/
def pair : (fuel : Nat) → List Token → Option (Node × List Token)
  | 0, _ => none
  | fuel + 1, ts => do
    let (k, rest) ←
      if endsPairValue ts || (behindValue? ts).isSome then some (empty, ts.drop 1)
      else node fuel false false ts
    let (v, rest) ← match behindValue? rest with
      | none => some (empty, rest)
      | some rest => if endsPairValue rest then some (empty, rest) else node fuel false false rest
    pure (.mapping [(k, v)], rest)

/-- The pairs of a flow mapping; a comma precedes all but the first. -/
def flowPairs : (fuel : Nat) → (first : Bool) → List Token → Option (List (Node × Node) × List Token)
  | 0, _, _ => none
  | fuel + 1, first, ts =>
    match ts with
    | .flowMappingEnd :: rest => some ([], rest)
    | _ => do
      let ts ← match first, ts with
        | true, ts => some ts
        | false, .flowEntry :: rest => some rest
        | false, _ => none
      match ts with
      | .flowMappingEnd :: rest => pure ([], rest)
      | .key :: rest =>
        let (k, rest) ←
          if endsFlowValue rest || (behindValue? rest).isSome then some (empty, rest)
          else node fuel false false rest
        let (v, rest) ← match behindValue? rest with
          | none => some (empty, rest)
          | some rest =>
            if endsFlowValue rest then some (empty, rest) else node fuel false false rest
        let (xs, rest) ← flowPairs fuel false rest
        pure ((k, v) :: xs, rest)
      | _ =>
        let (k, rest) ← node fuel false false ts
        let (xs, rest) ← flowPairs fuel false rest
        pure ((k, empty) :: xs, rest)

end

/-- Whether there is no content before a token. -/
def endsContent : List Token → Bool
  | [] => true
  | .documentStart :: _ => true
  | .documentEnd :: _ => true
  | _ => false

/-- The only document of a list of tokens.  Only the end marks of documents may follow it. -/
def ofTokens? (ts : List Token) : Option Node := do
  let fuel := 2 * ts.length + 2
  let (x, rest) ← match ts with
    | [] => some (.nothing, [])
    | .documentStart :: rest =>
      if endsContent rest then some (empty, rest) else node fuel true false rest
    | _ => node fuel true false ts
  if (rest.dropWhile (· == .documentEnd)).isEmpty then some x else none

/-- The only document of a text. -/
def parse? (text : String) : Option Node := (Token.scan? text).bind ofTokens?

/-! ### What a node stands for -/

/-- The number that a plain scalar spells: in decimal without leading zeros, or behind `0x`, `0o`
or `0b`, with an optional plus sign. -/
def numeral? (text : String) : Option Nat :=
  let cs := match text.toList with
    | '+' :: rest => rest
    | cs => cs
  let inDecimal (cs : List Char) : Option Nat :=
    if 1 < cs.length && cs.head? == some '0' then none else Text.value? 10 cs
  match cs with
  | '0' :: 'x' :: rest => Text.value? 16 rest
  | '0' :: 'o' :: rest => Text.value? 8 rest
  | '0' :: 'b' :: rest => Text.value? 2 rest
  | cs => inDecimal cs

/-- A 32-bit number. -/
def asWord? : Node → Option UInt32
  | .scalar true text =>
    (numeral? text).bind fun n => if n < UInt32.size then some (UInt32.ofNat n) else none
  | _ => none

/-- A truth value. -/
def asFlag? : Node → Option Bool
  | .scalar true text =>
    if text ∈ ["true", "True", "TRUE"] then some true
    else if text ∈ ["false", "False", "FALSE"] then some false
    else none
  | _ => none

/-- A text: any scalar as it is written. -/
def asText? : Node → Option String
  | .scalar _ text => some text
  | _ => none

/-- Whether an optional value is missing. -/
def isMissing : Node → Bool
  | .nothing => true
  | .scalar true text => text ∈ ["", "~", "null", "Null", "NULL"]
  | _ => false

/-- A list; a value that is not written is an empty one. -/
def asItems? : Node → Option (List Node)
  | .sequence items => some items
  | .nothing => some []
  | .scalar true "" => some []
  | _ => none

/-- The members of a mapping, all of whose keys are scalars; a value that is not written has
none. -/
def asMembers? : Node → Option (List (String × Node))
  | .mapping pairs => pairs.mapM fun (k, v) => (asText? k).map fun name => (name, v)
  | .nothing => some []
  | .scalar true "" => some []
  | _ => none

instance : Document Node where
  text? := asText?
  word? := asWord?
  flag? := asFlag?
  alternative? := asText?
  isAbsent := isMissing
  items? := asItems?
  members? := asMembers?

end Node

end DataplaneSync.Yaml
