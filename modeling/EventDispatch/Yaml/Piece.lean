import EventDispatch.Yaml.Token.Scan

/-!
# Pieces of a document

The content of a document is a bracketed row of pieces: scalars, aliases, and the starts and ends of
sequences and mappings; in a mapping, keys and values take turns. `Piece.ofTokens?` puts tokens into
this form. Where a key, a value or an entry is left out, an empty plain scalar takes its place.
-/

set_option autoImplicit false

namespace EventDispatch.Yaml

/-- A scalar with its tag and its style. -/
structure Scalar where
  text : List Char := []
  style : Style := .plain
  tag : Option Octets := none
  deriving DecidableEq, Repr, Inhabited

/-- A piece of a document. All but aliases and ends may set an anchor. -/
inductive Piece where
  | alias (name : List Char)
  | scalar (anchor : Option (List Char)) (value : Scalar)
  | sequenceStart (anchor : Option (List Char))
  | sequenceEnd
  | mappingStart (anchor : Option (List Char))
  | mappingEnd
  deriving DecidableEq, Repr, Inhabited

namespace Piece

/-- The scalar that stands for what is left out. -/
def empty : Piece := .scalar none {}

/-- Pieces read, and the tokens left. -/
abbrev Parsed := Except Fault (List Piece × List Token)

/-- Goes on after pieces were read. -/
def andThen (first : Parsed) (next : List Token → Parsed) : Parsed := do
  let (pieces, rest) ← first
  let (more, rest) ← next rest
  .ok (pieces ++ more, rest)

/-- Gives a piece that takes no token. -/
def put (p : Piece) (next : Parsed) : Parsed := do
  let (more, rest) ← next
  .ok (p :: more, rest)

/-- Whether the next token is one of `stops`. -/
def seesOneOf (stops : List Token) (tokens : List Token) : Bool :=
  tokens.head?.any stops.contains

/-- The anchor and the tag before a node, in either order, and the tokens after them. -/
def properties : List Token →
    Option (List Char) × Option (List Char × Octets) × List Token
  | .anchor name :: .tag handle suffix :: rest => (some name, some (handle, suffix), rest)
  | .tag handle suffix :: .anchor name :: rest => (some name, some (handle, suffix), rest)
  | .anchor name :: rest => (some name, none, rest)
  | .tag handle suffix :: rest => (none, some (handle, suffix), rest)
  | rest => (none, none, rest)

/-- What the handles of tags stand for, as declared by directives. -/
abbrev Handles := List (List Char × Octets)

/-- The text of a tag. A handle that is not declared is an error. -/
def resolveTag (handles : Handles) : List Char × Octets → Except Fault Octets
  | ([], suffix) => .ok suffix
  | (handle, suffix) =>
    match handles.find? (·.1 = handle) with
    | some (_, start) => .ok (start ++ suffix)
    | none => .error .tag

mutual

/-- Reads a node. Block collections are read only in block context; the entries of a sequence may
stand without indentation only as keys and values of a block mapping. -/
def node (handles : Handles) (block indentless : Bool) : Nat → List Token → Parsed
  | 0, _ => .error .unexpectedToken
  | fuel + 1, tokens =>
    match tokens with
    | .alias name :: rest => .ok ([.alias name], rest)
    | _ => do
      let (anchor, written, tokens) := properties tokens
      let tag ← written.mapM (resolveTag handles)
      match tokens with
      | .scalar text style :: rest => .ok ([.scalar anchor ⟨text, style, tag⟩], rest)
      | .flowSequenceStart :: rest =>
        put (.sequenceStart anchor) (flowSequence handles true fuel rest)
      | .flowMappingStart :: rest =>
        put (.mappingStart anchor) (flowMapping handles true fuel rest)
      | _ =>
        if indentless && seesOneOf [.blockEntry] tokens then
          put (.sequenceStart anchor) (indentlessSequence handles fuel tokens)
        else if block && seesOneOf [.blockSequenceStart] tokens then
          put (.sequenceStart anchor) (blockSequence handles fuel (tokens.drop 1))
        else if block && seesOneOf [.blockMappingStart] tokens then
          put (.mappingStart anchor) (blockMapping handles fuel (tokens.drop 1))
        else if anchor.isSome || tag.isSome then
          .ok ([.scalar anchor { tag }], tokens)
        else .error .unexpectedToken

/-- Reads the entries of a block sequence. -/
def blockSequence (handles : Handles) : Nat → List Token → Parsed
  | 0, _ => .error .unexpectedToken
  | fuel + 1, tokens =>
    match tokens with
    | .blockEntry :: rest =>
      if seesOneOf [.blockEntry, .blockEnd] rest then
        put empty (blockSequence handles fuel rest)
      else andThen (node handles true false fuel rest) (blockSequence handles fuel)
    | .blockEnd :: rest => .ok ([.sequenceEnd], rest)
    | _ => .error .unexpectedToken

/-- Reads the entries of a sequence that is not indented. -/
def indentlessSequence (handles : Handles) : Nat → List Token → Parsed
  | 0, _ => .error .unexpectedToken
  | fuel + 1, tokens =>
    match tokens with
    | .blockEntry :: rest =>
      if seesOneOf [.blockEntry, .key, .value, .blockEnd] rest then
        put empty (indentlessSequence handles fuel rest)
      else andThen (node handles true false fuel rest) (indentlessSequence handles fuel)
    | _ => .ok ([.sequenceEnd], tokens)

/-- Reads the entries of a block mapping, from a key on. -/
def blockMapping (handles : Handles) : Nat → List Token → Parsed
  | 0, _ => .error .unexpectedToken
  | fuel + 1, tokens =>
    match tokens with
    | .key :: rest =>
      if seesOneOf [.key, .value, .blockEnd] rest then
        put empty (blockMappingValue handles fuel rest)
      else andThen (node handles true true fuel rest) (blockMappingValue handles fuel)
    | .blockEnd :: rest => .ok ([.mappingEnd], rest)
    | _ => .error .unexpectedToken

/-- Reads the entries of a block mapping, from a value on. -/
def blockMappingValue (handles : Handles) : Nat → List Token → Parsed
  | 0, _ => .error .unexpectedToken
  | fuel + 1, tokens =>
    match tokens with
    | .value :: rest =>
      if seesOneOf [.key, .value, .blockEnd] rest then
        put empty (blockMapping handles fuel rest)
      else andThen (node handles true true fuel rest) (blockMapping handles fuel)
    | _ => put empty (blockMapping handles fuel tokens)

/-- Reads the entries of a flow sequence; a separator comes before each but the first. -/
def flowSequence (handles : Handles) (first : Bool) : Nat → List Token → Parsed
  | 0, _ => .error .unexpectedToken
  | fuel + 1, tokens =>
    match tokens, first with
    | .flowSequenceEnd :: rest, _ => .ok ([.sequenceEnd], rest)
    | .flowEntry :: rest, false => flowSequenceEntry handles fuel rest
    | _, true => flowSequenceEntry handles fuel tokens
    | _, false => .error .unexpectedToken

/-- Reads an entry of a flow sequence and what follows it. An entry with a key is a mapping of its
own. -/
def flowSequenceEntry (handles : Handles) : Nat → List Token → Parsed
  | 0, _ => .error .unexpectedToken
  | fuel + 1, tokens =>
    match tokens with
    | .flowSequenceEnd :: rest => .ok ([.sequenceEnd], rest)
    | .key :: rest =>
      put (.mappingStart none)
        (andThen (pairKey handles fuel rest) (flowSequence handles false fuel))
    | _ => andThen (node handles false false fuel tokens) (flowSequence handles false fuel)

/-- Reads a mapping of one pair inside a flow sequence, from its key on. A token that ends the key
before it starts is used up. -/
def pairKey (handles : Handles) : Nat → List Token → Parsed
  | 0, _ => .error .unexpectedToken
  | fuel + 1, tokens =>
    if seesOneOf [.value, .flowEntry, .flowSequenceEnd] tokens then
      put empty (pairValue handles fuel (tokens.drop 1))
    else andThen (node handles false false fuel tokens) (pairValue handles fuel)

/-- Reads the value of a mapping of one pair. -/
def pairValue (handles : Handles) : Nat → List Token → Parsed
  | 0, _ => .error .unexpectedToken
  | fuel + 1, tokens =>
    match tokens with
    | .value :: rest =>
      if seesOneOf [.flowEntry, .flowSequenceEnd] rest then .ok ([empty, .mappingEnd], rest)
      else andThen (node handles false false fuel rest) fun rest => .ok ([.mappingEnd], rest)
    | _ => .ok ([empty, .mappingEnd], tokens)

/-- Reads the entries of a flow mapping; a separator comes before each but the first. -/
def flowMapping (handles : Handles) (first : Bool) : Nat → List Token → Parsed
  | 0, _ => .error .unexpectedToken
  | fuel + 1, tokens =>
    match tokens, first with
    | .flowMappingEnd :: rest, _ => .ok ([.mappingEnd], rest)
    | .flowEntry :: rest, false => flowMappingEntry handles fuel rest
    | _, true => flowMappingEntry handles fuel tokens
    | _, false => .error .unexpectedToken

/-- Reads an entry of a flow mapping and what follows it. An entry without a key indicator has no
value. -/
def flowMappingEntry (handles : Handles) : Nat → List Token → Parsed
  | 0, _ => .error .unexpectedToken
  | fuel + 1, tokens =>
    match tokens with
    | .flowMappingEnd :: rest => .ok ([.mappingEnd], rest)
    | .key :: rest =>
      if seesOneOf [.value, .flowEntry, .flowMappingEnd] rest then
        put empty (flowMappingValue handles fuel rest)
      else andThen (node handles false false fuel rest) (flowMappingValue handles fuel)
    | _ =>
      andThen (node handles false false fuel tokens) fun rest =>
        put empty (flowMapping handles false fuel rest)

/-- Reads the value of an entry of a flow mapping and what follows it. -/
def flowMappingValue (handles : Handles) : Nat → List Token → Parsed
  | 0, _ => .error .unexpectedToken
  | fuel + 1, tokens =>
    match tokens with
    | .value :: rest =>
      if seesOneOf [.flowEntry, .flowMappingEnd] rest then
        put empty (flowMapping handles false fuel rest)
      else andThen (node handles false false fuel rest) (flowMapping handles false fuel)
    | _ => put empty (flowMapping handles false fuel tokens)

end

/-- The handles that need no directive. -/
def standardHandles : Handles :=
  [("!".toList, "!".toUTF8.toList), ("!!".toList, "tag:yaml.org,2002:".toUTF8.toList)]

/-- Reads the directives before a document: at most one version, and each handle once. -/
def directives (versioned : Bool) (handles : Handles) :
    List Token → Except Fault (Handles × List Token)
  | .versionDirective major minor :: rest =>
    if versioned || major ≠ 1 || (minor ≠ 1 && minor ≠ 2) then .error .directive
    else directives true handles rest
  | .tagDirective handle start :: rest =>
    if handles.any (·.1 = handle) then .error .directive
    else directives versioned (handles ++ [(handle, start)]) rest
  | rest => .ok (handles, rest)

/-- Whether a token belongs to the frame of a document and not to its content. -/
def isFrame : Token → Bool
  | .versionDirective .. | .tagDirective .. | .documentStart | .documentEnd => true
  | _ => false

/-- Reads the content of the first document. -/
def content (tokens : List Token) : Parsed := do
  let fuel := 4 * (tokens.length + 2)
  let (handles, rest) ← directives false [] tokens
  let handles := handles ++ standardHandles
  match rest with
  | .documentStart :: rest =>
    if rest.head?.all isFrame then .ok ([empty], rest)
    else node handles true false fuel rest
  | _ =>
    if rest.length = tokens.length then node handles true false fuel tokens
    else .error .unexpectedToken

/-- The pieces of the only document that the tokens hold; no pieces if they hold none. -/
def ofTokens? (tokens : List Token) : Except Fault (List Piece) :=
  if tokens.isEmpty then .ok []
  else do
    let (pieces, rest) ← content tokens
    -- Lines that end the document may follow it, and nothing else.
    if (rest.dropWhile (· = .documentEnd)).isEmpty then .ok pieces
    else .error .furtherDocument

end Piece

end EventDispatch.Yaml
