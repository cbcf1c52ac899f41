import Telemetry.Yaml.Token

/-!
# YAML documents

A document is a tree of nodes. A node may be named, and an alias stands for a node that has a name;
that node may be one around the alias, so aliases are kept and looked up when they are read. A
text holds at most one document, and no document at all is not the same as an empty one.

Each name has a number, which is how many different names there were when it was given. So a name
that is given again may share its number with one that is given later. An alias stands for the
node that started last of all with the number that the alias has.
-/

namespace Telemetry.Yaml

/-- A node. -/
inductive Node where
  /-- A scalar with its tag, which is empty if it has none. -/
  | scalar (tag : Bytes) (style : ScalarStyle) (text : String)
  | alias (number : Nat)
  | sequence (items : List Node)
  | mapping (entries : List (Node × Node))

/-- A document: its root, and the nodes that the numbers of names stand for. -/
structure Document where
  root : Node
  named : List (Nat × Node)

/-- The node that an alias stands for, and any other node itself. -/
def Document.resolve (d : Document) : Node → Node
  | .alias number => (d.named.lookup number).getD (.alias number)
  | node => node

/-- What is known while nodes are read. -/
structure Reading where
  tokens : List Token
  /-- The numbers of names, the latest first. -/
  anchors : List (String × Nat)
  /-- The number of different names. -/
  count : Nat
  /-- The numbers of the nodes that have started with a name, the latest first. -/
  started : List Nat
  /-- The named nodes that are complete, with how many had started before each. -/
  named : List (Nat × Node)
  /-- What the handles of tags stand for. -/
  handles : List (String × Bytes)

/-- A reader of nodes. It fails where the tokens make no document. -/
abbrev NodeReader (α : Type) := StateT Reading Option α

namespace NodeReader

/-- The next token. -/
def peek : NodeReader (Option Token) := fun s =>
  some (s.tokens.head?, s)

/-- Skips the next token. -/
def skip : NodeReader Unit := fun s =>
  some ((), { s with tokens := s.tokens.tail })

/-- Skips the next token if it is the given one, and says whether it was. -/
def skipIf (t : Token) : NodeReader Bool := do
  if (← peek) = some t then
    skip
    pure true
  else pure false

/-- Skips the next token if it is one of the given ones, and says whether it was. -/
def skipIfAny (ts : List Token) : NodeReader Bool := do
  let next ← peek
  if ts.any fun t => next = some t then
    skip
    pure true
  else pure false

/-- Skips the next token, which has to be the given one. -/
def expect (t : Token) : NodeReader Unit := do
  if !(← skipIf t) then failure

/-- Reads a name, if one is given here. -/
def ownName? : NodeReader (Option String) := do
  match ← peek with
  | some (.anchor name) =>
    skip
    pure (some name)
  | _ => pure none

/-- The tag of a handle and a suffix. A handle that stands for nothing is an error. -/
def resolveTag (handle : String) (suffix : Bytes) : NodeReader Bytes := fun s =>
  if handle = "" then some (suffix, s)
  else (s.handles.lookup handle).map fun beginning => (beginning ++ suffix, s)

/-- Reads a tag, if one is given here. -/
def ownTag? : NodeReader (Option Bytes) := do
  match ← peek with
  | some (.tag handle suffix) =>
    skip
    some <$> resolveTag handle suffix
  | _ => pure none

/-- Gives a name to the node that starts here, and returns how many named nodes started before. -/
def startNamed (name : String) : NodeReader Nat := fun s =>
  let isNew := (s.anchors.lookup name).isNone
  some (s.started.length,
    { s with
      anchors := (name, s.count) :: s.anchors
      count := if isNew then s.count + 1 else s.count
      started := s.count :: s.started })

/-- Keeps a node that a name was given to, with how many named nodes started before it. -/
def keepNamed (before : Nat) (node : Node) : NodeReader Unit := fun s =>
  some ((), { s with named := (before, node) :: s.named })

/-- The number of a name. A name that was not given is an error. -/
def lookup (name : String) : NodeReader Nat := fun s =>
  (s.anchors.lookup name).map fun number => (number, s)

end NodeReader

/-- The nodes by the numbers of their names, those that started last in front. -/
def Reading.nodes (s : Reading) : List (Nat × Node) :=
  s.started.zipIdx.filterMap fun (number, later) =>
    (s.named.lookup (s.started.length - 1 - later)).map fun node => (number, node)

namespace Node

open NodeReader

/-- The node where none is written. -/
def blank : Node := .scalar [] .plain ""

mutual

/-- Reads a node. Block collections are allowed outside of flow collections only, and entries of
the same column as their key only as a value. Of four calls inside each other
one takes a token. -/
def read : Nat → Bool → Bool → NodeReader Node
  | 0, _, _ => failure
  | fuel + 1, inBlock, mayIndentLess => do
    if let some (.alias name) ← peek then
      skip
      Node.alias <$> lookup name
    else
      -- A name and a tag may come in either order, so a name is looked for twice.
      let first ← ownName?
      let tag ← ownTag?
      let name := first.or (← if first.isNone && tag.isSome then ownName? else pure none)
      -- The name is known inside its own node, which an alias in there stands for.
      let before ← name.mapM startNamed
      let node ← readContent fuel inBlock mayIndentLess (name.isSome || tag.isSome) (tag.getD [])
      if let some before := before then keepNamed before node
      pure node

/-- Reads a node behind its name and tag. If it has one of them, nothing more is needed. -/
def readContent : Nat → Bool → Bool → Bool → Bytes → NodeReader Node
  | 0, _, _, _, _ => failure
  | fuel + 1, inBlock, mayIndentLess, mayBeBlank, tag => do
    match ← peek with
    | some .blockEntry =>
      if mayIndentLess then .sequence <$> readIndentLess fuel
      else if mayBeBlank then pure (.scalar tag .plain "")
      else failure
    | some (.scalar style text) =>
      skip
      pure (.scalar tag style text)
    | some .flowSequenceStart =>
      skip
      .sequence <$> readFlowSequence fuel true
    | some .flowMappingStart =>
      skip
      .mapping <$> readFlowMapping fuel true
    | some .blockSequenceStart =>
      if inBlock then
        skip
        .sequence <$> readBlockSequence fuel
      else if mayBeBlank then pure (.scalar tag .plain "")
      else failure
    | some .blockMappingStart =>
      if inBlock then
        skip
        .mapping <$> readBlockMapping fuel
      else if mayBeBlank then pure (.scalar tag .plain "")
      else failure
    | _ => if mayBeBlank then pure (.scalar tag .plain "") else failure

/-- Reads a node unless one of the given tokens follows. -/
def readUnless : Nat → Bool → Bool → List Token → NodeReader Node
  | 0, _, _, _ => failure
  | fuel + 1, inBlock, mayIndentLess, ends => do
    let next ← peek
    if ends.any fun t => next = some t then pure blank else read fuel inBlock mayIndentLess

/-- Reads the entries of a block sequence. -/
def readBlockSequence : Nat → NodeReader (List Node)
  | 0 => failure
  | fuel + 1 => do
    if ← skipIf .blockEnd then pure []
    else
      expect .blockEntry
      let item ← readUnless fuel true false [.blockEntry, .blockEnd]
      let more ← readBlockSequence fuel
      pure (item :: more)

/-- Reads entries that stand in the same column as the key they belong to. -/
def readIndentLess : Nat → NodeReader (List Node)
  | 0 => failure
  | fuel + 1 => do
    if ← skipIf .blockEntry then
      let item ← readUnless fuel true false [.blockEntry, .key, .value, .blockEnd]
      let more ← readIndentLess fuel
      pure (item :: more)
    else pure []

/-- Reads the entries of a block mapping. -/
def readBlockMapping : Nat → NodeReader (List (Node × Node))
  | 0 => failure
  | fuel + 1 => do
    if ← skipIf .blockEnd then pure []
    else
      expect .key
      let key ← readUnless fuel true true [.key, .value, .blockEnd]
      let value ←
        if ← skipIf .value then readUnless fuel true true [.key, .value, .blockEnd]
        else pure blank
      let more ← readBlockMapping fuel
      pure ((key, value) :: more)

/-- Reads the items of a flow sequence. An item may be a single entry of a mapping. Where its key
is left out, the token that follows the mark of the key is taken for it. -/
def readFlowSequence : Nat → Bool → NodeReader (List Node)
  | 0, _ => failure
  | fuel + 1, isFirst => do
    if ← skipIf .flowSequenceEnd then pure []
    else
      if !isFirst then expect .flowEntry
      -- A comma may stand behind the last item.
      if ← skipIf .flowSequenceEnd then pure []
      else
        let item ←
          if ← skipIf .key then do
            let key ←
              if ← skipIfAny [.value, .flowEntry, .flowSequenceEnd] then pure blank
              else read fuel false false
            let value ←
              if ← skipIf .value then
                readUnless fuel false false [.flowEntry, .flowSequenceEnd]
              else pure blank
            pure (.mapping [(key, value)])
          else read fuel false false
        let more ← readFlowSequence fuel false
        pure (item :: more)

/-- Reads the entries of a flow mapping. A key may stand without a value. -/
def readFlowMapping : Nat → Bool → NodeReader (List (Node × Node))
  | 0, _ => failure
  | fuel + 1, isFirst => do
    if ← skipIf .flowMappingEnd then pure []
    else
      if !isFirst then expect .flowEntry
      -- A comma may stand behind the last entry.
      if ← skipIf .flowMappingEnd then pure []
      else
        let entry ←
          if ← skipIf .key then do
            let key ← readUnless fuel false false [.value, .flowEntry, .flowMappingEnd]
            let value ←
              if ← skipIf .value then
                readUnless fuel false false [.flowEntry, .flowMappingEnd]
              else pure blank
            pure (key, value)
          else do
            let key ← read fuel false false
            pure (key, blank)
        let more ← readFlowMapping fuel false
        pure (entry :: more)

end

end Node

namespace Document

open NodeReader

/-- Reads the directives in front of a document. There is at most one version, which is 1.1 or
1.2, and no handle is given twice. -/
def readDirectives : Nat → Bool → List String → NodeReader Unit
  | 0, _, _ => failure
  | fuel + 1, hasVersion, given => do
    match ← peek with
    | some (.version major minor) =>
      if hasVersion || major != 1 || (minor != 1 && minor != 2) then failure
      skip
      readDirectives fuel true given
    | some (.tagHandle handle beginning) =>
      if given.contains handle then failure
      skip
      modify fun s => { s with handles := (handle, beginning) :: s.handles }
      readDirectives fuel hasVersion (handle :: given)
    | _ => pure ()

/-- Skips the marks of the end of a document. -/
def skipEnds : Nat → NodeReader Unit
  | 0 => pure ()
  | fuel + 1 => do if ← skipIf .documentEnd then skipEnds fuel

/-- Reads the root of a document. Directives have to be followed by the mark of a start. -/
def readRoot (fuel : Nat) : NodeReader Node := do
  match ← peek with
  | some (.version ..) | some (.tagHandle ..) | some .documentStart =>
    readDirectives fuel false []
    expect .documentStart
    match ← peek with
    | none | some (.version ..) | some (.tagHandle ..) | some .documentStart
    | some .documentEnd => pure .blank
    | _ => Node.read fuel true false
  | _ => Node.read fuel true false

/-- The handles that every document has. -/
def usualHandles : List (String × Bytes) :=
  [("!", Text.utf8 "!"), ("!!", Text.utf8 "tag:yaml.org,2002:")]

/-- Reads the only document of some tokens. -/
def ofTokens? (tokens : List Token) : Option (Option Document) := do
  if tokens.isEmpty then some none
  else
    let fuel := 4 * tokens.length + 4
    let start : Reading := ⟨tokens, [], 0, [], [], usualHandles⟩
    let (root, s) ← readRoot fuel start
    let ((), s) ← skipEnds fuel s
    if s.tokens.isEmpty then some (some ⟨root, s.nodes⟩) else none

/-- The document that a text holds, if it holds one. It fails on a text that is no YAML. -/
def ofText? (text : String) : Option (Option Document) :=
  (tokens? text).bind ofTokens?

end Document

end Telemetry.Yaml
