import Workflow.Yaml.Kind
import Workflow.Yaml.Token

/-!
# Nodes of YAML

A document is made of nodes: scalars, sequences and mappings. A node that was given a name may stand in
several places, and even inside itself; so nodes are numbered, and refer to each other by number.
-/

namespace Workflow.Yaml

/-- A node of a document, with the numbers of its parts. -/
inductive Node where
  | scalar (kind : Kind) (text : String)
  | sequence (kind : Kind) (items : List Nat)
  | mapping (kind : Kind) (entries : List (Nat × Nat))

namespace Node

/-- The kind of a node. -/
def kind : Node → Kind
  | .scalar kind _ => kind
  | .sequence kind _ => kind
  | .mapping kind _ => kind

/-- A scalar that is not written. -/
def absent : Node := .scalar .null ""

end Node

/-- The nodes of a document by their numbers, and the number of the outermost one. -/
structure Graph where
  nodes : Array Node
  root : Nat

/-- What is known while nodes are read: the tokens that are left and what becomes of reading after them,
the handles of tags, the numbers of the named nodes, and the nodes. -/
structure Composer where
  tokens : List Token
  error : Option YamlError
  handles : List (String × String)
  named : List (String × Nat)
  nodes : Array Node

/-- Reading nodes. -/
abbrev Compose := StateT Composer (Except YamlError)

namespace Compose

/-- Refuses the document. -/
def refuse {α : Type} : Compose α := throw .malformed

/-- The next token, if there is one. -/
def next? : Compose (Option Token) := do
  let composer ← get
  match composer.tokens, composer.error with
  | [], some error => throw error
  | tokens, _ => return tokens.head?

/-- Goes past the next token. -/
def drop : Compose Unit := modify fun composer => { composer with tokens := composer.tokens.drop 1 }

/-- Goes past the next token and gives the one after it. -/
def dropped : Compose (Option Token) := do
  drop
  next?

/-- Adds a node, and gives its number. -/
def add (node : Node) : Compose Nat :=
  modifyGet fun composer =>
    (composer.nodes.size, { composer with nodes := composer.nodes.push node })

/-- Puts a node in the place of the one with a number. -/
def settle (number : Nat) (node : Node) : Compose Nat :=
  modifyGet fun composer =>
    (number, { composer with nodes := composer.nodes.setIfInBounds number node })

/-- Adds a scalar that is not written. -/
def absent : Compose Nat := add .absent

/-- What stands before a node. -/
structure Properties where
  anchor : Option String
  tag : Option String

/-- The tag that a handle and the rest of it make. -/
def resolveTag (handle : Option String) (rest : String) : Compose String := do
  match handle with
  | none => pure rest
  | some handle =>
    match (← get).handles.lookup handle with
    | some replacement => pure (replacement ++ rest)
    | none => refuse

/-- Reads the anchor and the tag before a node, in any order. -/
def properties : Compose Properties := do
  match ← next? with
  | some (.anchor anchor) =>
    match ← dropped with
    | some (.tag handle rest) => do
      drop
      pure ⟨some anchor, some (← resolveTag handle rest)⟩
    | _ => pure ⟨some anchor, none⟩
  | some (.tag handle rest) =>
    match ← dropped with
    | some (.anchor anchor) => do
      drop
      pure ⟨some anchor, some (← resolveTag handle rest)⟩
    | _ => pure ⟨none, some (← resolveTag handle rest)⟩
  | _ => pure ⟨none, none⟩

/-- The kind that a tag tells, or the given one if it tells none. -/
def kindOr (tag : Option String) (default : Kind) : Kind :=
  match tag with
  | none => default
  | some "!" => default
  | some tag => .ofTag tag

/-- The scalar of a text. A tag of a single mark makes it count as plain. -/
def scalarNode (tag : Option String) (text : String) (isPlain : Bool) : Node :=
  let form := if isPlain && tag.isNone || tag = some "!" then plainKind text else .text
  .scalar (kindOr tag form) text

/-- Adds a node under its name, if it has one. -/
def addNamed (anchor : Option String) (node : Node) : Compose Nat := do
  let number ← add node
  match anchor with
  | none => pure number
  | some name => do
    modify fun composer => { composer with named := (name, number) :: composer.named }
    pure number

/-- The items of a sequence or the entries of a mapping that end where another kind of token follows. -/
def endsNode (tokens : List Token) : Token → Bool := fun token =>
  tokens.any fun other => match other, token with
    | .blockEntry, .blockEntry | .key, .key | .value, .value | .blockEnd, .blockEnd
    | .flowEntry, .flowEntry | .flowSequenceEnd, .flowSequenceEnd
    | .flowMappingEnd, .flowMappingEnd => true
    | _, _ => false

/-- The empty scalar that an anchor or a tag alone stands for. -/
def emptyNode (properties : Properties) : Compose Nat :=
  if properties.anchor.isSome || properties.tag.isSome then
    addNamed properties.anchor (scalarNode properties.tag "" true)
  else refuse

mutual

/-- Reads a node. Blocks may begin only where `inBlock` says so, and a sequence without an indentation of
its own only where `indentless` does. -/
def node (inBlock indentless : Bool) : (fuel : Nat) → Compose Nat
  | 0 => refuse
  | fuel + 1 => do
    match ← next? with
    | some (.alias name) => do
      drop
      match (← get).named.lookup name with
      | some number => pure number
      | none => refuse
    | _ => do
      let properties ← properties
      let upcoming ← next?
      let named := (← get).named
      if properties.anchor.any fun name => (named.lookup name).isSome then refuse
      let sequence (items : Compose (List Nat)) : Compose Nat := do
        let kind := kindOr properties.tag .sequence
        let number ← addNamed properties.anchor (.sequence kind [])
        settle number (.sequence kind (← items))
      let mapping (entries : Compose (List (Nat × Nat))) : Compose Nat := do
        let kind := kindOr properties.tag .mapping
        let number ← addNamed properties.anchor (.mapping kind [])
        settle number (.mapping kind (← entries))
      match upcoming with
      | some .blockEntry =>
        if indentless then sequence (indentlessItems fuel) else emptyNode properties
      | some (.scalar text isPlain) => do
        drop
        addNamed properties.anchor (scalarNode properties.tag text isPlain)
      | some .flowSequenceStart => do
        drop
        sequence (flowItems true fuel)
      | some .flowMappingStart => do
        drop
        mapping (flowEntries true fuel)
      | some .blockSequenceStart =>
        if inBlock then do
          drop
          sequence (blockItems fuel)
        else emptyNode properties
      | some .blockMappingStart =>
        if inBlock then do
          drop
          mapping (blockEntries fuel)
        else emptyNode properties
      | _ => emptyNode properties

/-- Reads a node unless one of the given tokens follows, in which case it is absent. -/
def nodeUnless (stops : List Token) (inBlock indentless : Bool) : (fuel : Nat) → Compose Nat
  | 0 => refuse
  | fuel + 1 => do
    match ← next? with
    | some token =>
      if endsNode stops token then absent else node inBlock indentless fuel
    | none => node inBlock indentless fuel

/-- Reads the items of a block. -/
def blockItems : (fuel : Nat) → Compose (List Nat)
  | 0 => refuse
  | fuel + 1 => do
    match ← next? with
    | some .blockEntry => do
      drop
      let item ← nodeUnless [.blockEntry, .blockEnd] true false fuel
      return item :: (← blockItems fuel)
    | some .blockEnd => do
      drop
      pure []
    | _ => refuse

/-- Reads the items of a sequence that has no indentation of its own. -/
def indentlessItems : (fuel : Nat) → Compose (List Nat)
  | 0 => refuse
  | fuel + 1 => do
    match ← next? with
    | some .blockEntry => do
      drop
      let item ← nodeUnless [.blockEntry, .key, .value, .blockEnd] true false fuel
      return item :: (← indentlessItems fuel)
    | _ => pure []

/-- Reads the entries of a block. -/
def blockEntries : (fuel : Nat) → Compose (List (Nat × Nat))
  | 0 => refuse
  | fuel + 1 => do
    let stops := [Token.key, .value, .blockEnd]
    match ← next? with
    | some .key => do
      drop
      let key ← nodeUnless stops true true fuel
      match ← next? with
      | some .value => do
        drop
        let value ← nodeUnless stops true true fuel
        return (key, value) :: (← blockEntries fuel)
      | _ => return (key, ← absent) :: (← blockEntries fuel)
    | some .blockEnd => do
      drop
      pure []
    | _ => refuse

/-- Reads the value of a key between brackets, which may be absent. -/
def flowValue (stops : List Token) : (fuel : Nat) → Compose Nat
  | 0 => refuse
  | fuel + 1 => do
    match ← next? with
    | some .value => do
      drop
      nodeUnless stops false false fuel
    | _ => absent

/-- Reads the rest of the items between brackets; all but the first follow a comma. -/
def flowItems (first : Bool) : (fuel : Nat) → Compose (List Nat)
  | 0 => refuse
  | fuel + 1 => do
    match ← next? with
    | some .flowSequenceEnd => do
      drop
      pure []
    | upcoming => do
      if !first then
        match upcoming with
        | some .flowEntry => drop
        | _ => refuse
      match ← next? with
      | some .key => do
        drop
        let stops := [Token.flowEntry, .flowSequenceEnd]
        let key ← nodeUnless (.value :: stops) false false fuel
        let value ← flowValue stops fuel
        let pair ← add (.mapping .mapping [(key, value)])
        return pair :: (← flowItems false fuel)
      | some .flowSequenceEnd => do
        drop
        pure []
      | _ => do
        let item ← node false false fuel
        return item :: (← flowItems false fuel)

/-- Reads the rest of the entries between brackets; all but the first follow a comma. -/
def flowEntries (first : Bool) : (fuel : Nat) → Compose (List (Nat × Nat))
  | 0 => refuse
  | fuel + 1 => do
    match ← next? with
    | some .flowMappingEnd => do
      drop
      pure []
    | upcoming => do
      if !first then
        match upcoming with
        | some .flowEntry => drop
        | _ => refuse
      match ← next? with
      | some .key => do
        drop
        let stops := [Token.flowEntry, .flowMappingEnd]
        let key ← nodeUnless (.value :: stops) false false fuel
        let value ← flowValue stops fuel
        return (key, value) :: (← flowEntries false fuel)
      | some .flowMappingEnd => do
        drop
        pure []
      | _ => do
        let key ← node false false fuel
        return (key, ← absent) :: (← flowEntries false fuel)

end

/-- The handles that all documents know. -/
def sharedHandles : List (String × String) :=
  [("!", "!"), ("!!", Kind.sharedTags)]

/-- Reads the directives before a document. -/
def directives (version : Option Nat) (handles : List (String × String)) :
    (fuel : Nat) → Compose (List (String × String))
  | 0 => refuse
  | fuel + 1 => do
    match ← next? with
    | some (.directive directive) => do
      drop
      match directive with
      | .version major =>
        if version.isSome || major ≠ 1 then refuse else directives (some major) handles fuel
      | .handle handle replacement =>
        if (handles.lookup handle).isSome then refuse
        else directives version ((handle, replacement) :: handles) fuel
      | .unknown => directives version handles fuel
    | _ => pure (handles ++ sharedHandles)

/-- Goes past marks that end a document. -/
def skipEnds : (fuel : Nat) → Compose Unit
  | 0 => pure ()
  | fuel + 1 => do
    match ← next? with
    | some .documentEnd => do
      drop
      skipEnds fuel
    | _ => pure ()

/-- Reads the only document; there is none in an empty text. After it nothing may follow. -/
def document (fuel : Nat) : Compose (Option Nat) := do
  let root ← match ← next? with
    | none => pure none
    | some (.directive _) | some .documentStart => do
      let handles ← directives none [] fuel
      match ← next? with
      | some .documentStart => do
        drop
        modify fun composer => { composer with handles }
        match ← next? with
        | none | some (.directive _) | some .documentStart | some .documentEnd => some <$> absent
        | _ => some <$> node true false fuel
      | _ => refuse
    | _ => some <$> node true false fuel
  skipEnds fuel
  match ← next? with
  | none => pure root
  | some _ => do
    let _ ← directives none [] fuel
    let _ ← next?
    refuse

end Compose

/-- The nodes of a document; there are none in an empty one. -/
def Graph.ofTokens? (tokens : Tokens) : Except YamlError (Option Graph) := do
  let composer : Composer := ⟨tokens.tokens, tokens.error, Compose.sharedHandles, [], #[]⟩
  let (root, composer) ← (Compose.document (2 * tokens.tokens.length + 2)).run composer
  .ok (root.map fun root => ⟨composer.nodes, root⟩)

end Workflow.Yaml
