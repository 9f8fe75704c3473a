import TableQuery.Yaml.Token

/-!
# YAML documents

A document is made from the tokens of its text. A node may be given a name, and a reference by
that name stands for it; the nodes that references mean are kept beside the root. A name may be
given again, and a node may refer to itself.

* `NodeReader`: reads nodes from tokens, remembering the names so far.
* `YamlDocument.ofTokens?`, `YamlDocument.parse?`: the document of a text with one document.

Nodes are read with a bound on the number of steps, which the number of tokens provides.
-/

namespace TableQuery

/-- A node, and the nodes that references in it mean, by their numbers. -/
structure YamlDocument where
  root : YamlNode
  meanings : List (Nat × YamlNode)
deriving Inhabited

namespace YamlDocument

/-- The document that has a node of this one as its root. -/
def part (d : YamlDocument) (root : YamlNode) : YamlDocument := { d with root }

/-- The root, or the node that it refers to. -/
def content (d : YamlDocument) : YamlNode :=
  match d.root with
  | .reference number => ((d.meanings.find? (·.1 == number)).map (·.2)).getD .empty
  | node => node

end YamlDocument

/-! ## Reading nodes -/

/-- A node that has been read and has a name. -/
structure NamedNode where
  /-- The number that references to it have. -/
  number : Nat
  /-- How many nodes with a name began before it. -/
  rank : Nat
  node : YamlNode

/-- What is left to read, and what has been named. -/
structure NodeState where
  tokens : List YamlToken
  handles : TagHandles
  /-- The names that have been given, with the numbers they stand for. -/
  numbers : List (String × Nat)
  /-- How many nodes with a name have begun. -/
  begun : Nat
  named : List NamedNode

/-- Reads from tokens. -/
abbrev NodeReader := StateT NodeState Option

namespace NodeReader

/-- The token that stands here. -/
def peek : NodeReader (Option YamlToken) := do return (← get).tokens.head?

/-- Goes on behind the token that stands here. -/
def skip : NodeReader Unit := modify fun s => { s with tokens := s.tokens.drop 1 }

/-- One of these tokens stands here. -/
def atAny (ts : List YamlToken) : NodeReader Bool := do return (← peek).any ts.contains

/-- Goes on behind a token if it stands here. -/
def skipIf (t : YamlToken) : NodeReader Bool := do
  if ← atAny [t] then
    skip
    return true
  else return false

/-- Goes on behind a token that must stand here. -/
def expect (t : YamlToken) : NodeReader Unit := do
  if ← skipIf t then return () else failure

/-- The name of a node, if it is given here. -/
def name? : NodeReader (Option String) := do
  match ← peek with
  | some (.name name) =>
    skip
    return some name
  | _ => return none

/-- The full text of a tag, if one stands here. -/
def tag? : NodeReader (Option String) := do
  match ← peek with
  | some (.tag handle text) =>
    skip
    return some (← (← get).handles.expand? handle text)
  | _ => return none

/-- The name and the tag of a node, in either order. -/
def properties : NodeReader (Option String × Option String) := do
  match ← name? with
  | some name => return (some name, ← tag?)
  | none =>
    match ← tag? with
    | some tag => return (← name?, some tag)
    | none => return (none, none)

/-- The number that a name stands for. -/
def numberOf (name : String) : NodeReader Nat := do
  match (← get).numbers.find? (·.1 == name) with
  | some (_, number) => return number
  | none => failure

/-- Begins a node with a name. The name gets the number of names so far, which may be taken if a
name has been given twice. -/
def beginNamed (name : String) : NodeReader (Nat × Nat) := do
  let s ← get
  let number := s.numbers.length
  set { s with
    numbers := (name, number) :: s.numbers.filter (·.1 != name)
    begun := s.begun + 1 }
  return (number, s.begun)

/-- Keeps a node that has a name. Of two with one number, references mean the one that began
later. -/
def keepNamed (node : NamedNode) : NodeReader Unit := modify fun s =>
  if s.named.any fun n => n.number == node.number && node.rank < n.rank then s
  else { s with named := node :: s.named.filter (·.number != node.number) }

/-- Reads a node that may have a name by what reads its content. -/
def withName (name : Option String) (content : NodeReader YamlNode) : NodeReader YamlNode := do
  match name with
  | none => content
  | some name =>
    let (number, rank) ← beginNamed name
    let node ← content
    keepNamed ⟨number, rank, node⟩
    return node

/-- Nothing is written where one of these tokens follows, or else what the reader reads. -/
def emptyBefore (ts : List YamlToken) (read : NodeReader YamlNode) : NodeReader YamlNode := do
  if ← atAny ts then return .empty else read

mutual

/-- A node. Entries of a block may follow if `block`, and those of a sequence that is not set in
if `level`. -/
def node (block level : Bool) (bound : Nat) : NodeReader YamlNode :=
  match bound with
  | 0 => failure
  | bound + 1 => do
    match ← peek with
    | some (.reference name) =>
      skip
      return .reference (← numberOf name)
    | _ =>
      let (name, tag) ← properties
      withName name do
        match ← peek with
        | some (.scalar text style) =>
          skip
          return .scalar text style (if tag == some "!" then none else tag)
        | some .flowSequence =>
          skip
          return .sequence (← flowItems true bound)
        | some .flowMapping =>
          skip
          return .mapping (← flowEntries true bound)
        | t =>
          if level && t == some .entry then return .sequence (← levelItems bound)
          else if block && t == some .blockSequence then
            skip
            return .sequence (← blockItems bound)
          else if block && t == some .blockMapping then
            skip
            return .mapping (← blockEntries bound)
          else if name.isSome || tag.isSome then return .scalar "" .plain tag
          else failure

/-- The items of a sequence in a block. -/
def blockItems (bound : Nat) : NodeReader (List YamlNode) :=
  match bound with
  | 0 => failure
  | bound + 1 => do
    if ← skipIf .blockEnd then return []
    else
      expect .entry
      let item ← emptyBefore [.entry, .blockEnd] (node true false bound)
      return item :: (← blockItems bound)

/-- The items of a sequence that is not set in, which ends where no entry follows. -/
def levelItems (bound : Nat) : NodeReader (List YamlNode) :=
  match bound with
  | 0 => failure
  | bound + 1 => do
    if ← skipIf .entry then
      let item ← emptyBefore [.entry, .key, .value, .blockEnd] (node true false bound)
      return item :: (← levelItems bound)
    else return []

/-- The entries of a mapping in a block. -/
def blockEntries (bound : Nat) : NodeReader (List (YamlNode × YamlNode)) :=
  match bound with
  | 0 => failure
  | bound + 1 => do
    if ← skipIf .blockEnd then return []
    else
      expect .key
      let key ← emptyBefore [.key, .value, .blockEnd] (node true true bound)
      let value ←
        if ← skipIf .value then
          emptyBefore [.key, .value, .blockEnd] (node true true bound)
        else pure .empty
      return (key, value) :: (← blockEntries bound)

/-- The items of a sequence in brackets. An item may be a key with a value; a mark where the key
should stand is passed over. -/
def flowItems (first : Bool) (bound : Nat) : NodeReader (List YamlNode) :=
  match bound with
  | 0 => failure
  | bound + 1 => do
    if ← skipIf .flowSequenceEnd then return []
    else
      if !first then expect .comma
      if ← skipIf .key then
        let key ←
          if ← atAny [.value, .comma, .flowSequenceEnd] then
            skip
            pure .empty
          else node false false bound
        let value ←
          if ← skipIf .value then
            emptyBefore [.comma, .flowSequenceEnd] (node false false bound)
          else pure .empty
        return .mapping [(key, value)] :: (← flowItems false bound)
      else if ← skipIf .flowSequenceEnd then return []
      else
        let item ← node false false bound
        return item :: (← flowItems false bound)

/-- The entries of a mapping in braces. -/
def flowEntries (first : Bool) (bound : Nat) : NodeReader (List (YamlNode × YamlNode)) :=
  match bound with
  | 0 => failure
  | bound + 1 => do
    if ← skipIf .flowMappingEnd then return []
    else
      if !first then expect .comma
      if ← skipIf .key then
        let key ← emptyBefore [.value, .comma, .flowMappingEnd] (node false false bound)
        let value ←
          if ← skipIf .value then
            emptyBefore [.comma, .flowMappingEnd] (node false false bound)
          else pure .empty
        return (key, value) :: (← flowEntries false bound)
      else if ← skipIf .flowMappingEnd then return []
      else
        let key ← node false false bound
        return (key, .empty) :: (← flowEntries false bound)

end

/-- The directives that stand here. -/
def directives (bound : Nat) : NodeReader (List YamlDirective) :=
  match bound with
  | 0 => return []
  | bound + 1 => do
    match ← peek with
    | some (.directive d) =>
      skip
      return d :: (← directives bound)
    | _ => return []

/-- The root of a document. Without directives the mark before it may be missing; with the mark,
nothing need follow. -/
def root (bound : Nat) : NodeReader YamlNode := do
  let given ← directives bound
  let handles ← TagHandles.ofDirectives? given
  modify fun s => { s with handles }
  if !given.isEmpty || (← atAny [.documentStart]) then
    expect .documentStart
    match ← peek with
    | none | some (.directive _) | some .documentStart | some .documentEnd => return .empty
    | some _ => node true false bound
  else
    match ← peek with
    | none => return .empty
    | some _ => node true false bound

end NodeReader

namespace YamlDocument

/-- The document that tokens write. Nothing but marks of its end may follow. -/
def ofTokens? (tokens : List YamlToken) : Option YamlDocument := do
  let bound := 2 * tokens.length + 2
  let (root, s) ← (NodeReader.root bound).run ⟨tokens, [], [], 0, []⟩
  if s.tokens.all (· == .documentEnd) then
    some ⟨root, s.named.map fun n => (n.number, n.node)⟩
  else none

/-- The document of a text. -/
def parse? (text : String) : Option YamlDocument := (YamlToken.ofText? text).bind ofTokens?

end YamlDocument

end TableQuery
