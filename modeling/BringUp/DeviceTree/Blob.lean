import BringUp.DeviceTree.Bytes

/-!
Flattened device trees: the header of a blob, its properties and its nodes.

The structure block is a sequence of tokens. Reading is lenient: a walk ends at the first token
that it does not expect. It breaks off with a defect only where a name or a value cannot be read
at all. The walks therefore give a `Listing`: the items up to the end, and the defect if it was
one that ended the walk. A search that is over before the defect is not affected by it.
-/
namespace BringUp.DeviceTree

/-- The items of a walk in order, and the defect that broke it off, if any. -/
structure Listing (α : Type) where
  items : List α
  defect : Option Defect
deriving Repr

namespace Listing

variable {α : Type}

def empty : Listing α := ⟨[], none⟩

def broken (defect : Defect) : Listing α := ⟨[], some defect⟩

def cons (item : α) (rest : Listing α) : Listing α :=
  { rest with items := item :: rest.items }

/-- The first item with the given property. The defect counts only if no item before it has the
property. -/
def find? (test : α → Bool) (listing : Listing α) : Except Defect (Option α) :=
  match listing.items.find? test, listing.defect with
  | some item, _ => .ok (some item)
  | none, some defect => .error defect
  | none, none => .ok none

/-- The complete list of items. -/
def toList (listing : Listing α) : Except Defect (List α) :=
  match listing.defect with
  | some defect => .error defect
  | none => .ok listing.items

end Listing

/-- Why bytes are not taken for a blob. -/
inductive BlobError where
  | badMagic
  | bufferTooSmall
deriving DecidableEq, Repr

def BlobError.name : BlobError → String
  | badMagic => "BadMagic"
  | bufferTooSmall => "BufferTooSmall"

/-- A blob after its header was accepted. A block that lies outside of the blob is noticed when
it is used. -/
structure Blob where
  tokens : Except Defect Bytes
  strings : Except Defect Bytes

structure Property where
  name : String
  value : Bytes
deriving DecidableEq, Repr

/-- A node: its body starts with its properties. The parent is given by its body. -/
structure Node where
  name : String
  body : Bytes
  parent : Option Bytes
deriving DecidableEq, Repr

namespace Token

def beginNode : Nat := 1

def endNode : Nat := 2

def property : Nat := 3

def nop : Nat := 4

end Token

namespace Blob

def headerBytes : Nat := 40

def magic : Nat := 0xD00DFEED

/-- Header word of the given index. -/
def headerWord (data : Bytes) (index : Nat) : Nat :=
  (Bytes.word? (data.drop (4 * index))).getD 0

def block (data : Bytes) (start size : Nat) : Except Defect Bytes :=
  if start + size ≤ data.length then .ok ((data.drop start).take size)
  else .error .blockOutOfRange

def parse (data : Bytes) : Except BlobError Blob :=
  if data.length < headerBytes then .error .bufferTooSmall
  else if headerWord data 0 ≠ magic then .error .badMagic
  else if data.length < headerWord data 1 then .error .bufferTooSmall
  else .ok ⟨block data (headerWord data 2) (headerWord data 9),
    block data (headerWord data 3) (headerWord data 8)⟩

/-- Nesting depth at which a walk breaks off. -/
def maxDepth : Nat := 64

/-- Reads the property at the start. Its name is looked up in the strings block. -/
def readProperty (blob : Blob) (bytes : Bytes) : Except Defect (Property × Bytes) := do
  if (← Bytes.word bytes) ≠ Token.property then
    throw .unexpectedToken
  let length ← Bytes.word (bytes.drop 4)
  let nameOffset ← Bytes.word (bytes.drop 8)
  let value := bytes.drop 12
  if value.length < length then
    throw .truncated
  let strings ← blob.strings
  if strings.length < nameOffset then
    throw .blockOutOfRange
  let name ← Bytes.text (← Bytes.terminated (strings.drop nameOffset))
  return (⟨name, value.take length⟩, value.drop (Bytes.padded length))

/-- Drops the empty tokens at the start. -/
def skipNops : Bytes → Bytes
  | 0 :: 0 :: 0 :: 4 :: rest => skipNops rest
  | bytes => bytes

/-- Drops the properties at the start. -/
def skipProperties (blob : Blob) (bytes : Bytes) : Except Defect Bytes :=
  go bytes.length bytes
where
  go : Nat → Bytes → Except Defect Bytes
    | fuel + 1, bytes =>
      if Bytes.word? bytes = some Token.property then do
        let (_, rest) ← blob.readProperty bytes
        go fuel rest
      else .ok bytes
    | 0, bytes => .ok bytes

/-- Name and body of the node whose first token was read. -/
def readName (bytes : Bytes) : Except Defect (Bytes × Bytes) := do
  let name ← Bytes.terminated bytes
  return (name, bytes.drop (Bytes.padded (name.length + 1)))

/-- Leaves the nodes that end at the start. -/
def closeNodes : Bytes → List Bytes → Except Defect (Bytes × List Bytes)
  | 0 :: 0 :: 0 :: 2 :: _, [] => .error .unbalanced
  | 0 :: 0 :: 0 :: 2 :: rest, _ :: enclosing => closeNodes rest enclosing
  | bytes, enclosing => .ok (bytes, enclosing)

/-- Reads up to the next node of the walk over all nodes, and past its properties. The answer is
the node, the bytes behind it and the bodies of the nodes around these bytes. -/
def nextNode (blob : Blob) (bytes : Bytes) (enclosing : List Bytes) :
    Except Defect (Option (Node × Bytes × List Bytes)) := do
  let (bytes, enclosing) ← closeNodes bytes enclosing
  let bytes := skipNops bytes
  if Bytes.word? bytes ≠ some Token.beginNode then
    return none
  let (name, body) ← readName (bytes.drop 4)
  let name ← Bytes.text name
  if maxDepth ≤ enclosing.length + 1 then
    throw .tooDeep
  let rest ← blob.skipProperties (skipNops body)
  if (Bytes.word? rest).isNone then
    return none
  let node := ⟨if name.isEmpty then "/" else name, body, enclosing.head?⟩
  return some (node, rest, body :: enclosing)

/-- All nodes in the order in which they begin. -/
def nodes (blob : Blob) : Listing Node :=
  match blob.tokens with
  | .error defect => .broken defect
  | .ok bytes => go bytes.length bytes []
where
  go : Nat → Bytes → List Bytes → Listing Node
    | 0, _, _ => .empty
    | fuel + 1, bytes, enclosing =>
      match blob.nextNode bytes enclosing with
      | .error defect => .broken defect
      | .ok none => .empty
      | .ok (some (node, rest, enclosing)) => .cons node (go fuel rest enclosing)

/-- The properties at the start of a body. -/
def properties (blob : Blob) (body : Bytes) : Listing Property :=
  go body.length body
where
  go : Nat → Bytes → Listing Property
    | 0, _ => .empty
    | fuel + 1, bytes =>
      let bytes := skipNops bytes
      if Bytes.word? bytes = some Token.property then
        match blob.readProperty bytes with
        | .error defect => .broken defect
        | .ok (property, rest) => .cons property (go fuel rest)
      else .empty

/-- Value of the first property of that name. -/
def property? (blob : Blob) (node : Node) (name : String) : Except Defect (Option Bytes) := do
  return (← (blob.properties node.body).find? (·.name == name)).map (·.value)

/-- Drops the node at the start with everything inside it. -/
def skipNode (blob : Blob) (bytes : Bytes) : Except Defect Bytes :=
  go bytes.length 0 bytes
where
  go : Nat → Nat → Bytes → Except Defect Bytes
    | 0, _, _ => .error .truncated
    | fuel + 1, depth, bytes => do
      if (← Bytes.word bytes) = Token.beginNode then
        let (name, body) ← readName (bytes.drop 4)
        let _ ← Bytes.text name
        go fuel (depth + 1) (← blob.skipProperties body)
      else
        let bytes := skipNops bytes
        if (← Bytes.word bytes) ≠ Token.endNode then
          throw .unexpectedToken
        if depth ≤ 1 then
          return bytes.drop 4
        go fuel (depth - 1) (bytes.drop 4)

/-- Bytes of a body behind its properties. -/
def childBytes (blob : Blob) (body : Bytes) : Except Defect Bytes := do
  let _ ← Bytes.word (skipNops body)
  let bytes ← blob.skipProperties (skipNops body)
  let _ ← Bytes.word bytes
  return bytes

/-- The direct children of a node. A child whose name is not text ends the walk. -/
def children (blob : Blob) (node : Node) : Listing Node :=
  match blob.childBytes node.body with
  | .error defect => .broken defect
  | .ok bytes => go bytes.length bytes
where
  go : Nat → Bytes → Listing Node
    | 0, _ => .empty
    | fuel + 1, bytes =>
      let bytes := skipNops bytes
      if Bytes.word? bytes = some Token.beginNode then
        match readName (bytes.drop 4) with
        | .error defect => .broken defect
        | .ok (name, body) =>
          match Bytes.text? name with
          | none => .empty
          | some name =>
            match blob.skipNode bytes with
            | .error defect => .broken defect
            | .ok rest => .cons ⟨name, body, some node.body⟩ (go fuel rest)
      else .empty

end Blob

namespace Node

/-- A node name without its unit address. -/
def baseName (name : String) : String :=
  String.ofList (name.toList.takeWhile (· ≠ '@'))

end Node
end BringUp.DeviceTree
