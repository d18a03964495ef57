/-
StartupReport/StandIn/Yaml/Node.lean

The nodes of a YAML document.

A node is a text, a sequence or a mapping, and means something.  The nodes of a
document are numbered in the order in which they begin, so that the first is
its root.  A reference stands for the node that its anchor names, which may be
one around it; no two nodes have the same anchor.  A text holds at most one
document.
-/
import StartupReport.Entries
import StartupReport.StandIn.Yaml.Kind
import StartupReport.StandIn.Yaml.Lexer

namespace StartupReport.Yaml

/-- What is written at a node; other nodes are given by their numbers. -/
inductive Content
  | scalar (text : String)
  | sequence (items : List Nat)
  | mapping (entries : List (Nat × Nat))
deriving DecidableEq, Repr

/-- A node of a document. -/
structure Node where
  kind : Kind
  content : Content
deriving DecidableEq, Repr

/-- What a document has been read of, and what is left: the rest of the text, what
the handles of tags stand for, the nodes, and those that have an anchor. -/
structure Reader where
  lexer : Lexer
  handles : Entries String
  nodes : Array Node := #[]
  anchors : Entries Nat := []

/-- A reading of some of the tokens. -/
abbrev Parse := StateT Reader (Except Flaw)

namespace Parse

/-! ### Tokens -/

/-- The next token, if there is one. -/
def peek : Parse (Option Token) := do
  let r ← get
  let lexer ← r.lexer.settle
  set { r with lexer }
  return lexer.tokens.head?

/-- Passes the next token. -/
def pass : Parse Unit := modify fun r => { r with lexer := r.lexer.pop }

/-- The next token is one of some. -/
def isNext (ts : List Token) : Parse Bool := do
  match ← peek with
  | some t => return ts.contains t
  | none => return false

/-- The text does not follow the grammar. -/
def refuse {α : Type} : Parse α := throw .malformed

/-- Passes a token that must be next. -/
def expect (t : Token) : Parse Unit := do
  if ← isNext [t] then pass else refuse

/-! ### Properties of nodes -/

/-- The meanings that handles have from the start. -/
def commonHandles : Entries String := [("!", "!"), ("!!", tagSpace)]

/-- The full name of a tag. -/
def fullTag (handle : Option String) (suffix : String) : Parse String := do
  match handle with
  | none => return suffix
  | some h =>
    match Entries.get? (← get).handles h with
    | some meaning => return meaning ++ suffix
    | none => refuse

/-- A tag with its handle, if there is one. -/
def tag? : Parse (Option (Option String × String)) := do
  match ← peek with
  | some (.tag h s) => do pass; return some (h, s)
  | _ => return none

/-- An anchor, if there is one. -/
def anchor? : Parse (Option String) := do
  match ← peek with
  | some (.anchor n) => do pass; return some n
  | _ => return none

/-- The full name of a tag that may not be there. -/
def fullTag? (tag : Option (Option String × String)) : Parse (Option String) :=
  match tag with
  | some (h, s) => some <$> fullTag h s
  | none => return none

/-- The tag and the anchor before a node, in either order. -/
def properties : Parse (Option String × Option String) := do
  match ← anchor? with
  | some name =>
    let tag ← tag?
    return (← fullTag? tag, some name)
  | none =>
    match ← tag? with
    | some tag =>
      let anchor ← anchor?
      return (← fullTag? (some tag), anchor)
    | none => return (none, none)

/-! ### Single nodes -/

/-- Begins a node; its anchor must be new. -/
def begin (anchor : Option String) (n : Node) : Parse Nat := do
  let r ← get
  let place := r.nodes.size
  match anchor with
  | some name =>
    if (Entries.get? r.anchors name).isSome then refuse
    set { r with nodes := r.nodes.push n, anchors := Entries.set r.anchors name place }
  | none => set { r with nodes := r.nodes.push n }
  return place

/-- Begins a text. -/
def scalar (tag anchor : Option String) (isPlain : Bool) (text : String) : Parse Nat :=
  begin anchor ⟨Kind.ofScalar tag isPlain text, .scalar text⟩

/-- The node where nothing is written. -/
def blank : Parse Nat := scalar none none true ""

/-- Completes a node. -/
def complete (place : Nat) (content : Content) : Parse Nat := do
  modify fun r => { r with nodes := r.nodes.modify place fun n => { n with content } }
  return place

/-- A sequence, by a reading of its items. -/
def sequence (tag anchor : Option String) (items : Parse (List Nat)) : Parse Nat := do
  let place ← begin anchor ⟨Kind.ofCollection tag .sequence, .sequence []⟩
  complete place (.sequence (← items))

/-- A mapping, by a reading of its entries. -/
def mapping (tag anchor : Option String) (entries : Parse (List (Nat × Nat))) : Parse Nat := do
  let place ← begin anchor ⟨Kind.ofCollection tag .mapping, .mapping []⟩
  complete place (.mapping (← entries))

/-- The node of a reference. -/
def referred (name : String) : Parse Nat := do
  match Entries.get? (← get).anchors name with
  | some place => return place
  | none => refuse

/-! ### Nodes within nodes -/

mutual

/-- A node.  In block context collections may be shown by indentation, and a
sequence inside a mapping may stand at the mapping's own column. -/
def node (inBlock dedented : Bool) : (fuel : Nat) → Parse Nat
  | 0 => refuse
  | fuel + 1 => do
    match ← peek with
    | some (.reference name) => do pass; referred name
    | _ =>
      let (tag, anchor) ← properties
      content inBlock dedented tag anchor fuel

/-- What a node holds after its tag and its anchor; it may be left out if there
is one of them. -/
def content (inBlock dedented : Bool) (tag anchor : Option String) : (fuel : Nat) → Parse Nat
  | 0 => refuse
  | fuel + 1 => do
    match ← peek with
    | some (.scalar isPlain text) => do pass; scalar tag anchor isPlain text
    | some .flowSequenceStart => sequence tag anchor do pass; flowItems true fuel
    | some .flowMappingStart => mapping tag anchor do pass; flowEntries true fuel
    | some .blockEntry =>
      if dedented then sequence tag anchor (dedentedItems fuel) else leftOut tag anchor fuel
    | some .blockSequenceStart =>
      if inBlock then sequence tag anchor do pass; blockItems fuel
      else leftOut tag anchor fuel
    | some .blockMappingStart =>
      if inBlock then mapping tag anchor do pass; blockEntries fuel
      else leftOut tag anchor fuel
    | _ => leftOut tag anchor fuel

/-- A node that has a tag or an anchor only. -/
def leftOut (tag anchor : Option String) : (fuel : Nat) → Parse Nat
  | 0 => refuse
  | _ + 1 => if tag.isSome || anchor.isSome then scalar tag anchor true "" else refuse

/-- The items of a sequence that is shown by indentation. -/
def blockItems : (fuel : Nat) → Parse (List Nat)
  | 0 => refuse
  | fuel + 1 => do
    if ← isNext [.blockEntry] then
      pass
      let item ← if ← isNext [.blockEntry, .blockEnd] then blank else node true false fuel
      return item :: (← blockItems fuel)
    else do
      expect .blockEnd
      return []

/-- The items of a sequence at the column of the mapping it lies in. -/
def dedentedItems : (fuel : Nat) → Parse (List Nat)
  | 0 => refuse
  | fuel + 1 => do
    if ← isNext [.blockEntry] then
      pass
      let item ←
        if ← isNext [.blockEntry, .key, .value, .blockEnd] then blank else node true false fuel
      return item :: (← dedentedItems fuel)
    else return []

/-- The entries of a mapping that is shown by indentation. -/
def blockEntries : (fuel : Nat) → Parse (List (Nat × Nat))
  | 0 => refuse
  | fuel + 1 => do
    if ← isNext [.key] then
      pass
      let k ← blockPart fuel
      let v ← if ← isNext [.value] then do pass; blockPart fuel else blank
      return (k, v) :: (← blockEntries fuel)
    else do
      expect .blockEnd
      return []

/-- A key or a value of a mapping that is shown by indentation. -/
def blockPart : (fuel : Nat) → Parse Nat
  | 0 => refuse
  | fuel + 1 => do
    if ← isNext [.key, .value, .blockEnd] then blank else node true true fuel

/-- The items of a sequence in brackets, with commas between them and perhaps
one after the last.  A key makes an item a mapping of one entry. -/
def flowItems (isFirst : Bool) : (fuel : Nat) → Parse (List Nat)
  | 0 => refuse
  | fuel + 1 => do
    if ← isNext [.flowSequenceEnd] then do pass; return []
    else do
      if ¬ isFirst then expect .flowEntry
      if ← isNext [.flowSequenceEnd] then do pass; return []
      else do
        let item ←
          if ← isNext [.key] then mapping none none (flowEntry .flowSequenceEnd fuel)
          else node false false fuel
        return item :: (← flowItems false fuel)

/-- The entries of a mapping in brackets.  A node without the mark of a key is
one without a value. -/
def flowEntries (isFirst : Bool) : (fuel : Nat) → Parse (List (Nat × Nat))
  | 0 => refuse
  | fuel + 1 => do
    if ← isNext [.flowMappingEnd] then do pass; return []
    else do
      if ¬ isFirst then expect .flowEntry
      if ← isNext [.flowMappingEnd] then do pass; return []
      else do
        let entry ←
          if ← isNext [.key] then flowEntry .flowMappingEnd fuel
          else do
            let k ← node false false fuel
            pure [(k, ← blank)]
        return entry ++ (← flowEntries false fuel)

/-- An entry with the mark of a key, in brackets that close with a token. -/
def flowEntry (closing : Token) : (fuel : Nat) → Parse (List (Nat × Nat))
  | 0 => refuse
  | fuel + 1 => do
    pass
    let k ← flowPart [.value, .flowEntry, closing] fuel
    let v ← if ← isNext [.value] then do pass; flowPart [.flowEntry, closing] fuel else blank
    return [(k, v)]

/-- A node in brackets, left out if one of some tokens is next. -/
def flowPart (ends : List Token) : (fuel : Nat) → Parse Nat
  | 0 => refuse
  | fuel + 1 => do
    if ← isNext ends then blank else node false false fuel

end

/-! ### Documents -/

/-- The directives before a document; the version may be given once and must
begin with one, and a handle may be explained once.  The fuel is one more than
the number of directives. -/
def directives (versionSeen : Bool) : (fuel : Nat) → Parse Unit
  | 0 => refuse
  | fuel + 1 => do
    match ← peek with
    | some (.directive (.version major)) =>
      pass
      if versionSeen || major != 1 then refuse
      directives true fuel
    | some (.directive (.handle h meaning)) =>
      pass
      let r ← get
      if (Entries.get? r.handles h).isSome then refuse
      set { r with handles := r.handles ++ [(h, meaning)] }
      directives versionSeen fuel
    | some (.directive .other) => do pass; directives versionSeen fuel
    | _ => modify fun r => { r with handles := r.handles ++ commonHandles }

/-- The head of a document that is marked as one. -/
def documentHead (fuel : Nat) : Parse Unit := do
  modify fun r => { r with handles := [] }
  directives false fuel
  expect .documentStart

/-- The marks of a document's end, of which there may be several. -/
def documentEnds : (fuel : Nat) → Parse Unit
  | 0 => refuse
  | fuel + 1 => do
    if ← isNext [.documentEnd] then do pass; documentEnds fuel else return

/-- The only document, if there is one. -/
def document (fuel : Nat) : Parse Unit := do
  match ← peek with
  | none => return
  | some .documentStart | some (.directive _) => do
    documentHead fuel
    match ← peek with
    | none | some .documentStart | some .documentEnd | some (.directive _) => discard blank
    | _ => discard (node true false fuel)
  | _ => discard (node true false fuel)
  documentEnds fuel
  match ← peek with
  | none => return
  | some _ => do
    documentHead fuel
    refuse

end Parse

/-- The nodes of the document in a text that may go on where it cannot be read;
there are none if there is no document.  The fuel allows for four steps for
each token and for four tokens for each character. -/
def nodes (cs : List Char) (isTorn : Bool) : Except Flaw (Array Node) := do
  let r ← (Parse.document (16 * cs.length + 32)).run
    { lexer := .ofText cs isTorn, handles := Parse.commonHandles }
  return r.2.nodes

end StartupReport.Yaml
