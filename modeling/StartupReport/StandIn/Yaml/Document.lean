/-
StartupReport/StandIn/Yaml/Document.lean

The value of a YAML document.

A text has its value once the collection that holds it is filled; the
collections in there are filled later, all of one depth before the deeper
ones.  So of several flaws in a document the one that lies least deep shows,
and of those the first.  A node that several references stand for has one
value.

A mapping may take over the entries of others under the key `<<`; its own come
after them and win.

`reader` is a stand-in for a library that reads documents.  Runs use it; what is
said of the program is said of any reader.
-/
import StartupReport.Fault
import StartupReport.StandIn.Yaml.Binary
import StartupReport.StandIn.Yaml.Node
import StartupReport.Text.Lowercase

namespace StartupReport.Yaml

/-! ### Single values -/

/-- The text of a node: its own, or for a mapping the text of what stands under the
key for its value.  The fuel is the number of nodes. -/
def textAt (nodes : Array Node) : (fuel : Nat) → Nat → Except Flaw String
  | 0, _ => .error .malformed
  | fuel + 1, n =>
    match (nodes[n]?).map Node.content with
    | some (.scalar text) => .ok text
    | some (.mapping es) =>
      match es.find? fun e => (nodes[e.1]?).any fun k => k.kind = .default with
      | some e => textAt nodes fuel e.2
      | none => .error .malformed
    | _ => .error .malformed

/-- The value of a text with a meaning. -/
def scalarValue (kind : Kind) (text : String) : Except Flaw Value :=
  match kind with
  | .null => .ok .null
  | .bool =>
    let lowered := String.ofList (Text.lower text.toList)
    match truthWords.lookup lowered with
    | some b => .ok (.bool b)
    | none => .error (.truthValue lowered)
  | .int => .int <$> numeral text
  | .text => .ok (.str text)
  | .binary =>
    match bytesOfBase64? text with
    | some bytes => .ok (bytesValue bytes)
    | none => .error .malformed
  | .uncovered => .error .uncovered
  | _ => .error .malformed

/-- What is known of the value of a node: all of it, or the nodes whose values it
is made of. -/
inductive Draft
  | whole (v : Value)
  | list (items : List Nat)
  | pairs (items : List (Nat × Nat))
  | map (entries : List (Value × Nat))
  | set (keys : List Value)

/-- The value of a key; a collection is no key. -/
def Draft.key : Draft → Except Flaw Value
  | .whole v => .ok v
  | _ => .error .malformed

/-- A pair as a value. -/
def pairValue (v w : Value) : Value :=
  let shown := "(" ++ v.quote ++ ", " ++ w.quote ++ ")"
  .other ⟨"tuple", shown, shown, true, true, none, shown⟩ [v, w]

/-- A set as a value. -/
def setValue (keys : List Value) : Value :=
  let shown :=
    if keys.isEmpty then "set()" else "\x7b" ++ ", ".intercalate (keys.map Value.quote) ++ "\x7d"
  .other ⟨"set", shown, shown, !keys.isEmpty, true, none, shown⟩ keys

/-! ### Finding the values of a document -/

/-- The nodes of a document, what is known of their values, and the collections
that are to be filled next, the last one first. -/
structure Assembly where
  nodes : Array Node
  drafts : Array (Option Draft)
  waiting : List Nat := []

/-- A step on the way to the values of a document. -/
abbrev Assemble := StateT Assembly (Except Flaw)

namespace Assemble

/-- A node by its number. -/
def nodeAt (n : Nat) : Assemble Node := do
  match (← get).nodes[n]? with
  | some node => return node
  | none => throw .malformed

/-- Notes what is known of a value. -/
def note (n : Nat) (d : Draft) : Assemble Unit :=
  modify fun s => { s with drafts := s.drafts.setIfInBounds n (some d) }

/-- Begins a collection, which is filled later. -/
def await (n : Nat) (d : Draft) : Assemble Draft := do
  note n d
  modify fun s => { s with waiting := n :: s.waiting }
  return d

/-- Begins the value of a node unless that was done before. -/
def begin (n : Nat) : Assemble Draft := do
  let s ← get
  match s.drafts[n]?.join with
  | some d => return d
  | none =>
    match (← nodeAt n).kind with
    | .sequence | .pairs => await n (.list [])
    | .mapping | .set => await n (.map [])
    | kind => do
      let d := .whole (← scalarValue kind (← textAt s.nodes (s.nodes.size + 1) n))
      note n d
      return d

/-! ### Entries of mappings -/

/-- The entries of a node that must be a mapping. -/
def entriesOf (n : Nat) : Assemble (List (Nat × Nat)) := do
  match (← nodeAt n).content with
  | .mapping es => return es
  | _ => throw .malformed

/-- Changes the entries of a mapping. -/
def setEntries (n : Nat) (es : List (Nat × Nat)) : Assemble Unit :=
  modify fun s =>
    { s with nodes := s.nodes.modify n fun node => { node with content := .mapping es } }

/-- Takes a key for the value of a mapping itself as a text. -/
def spellOut (k : Nat) : Assemble Unit :=
  modify fun s => { s with nodes := s.nodes.modify k fun node =>
    if node.kind = .default then { node with kind := .text } else node }

/-- Puts the entries that a mapping takes over before its own, instead of the keys
`<<`; those of the first key come first, and of several mappings under one key
those of the last.  The fuel is one more than the number of these keys, of
which every step removes one. -/
def takeOver : (fuel : Nat) → Nat → Assemble Unit
  | 0, _ => throw .malformed
  | fuel + 1, n => do
    let es ← entriesOf n
    let nodes := (← get).nodes
    match es.span fun e => (nodes[e.1]?).all fun k => k.kind ≠ .merge with
    | (_, []) => es.forM fun e => spellOut e.1
    | (before, (_, source) :: after) => do
      setEntries n (before ++ after)
      let taken ← match (← nodeAt source).content with
        | .scalar _ => throw .malformed
        | .mapping _ => do
          takeOver fuel source
          entriesOf source
        | .sequence items => do
          let lists ← items.mapM fun i => do
            takeOver fuel i
            entriesOf i
          pure lists.reverse.flatten
      takeOver fuel n
      setEntries n (taken ++ (← entriesOf n))

/-- Begins the key and the value of an entry. -/
def entry (e : Nat × Nat) : Assemble (Value × Nat) := do
  let key ← (← begin e.1).key
  discard (begin e.2)
  return (key, e.2)

/-- Begins the keys and the values of all entries of a mapping, also of those it
takes over. -/
def entries (fuel n : Nat) : Assemble (List (Value × Nat)) := do
  takeOver fuel n
  return (← (← entriesOf n).mapM entry).foldl (fun es e => Value.write es e.1 e.2) []

/-- Begins the two values of a pair, which is written as a mapping of one entry. -/
def pair (n : Nat) : Assemble (Nat × Nat) := do
  match ← entriesOf n with
  | [(k, v)] => do
    discard (begin k)
    discard (begin v)
    return (k, v)
  | _ => throw .malformed

/-! ### Collections -/

/-- Fills a collection: the values in it are begun. -/
def fill (fuel n : Nat) : Assemble Unit := do
  let node ← nodeAt n
  match node.kind, node.content with
  | .sequence, .sequence items => do
    items.forM fun i => discard (begin i)
    note n (.list items)
  | .pairs, .sequence items => do
    note n (.pairs (← items.mapM pair))
  | .mapping, .mapping _ => do
    note n (.map (← entries fuel n))
  | .set, .mapping _ => do
    let keys := (← entries fuel n).map (·.1)
    note n (.set (keys.mergeSort fun a b => a.text ≤ b.text))
  | _, _ => throw .malformed

/-- Fills the collections that wait, then those that were begun in them, and so
on.  The fuel is one more than the number of nodes. -/
def fillAll (keys : Nat) : (fuel : Nat) → Assemble Unit
  | 0 => return
  | fuel + 1 => do
    match (← get).waiting with
    | [] => return
    | waiting => do
      modify fun s => { s with waiting := [] }
      waiting.reverse.forM (fill keys)
      fillAll keys fuel

/-- Finds the value of the first node. -/
def root (keys : Nat) : Assemble Unit := do
  discard (begin 0)
  fillAll keys ((← get).nodes.size + 1)

end Assemble

/-- The value of a node from what is known of all of them.  A value does not hold
itself: the fuel is one more than the number of nodes. -/
def valueAt (drafts : Array (Option Draft)) : (fuel : Nat) → Nat → Except Flaw Value
  | 0, _ => .error .malformed
  | fuel + 1, n =>
    match drafts[n]?.join with
    | none => .error .malformed
    | some (.whole v) => .ok v
    | some (.list items) => .list <$> items.mapM (valueAt drafts fuel)
    | some (.pairs items) =>
      .list <$> items.mapM fun i => do
        return pairValue (← valueAt drafts fuel i.1) (← valueAt drafts fuel i.2)
    | some (.map es) =>
      .map <$> es.mapM fun e => do
        return (e.1, ← valueAt drafts fuel e.2)
    | some (.set keys) => .ok (setValue keys)

/-- The number of entries of all mappings. -/
def entryCount (nodes : Array Node) : Nat :=
  nodes.foldl (fun count n => match n.content with
    | .mapping es => count + es.length
    | _ => count) 0

/-- The value of the document with some nodes, null if there are none. -/
def documentValue (nodes : Array Node) : Except Flaw Value := do
  if nodes.isEmpty then return .null
  let s ← (Assemble.root (entryCount nodes + 1)).run
    { nodes, drafts := Array.replicate nodes.size none }
  valueAt s.2.drafts (nodes.size + 1) 0

/-! ### Reading -/

/-- The text without a byte order mark at its beginning. -/
def withoutMark : List Char → List Char
  | '\uFEFF' :: cs => cs
  | cs => cs

/-- The value of the document in a text, null if there is none. -/
def read (text : String) : Except Flaw Value := do
  let (cs, isTorn) := legible text.toList
  documentValue (← nodes (withoutMark cs) isTorn)

/-- The codes from here on are not even looked up as characters. -/
def wideCode : Nat := 0x80000000

/-- The failure that a flaw is reported as.  That a text breaks the grammar is said
without words. -/
def Flaw.fault : Flaw → Fault
  | .malformed => .external "YAMLError" .other ""
  | .noCharacter code =>
    if code < wideCode then .external "ValueError" .value "chr() arg not in range(0x110000)"
    else .external "OverflowError" .range "Python int too large to convert to C int"
  | .numeral base text => .external "ValueError" .value (notANumberText base text)
  | .emptyNumeral => .external "IndexError" .other "string index out of range"
  | .truthValue text => .external "KeyError" .key (Text.quoted text)
  | .uncovered => .external "Uncovered" .other "fractions and times are not covered"

/-- The reader of documents that runs have. -/
def reader (text : String) : Outcome Value := (read text).mapError Flaw.fault

end StartupReport.Yaml
