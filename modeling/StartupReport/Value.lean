/-
StartupReport/Value.lean

Values whose shape is known only when they are read: settings, readings of the
host, arguments.

Six shapes are looked into.  A value of any other shape, such as a fraction, a
date or a set, is `Foreign`: what is known of it is what the program can notice.
The keys of a mapping are values of any shape, and two of them are one key if
they are equal (`Value.identity`), however they are written.

`Value.text` shows a value inside a line of text and `Value.quote` inside
another value, where texts are quoted.  The operations that a value may not
support (looking up a member, running through its items, arithmetic) answer
with a `Misuse` that says which operation met which shape.
-/
import StartupReport.Text.Quoted

namespace StartupReport

/-- What a value is compared by with others: a truth value by the number that it
equals, and so a fraction that is a whole number. -/
inductive Identity
  | null
  | number (n : Int)
  | text (s : String)
  /-- Something else, by a mark of its own. -/
  | mark (m : String)
  /-- A list or a mapping, which is compared by what is in it and is no key. -/
  | collection
deriving DecidableEq, Repr

/-- What can be noticed of a value of another shape: the name of its shape, how it
is shown in a line and inside another value, whether it counts as present, whether
it can be run through, the whole number that it equals if there is one, and the mark
that it is compared by if there is none. -/
structure Foreign where
  shape : String
  shown : String
  quoted : String
  isPresent : Bool
  isIterable : Bool
  number : Option Int
  mark : String
deriving DecidableEq, Repr

/-- What a value of another shape is compared by. -/
def Foreign.identity (kind : Foreign) : Identity :=
  match kind.number with
  | some n => .number n
  | none => .mark kind.mark

/-- A value of one of six shapes, or of another one with the items in it. -/
inductive Value
  | null
  | bool (b : Bool)
  | int (n : Int)
  | str (s : String)
  | list (items : List Value)
  | map (entries : List (Value × Value))
  | other (kind : Foreign) (items : List Value)
deriving Inhabited, Repr

/-- The entries of a mapping, in the order in which their keys first appeared. -/
abbrev Mapping := List (Value × Value)

/-- The shape of a value. -/
inductive Shape
  | null
  | bool
  | int
  | str
  | list
  | map
  | other (name : String)
deriving DecidableEq, Repr

/-- The name by which a message calls a shape. -/
def Shape.name : Shape → String
  | .null => "NoneType"
  | .bool => "bool"
  | .int => "int"
  | .str => "str"
  | .list => "list"
  | .map => "dict"
  | .other name => name

/-- An operation on a value whose shape does not support it. -/
inductive Misuse
  /-- The value has no member of this name. -/
  | member (shape : Shape) (name : String)
  /-- The value has no items to run through. -/
  | items (shape : Shape)
  /-- The value has no items to put together. -/
  | join (shape : Shape)
  /-- The value is not a pair because it has no items. -/
  | pair (shape : Shape)
  /-- The two operands do not go with the operator. -/
  | operands (operator : String) (left right : Shape)
  /-- The two values have no order. -/
  | order (relation : String) (left right : Shape)
  /-- The value has no entries to look up. -/
  | lookup (shape : Shape)
  /-- The value has items, but none under a name. -/
  | index (shape : Shape)
  /-- No entry can be written to the value. -/
  | assignment (shape : Shape)
  /-- The value does not denote a whole number. -/
  | number (shape : Shape)
  /-- A text was wanted at a place of a sequence. -/
  | element (place : Nat) (shape : Shape)
  /-- A text was wanted where a pattern is applied. -/
  | pattern (shape : Shape)
  /-- A text was wanted as the name of a logger. -/
  | loggerName
deriving DecidableEq, Repr

/-- What a misuse says. -/
def Misuse.message : Misuse → String
  | .member shape name => s!"'{shape.name}' object has no attribute '{name}'"
  | .items shape => s!"'{shape.name}' object is not iterable"
  | .join _ => "can only join an iterable"
  | .pair shape => s!"cannot unpack non-iterable {shape.name} object"
  | .operands operator left right =>
    s!"unsupported operand type(s) for {operator}: '{left.name}' and '{right.name}'"
  | .order relation left right =>
    s!"'{relation}' not supported between instances of '{left.name}' and '{right.name}'"
  | .lookup shape => s!"'{shape.name}' object is not subscriptable"
  | .index .list => "list indices must be integers or slices, not str"
  | .index _ => "string indices must be integers, not 'str'"
  | .assignment .list => "list indices must be integers or slices, not str"
  | .assignment shape => s!"'{shape.name}' object does not support item assignment"
  | .number shape =>
    "int() argument must be a string, a bytes-like object or a real number, not " ++
      s!"'{shape.name}'"
  | .element place shape =>
    s!"sequence item {place}: expected str instance, {shape.name} found"
  | .pattern shape => s!"expected string or bytes-like object, got '{shape.name}'"
  | .loggerName => "A logger name must be a string"

namespace Value

/-- The shape of a value. -/
def shape : Value → Shape
  | .null => .null
  | .bool _ => .bool
  | .int _ => .int
  | .str _ => .str
  | .list _ => .list
  | .map _ => .map
  | .other kind _ => .other kind.shape

/-- A value counts as present unless it is null, false, zero or empty. -/
def isPresent : Value → Bool
  | .null => false
  | .bool b => b
  | .int n => n != 0
  | .str s => s != ""
  | .list items => !items.isEmpty
  | .map entries => !entries.isEmpty
  | .other kind _ => kind.isPresent

/-- The first of two values if it is present, else the second. -/
def orElse (v other : Value) : Value := if v.isPresent then v else other

/-! ### Showing -/

mutual

/-- A value as it is shown inside another one: texts are quoted. -/
def quote : Value → String
  | .null => "None"
  | .bool true => "True"
  | .bool false => "False"
  | .int n => toString n
  | .str s => Text.quoted s
  | .list items => "[" ++ ", ".intercalate (quoteItems items) ++ "]"
  | .map entries => "\x7b" ++ ", ".intercalate (quoteEntries entries) ++ "\x7d"
  | .other kind _ => kind.quoted

/-- The items of a list, each quoted. -/
def quoteItems : List Value → List String
  | [] => []
  | v :: vs => quote v :: quoteItems vs

/-- The entries of a mapping, keys and values quoted. -/
def quoteEntries : List (Value × Value) → List String
  | [] => []
  | (k, v) :: es => (quote k ++ ": " ++ quote v) :: quoteEntries es

end

/-- A value as it is shown in a line: a text stands for itself. -/
def text : Value → String
  | .str s => s
  | .other kind _ => kind.shown
  | v => v.quote

/-! ### Equality, and the entries of a mapping -/

/-- The whole number that a value is; a truth value is one or zero. -/
def number? : Value → Option Int
  | .int n => some n
  | .bool b => some (if b then 1 else 0)
  | _ => none

/-- What a value is compared by. -/
def identity : Value → Identity
  | .null => .null
  | .bool b => .number (if b then 1 else 0)
  | .int n => .number n
  | .str s => .text s
  | .other kind _ => kind.identity
  | .list _ | .map _ => .collection

theorem identity_str_eq_iff {s t : String} :
    (Value.str s).identity = (Value.str t).identity ↔ s = t :=
  ⟨Identity.text.inj, congrArg Identity.text⟩

/-- What stands under a key among entries. -/
def lookup? {α : Type} (entries : List (Value × α)) (key : Value) : Option α :=
  (entries.find? fun e => e.1.identity == key.identity).map (·.2)

/-- Entries after something is written to a key: a key that is there stays as it is
written and where it is, and a new one goes to the end. -/
def write {α : Type} (entries : List (Value × α)) (key : Value) (value : α) : List (Value × α) :=
  match entries with
  | [] => [(key, value)]
  | (k, v) :: rest =>
    if k.identity = key.identity then (k, value) :: rest else (k, v) :: write rest key value

mutual

/-- Equality of values, of which a list and a mapping equal only their like. -/
def equal : Value → Value → Bool
  | .list xs, .list ys => equalItems xs ys
  | .map es, .map fs => es.length == fs.length && entriesWithin es fs
  | .list _, _ | .map _, _ => false
  | v, w => v.identity == w.identity

/-- Equality of the items of two lists, place by place. -/
def equalItems : List Value → List Value → Bool
  | [], [] => true
  | v :: vs, w :: ws => equal v w && equalItems vs ws
  | _, _ => false

/-- Every entry of the first mapping has an equal one in the second. -/
def entriesWithin : List (Value × Value) → List (Value × Value) → Bool
  | [], _ => true
  | (k, v) :: es, fs =>
    (match lookup? fs k with
      | some w => equal v w
      | none => false) && entriesWithin es fs

end

/-! ### Writing and looking up -/

section
variable {α : Type}

theorem lookup?_cons (e : Value × α) (entries : List (Value × α)) (key : Value) :
    lookup? (e :: entries) key
      = if e.1.identity = key.identity then some e.2 else lookup? entries key := by
  rw [lookup?, List.find?_cons]
  by_cases h : e.1.identity = key.identity
  · rw [if_pos h, beq_iff_eq.2 h, Option.map_some]
  · rw [if_neg h, beq_eq_false_iff_ne.2 h]
    rfl

theorem lookup?_write (entries : List (Value × α)) (key : Value) (value : α) (other : Value) :
    lookup? (write entries key value) other
      = if key.identity = other.identity then some value else lookup? entries other := by
  induction entries with
  | nil => exact lookup?_cons (key, value) [] other
  | cons e entries ih =>
    obtain ⟨k, v⟩ := e
    by_cases hk : k.identity = key.identity
    · rw [write, if_pos hk, lookup?_cons, lookup?_cons, hk]
      split <;> rfl
    · rw [write, if_neg hk, lookup?_cons, lookup?_cons, ih]
      by_cases h : k.identity = other.identity
      · rw [if_pos h, if_pos h, if_neg fun heq => hk (h.trans heq.symm)]
      · rw [if_neg h, if_neg h]

theorem lookup?_eq_none_iff (entries : List (Value × α)) (key : Value) :
    lookup? entries key = none ↔ ∀ e ∈ entries, e.1.identity ≠ key.identity := by
  rw [lookup?, Option.map_eq_none_iff, List.find?_eq_none]
  simp only [beq_iff_eq, ne_eq]

/-- What is found under a key is there, under a key that is the same. -/
theorem exists_mem_of_lookup? {entries : List (Value × α)} {key : Value} {value : α}
    (h : lookup? entries key = some value) :
    ∃ k, (k, value) ∈ entries ∧ k.identity = key.identity := by
  obtain ⟨⟨k, v⟩, hfound, rfl⟩ := Option.map_eq_some_iff.1 h
  exact ⟨k, List.mem_of_find?_eq_some hfound, by simpa using List.find?_some hfound⟩

end

/-! ### Sameness -/

mutual

/-- Two values are the same, shape by shape. -/
def same : Value → Value → Bool
  | .null, .null => true
  | .bool a, .bool b => a == b
  | .int m, .int n => m == n
  | .str s, .str t => s == t
  | .list vs, .list ws => sameItems vs ws
  | .map es, .map fs => sameEntries es fs
  | .other k vs, .other l ws => k == l && sameItems vs ws
  | _, _ => false

/-- Two lists of values are the same, place by place. -/
def sameItems : List Value → List Value → Bool
  | [], [] => true
  | v :: vs, w :: ws => same v w && sameItems vs ws
  | _, _ => false

/-- Two lists of entries are the same, place by place. -/
def sameEntries : List (Value × Value) → List (Value × Value) → Bool
  | [], [] => true
  | (k, v) :: es, (l, w) :: fs => same k l && same v w && sameEntries es fs
  | _, _ => false

end

mutual

theorem same_iff (v w : Value) : same v w = true ↔ v = w := by
  cases v with
  | null => cases w <;> simp [same]
  | bool => cases w <;> simp [same]
  | int => cases w <;> simp [same]
  | str => cases w <;> simp [same]
  | list items => cases w <;> simp [same, sameItems_iff items]
  | map entries => cases w <;> simp [same, sameEntries_iff entries]
  | other kind items => cases w <;> simp [same, sameItems_iff items]

theorem sameItems_iff (vs ws : List Value) : sameItems vs ws = true ↔ vs = ws := by
  cases vs with
  | nil => cases ws <;> simp [sameItems]
  | cons v vs => cases ws <;> simp [sameItems, same_iff v, sameItems_iff vs]

theorem sameEntries_iff (es fs : List (Value × Value)) : sameEntries es fs = true ↔ es = fs := by
  cases es with
  | nil => cases fs <;> simp [sameEntries]
  | cons e es =>
    obtain ⟨k, v⟩ := e
    cases fs <;> simp [sameEntries, same_iff k, same_iff v, sameEntries_iff es, Prod.ext_iff]

end

instance : DecidableEq Value := fun v w => decidable_of_iff _ (same_iff v w)

/-! ### Operations that need a shape -/

/-- The entries of a mapping. -/
def entriesFor (v : Value) (member : String) : Except Misuse Mapping :=
  match v with
  | .map entries => .ok entries
  | v => .error (.member v.shape member)

/-- The entry of a mapping under a name, null if there is none. -/
def entry (v : Value) (name : String) : Except Misuse Value :=
  (v.entriesFor "get").map fun entries => (lookup? entries (.str name)).getD .null

/-- The entry of a mapping under a name, an empty mapping if it is absent, null or
empty. -/
def group (v : Value) (name : String) : Except Misuse Value :=
  (v.entry name).map fun w => w.orElse (.map [])

/-- The items of a value: those of a list, the characters of a text, the keys of
a mapping, and those of another shape that can be run through. -/
def items (v : Value) : Except Misuse (List Value) :=
  match v with
  | .list items => .ok items
  | .str s => .ok (s.toList.map fun c => .str (String.singleton c))
  | .map entries => .ok (entries.map (·.1))
  | .other kind items => if kind.isIterable then .ok items else .error (.items (.other kind.shape))
  | v => .error (.items v.shape)

/-- The text that a value is; `member` is what was wanted of it. -/
def textFor (v : Value) (member : String) : Except Misuse String :=
  match v with
  | .str s => .ok s
  | v => .error (.member v.shape member)

/-- An operator on whole numbers. -/
def arithmetic (operator : String) (f : Int → Int → Int) (v w : Value) : Except Misuse Value :=
  match v.number?, w.number? with
  | some m, some n => .ok (.int (f m n))
  | _, _ => .error (.operands operator v.shape w.shape)

end Value

end StartupReport
