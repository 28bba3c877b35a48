import ChatGateway.Toml.Node

/-! # Assembling the tables of a TOML document

A document is read line by line into an `Assembly`: the tables finished so far (`root`) and the
table being filled (`current`), with the header path that opened it.

* A key-value line goes into the current table, through the tables its dotted key names (made
  as needed, *dotted*); a key already there is a duplicate.
* A header finishes the current table, putting it into the document at its path (through
  tables made as needed, *implicit*), and opens the next one. A header may define an implicit
  table a longer header made, keeping what that table holds, but never a table already defined,
  nor one dotted keys made; an array-of-tables header adds one more table to its array.
* The tables of an inline table are assembled the same way, from its key-value pairs.
-/

namespace ChatGateway

namespace Toml

/-- **Why the tables of a document do not fit together.** -/
inductive TableError where
  /-- A key defined twice, with the table it was in when that is known. -/
  | duplicateKey (key : String) (table : Option (List String))
  /-- A dotted key running through a value that is not a table. -/
  | extendWrongType (path : List String) (actual : String)
  deriving Repr

namespace TableError

/-- The words of an error. -/
def text : TableError → String
  | .duplicateKey k none => "duplicate key `" ++ k ++ "`"
  | .duplicateKey k (some []) => "duplicate key `" ++ k ++ "` in document root"
  | .duplicateKey k (some t) => "duplicate key `" ++ k ++ "` in table `" ++ ".".intercalate t ++ "`"
  | .extendWrongType p a =>
    "dotted key `" ++ ".".intercalate p ++ "` attempted to extend non-table type (" ++ a ++ ")"

/-- The duplicate of the `i`-th key of a header path, named as written. -/
def duplicateAt (path : List TomlKey) (i : Nat) : TableError :=
  .duplicateKey ((path[i]?.map (·.raw)).getD "") (some ((path.take i).map (·.name)))

end TableError

/-- A table change that may fail and gives back a result. -/
abbrev TableStep (α : Type) := Except TableError (Node × α)

/-- **Changes the table at `path` below a document table**, making implicit (and, for dotted
keys, dotted) tables where the path has none, and running through the last table of an array of
tables. `full` is the whole path, `i` the index of `path`'s first key in it. -/
def descend {α : Type} (dotted : Bool) (full : List TomlKey) :
    Nat → List TomlKey → Node → (Node → TableStep α) → TableStep α
  | _, [], t, k => k t
  | i, key :: rest, t, k =>
    let fresh := Node.emptyTable true dotted
    let (es, child) := match lookupEntry key.name t.entries with
      | some n => (t.entries, n)
      | none => (t.entries ++ [(key, fresh)], fresh)
    let put (child : Node) : Node := t.withEntries (replaceEntry key.name child es)
    match child with
    | .table .. =>
      if dotted && !child.isImplicit then .error (.duplicateKey key.name none)
      else
        match descend dotted full (i + 1) rest child k with
        | .ok (child, a) => .ok (put child, a)
        | .error e => .error e
    | .tables items =>
      match items.getLast? with
      | some last =>
        match descend dotted full (i + 1) rest last k with
        | .ok (last, a) => .ok (put (.tables (items.dropLast ++ [last])), a)
        | .error e => .error e
      | none => .error (.duplicateKey key.name none)
    | other => .error (.extendWrongType ((full.take (i + 1)).map (·.name)) other.typeName)

/-- **The tables of a document being read.** -/
structure Assembly where
  root : Node
  current : Node
  path : List TomlKey
  isArray : Bool
  deriving Repr

namespace Assembly

/-- The start of a document: the current table is the root, spanning nothing yet. -/
def start : Assembly :=
  ⟨.table [] false false none, .table [] false false (some ⟨0, 0⟩), [], false⟩

/-- **A key-value line** with dotted path `path`, last key `key`, and value `value`. -/
def keyValue (a : Assembly) (path : List TomlKey) (key : TomlKey) (value : Node) :
    Except TableError Assembly :=
  let current := match a.current, value.span? with
    | .table es i d (some s), some v => .table es i d (some ⟨s.start, v.stop⟩)
    | other, _ => other
  let r := descend true path 0 path current fun t =>
    if t.isDotted == path.isEmpty then .error (.duplicateKey key.name none)
    else if (lookupEntry key.name t.entries).isSome then
      .error (.duplicateKey key.name (some (a.path.map (·.name))))
    else .ok (t.withEntries (t.entries ++ [(key, value)]), ())
  r.map fun (current, _) => { a with current }

/-- **Finishes the current table,** putting it into the document at its path. -/
def finish (a : Assembly) : Except TableError Assembly :=
  let table := a.current
  let blank : Assembly := { a with current := .table [] false false none, path := [] }
  match a.path.getLast? with
  | none => .ok { blank with root := table }
  | some key =>
    let parent := a.path.dropLast
    let i := parent.length
    let r := descend false parent 0 parent a.root fun p =>
      let es := p.entries
      match lookupEntry key.name es, a.isArray with
      | some (.tables ts), true =>
        .ok (p.withEntries (replaceEntry key.name (.tables (ts ++ [table])) es), ())
      | none, true => .ok (p.withEntries (es ++ [(key, .tables [table])]), ())
      | some (.table _ true _ _), false => .ok (p.withEntries (replaceEntry key.name table es), ())
      | none, false => .ok (p.withEntries (es ++ [(key, table)]), ())
      | some _, _ => .error (TableError.duplicateAt a.path i)
    r.map fun (root, _) => { blank with root }

/-- **Opens a table** at a header path, taking over an implicit table a longer header made. -/
def openTable (a : Assembly) (path : List TomlKey) (span : Span) : Except TableError Assembly :=
  match path.getLast? with
  | none => .ok a
  | some key =>
    let parent := path.dropLast
    let r := descend false parent 0 parent a.root fun p =>
      match lookupEntry key.name p.entries with
      | some (.table es true false _) => .ok (p.withEntries (removeEntry key.name p.entries), es)
      | some _ => .error (TableError.duplicateAt path parent.length)
      | none => .ok (p, [])
    r.map fun (root, es) => ⟨root, .table es false false (some span), path, false⟩

/-- **Opens one more table of an array of tables** at a header path. -/
def openArrayTable (a : Assembly) (path : List TomlKey) (span : Span) :
    Except TableError Assembly :=
  match path.getLast? with
  | none => .ok a
  | some key =>
    let parent := path.dropLast
    let r := descend false parent 0 parent a.root fun p =>
      match lookupEntry key.name p.entries with
      | some (.tables _) => .ok (p, ())
      | some _ => .error (TableError.duplicateAt path parent.length)
      | none => .ok (p.withEntries (p.entries ++ [(key, .tables [])]), ())
    r.map fun (root, _) => ⟨root, .table [] false false (some span), path, true⟩

/-- A `[table]` header: the current table is finished and the header's opened. -/
def tableHeader (a : Assembly) (path : List TomlKey) (span : Span) :
    Except TableError Assembly := do
  let a ← a.finish
  a.openTable path span

/-- A `[[table]]` header. -/
def arrayHeader (a : Assembly) (path : List TomlKey) (span : Span) :
    Except TableError Assembly := do
  let a ← a.finish
  a.openArrayTable path span

end Assembly

/-- Changes the inline table at `path` below an inline table, making dotted tables as needed. -/
def descendInline {α : Type} (full : List TomlKey) :
    Nat → List TomlKey → Node → (Node → TableStep α) → TableStep α
  | _, [], t, k => k t
  | i, key :: rest, t, k =>
    let fresh := Node.inline [] true none
    let (es, child) := match lookupEntry key.name t.entries with
      | some n => (t.entries, n)
      | none => (t.entries ++ [(key, fresh)], fresh)
    match child with
    | .inline .. =>
      if !child.isImplicit then .error (.duplicateKey key.name none)
      else
        match descendInline full (i + 1) rest child k with
        | .ok (child, a) => .ok (t.withEntries (replaceEntry key.name child es), a)
        | .error e => .error e
    | other => .error (.extendWrongType ((full.take (i + 1)).map (·.name)) other.typeName)

/-- **The entries of an inline table** from its key-value pairs (dotted path, last key, value). -/
def inlineEntries (pairs : List (List TomlKey × TomlKey × Node)) :
    Except TableError (List (TomlKey × Node)) :=
  let step (t : Node) (pair : List TomlKey × TomlKey × Node) : Except TableError Node :=
    let (path, key, value) := pair
    let r := descendInline path 0 path t fun t =>
      if t.isDotted == path.isEmpty then .error (.duplicateKey key.name none)
      else if (lookupEntry key.name t.entries).isSome then .error (.duplicateKey key.name none)
      else .ok (t.withEntries (t.entries ++ [(key, value)]), ())
    r.map (·.1)
  (pairs.foldlM step (Node.inline [] false none)).map Node.entries

end Toml

end ChatGateway
