import CameraAcquisition.Toml.Document
import CameraAcquisition.Text.Decimal

/-!
# Decoding TOML tables into typed data

The data to decode is described by a `Shape`: bounded integers, floats, optional values,
choices among names, and records of named fields. Decoding yields a `Datum`, and a record
yields one optional datum per field, in field order; absent fields get their defaults later.

A value decodes as its shape asks. A record may also come from an inline table, a dotted
table, or an array (its items fill the fields in order). A choice comes from a string, or an
inline table with one key whose value is an empty table.

Tables are walked as a tree: the root walk visits the root table's values, then every other
table in document order, each as the first key of its header not yet visited. Visiting such a
key walks the tables below it, one level deeper. A table is read once; reading it a second
time under the same header is a redefinition. An array of tables is a sequence.

Errors name the keys they happened under, innermost last, and carry the offset of the value
that caused them. An array places no error: an error from an array or its items takes the
start of the inline table around it, or else the last table header of the document.

## What this module delivers

- `Shape`, `Datum`.
- `decode`, which reads a document and decodes it as a shape.
-/

set_option autoImplicit false

namespace CameraAcquisition.Toml

/-- What data to decode. -/
inductive Shape where
  /-- A whole number in `[0, max]`, named `name` in messages. -/
  | unsigned (name : String) (max : Nat)
  /-- A whole number in `[-below, above]`. -/
  | signed (name : String) (below above : Nat)
  /-- A float; whole numbers are converted. -/
  | real
  /-- A value that may be absent; present, it decodes as the inner shape. -/
  | optional (inner : Shape)
  /-- One of the given names. -/
  | choice (names : List String)
  /-- A record with named fields. -/
  | record (name : String) (fields : List (String × Shape))
  deriving Inhabited

/-- Decoded data. -/
inductive Datum where
  | whole (i : Int)
  | real (f : Float)
  | pick (index : Nat)
  | record (fields : List (Option Datum))
  deriving Inhabited

namespace Shape

/-- What messages say was expected. -/
def expected : Shape → String
  | unsigned name _ => name
  | signed name _ _ => name
  | real => "f64"
  | optional inner => inner.expected
  | choice _ => "enum"
  | record name _ => "struct " ++ name

end Shape

/-- Names in backticks, as a list of alternatives. -/
def oneOf (names : List String) : String :=
  let tick (n : String) : String := "`" ++ n ++ "`"
  match names with
  | [a] => tick a
  | [a, b] => tick a ++ " or " ++ tick b
  | _ => "one of " ++ ", ".intercalate (names.map tick)

/-- An unknown field of a record. -/
def unknownField (k : String) (fields : List String) : Failure :=
  .loose (.custom (if fields.isEmpty then "unknown field `" ++ k ++ "`, there are no fields"
    else "unknown field `" ++ k ++ "`, expected " ++ oneOf fields))

/-- An unknown name of a choice. -/
def unknownVariant (k : String) (names : List String) : Failure :=
  .loose (.custom (if names.isEmpty then "unknown variant `" ++ k ++ "`, there are no variants"
    else "unknown variant `" ++ k ++ "`, expected " ++ oneOf names))

/-- A field given twice. -/
def duplicateField (k : String) : Failure := .loose (.custom ("duplicate field `" ++ k ++ "`"))

/-- A value of the wrong type. -/
def invalidType (found expected : String) : Failure :=
  .loose (.custom ("invalid type: " ++ found ++ ", expected " ++ expected))

/-- A value of the right type out of range. -/
def invalidValue (found expected : String) : Failure :=
  .loose (.custom ("invalid value: " ++ found ++ ", expected " ++ expected))

/-- How messages name what a value turned out to be. -/
def unexpected : Value → String
  | .integer i _ => "integer `" ++ toString i ++ "`"
  | .float f _ => "floating point `" ++ Text.showFloatPointed f ++ "`"
  | .boolean b _ => "boolean `" ++ toString b ++ "`"
  | .string s _ => "string " ++ Text.quote s
  | .datetime .. => "map"
  | .array .. => "sequence"
  | .inlineTable .. => "map"
  | .dottedTable .. => "map"

/-- The position of a name in a list. -/
def indexOf (names : List String) (k : String) : Option Nat := names.findIdx? (· = k)

/-- A number, float or other scalar. -/
def scalarFromValue (s : Shape) (v : Value) : Except Failure Datum :=
  match v, s with
  | .integer i _, .unsigned name max =>
    if 0 ≤ i ∧ i ≤ max then .ok (.whole i) else .error (invalidValue (unexpected v) name)
  | .integer i _, .signed name below above =>
    if -(below : Int) ≤ i ∧ i ≤ above then .ok (.whole i)
    else .error (invalidValue (unexpected v) name)
  | .integer i _, .real => .ok (.real (Text.Binary64.nearest (i < 0) i.natAbs 1))
  | .float f _, .real => .ok (.real f)
  | _, _ => .error (invalidType (unexpected v) s.expected)

/-- A choice from a value. -/
def choiceFromValue (names : List String) (v : Value) : Except Failure Datum :=
  match v with
  | .string k _ =>
    match indexOf names k with
    | some i => .ok (.pick i)
    | none => .error (unknownVariant k names)
  | .inlineTable [(k, inner)] _ =>
    match indexOf names k with
    | none => .error (unknownVariant k names)
    | some i =>
      match inner with
      | .inlineTable [] _ | .dottedTable [] _ => .ok (.pick i)
      | .inlineTable .. | .dottedTable .. => .error (.located inner.start .expectedEmptyTable)
      | other => .error (.located other.start (.wanted "table" other.typeName))
  | .inlineTable [] span =>
    .error (.located span.start (.wanted "exactly 1 element" "zero elements"))
  | .inlineTable _ span =>
    .error (.located span.start (.wanted "exactly 1 element" "more than 1 element"))
  | other => .error (.located other.start (.wanted "string or inline table" other.typeName))

/-- Places an error that has no position at the start of the value that raised it. An array
claims none: what goes wrong with an array or its items stays without a position, and is
placed by the value or table around it. -/
def Value.claim (v : Value) (f : Failure) : Failure :=
  match v with
  | .array .. => f
  | _ => f.placeAt (some v.start)

mutual

/-- A datum of a shape from a value. -/
def fromValue : Nat → Shape → Value → Except Failure Datum
  | 0, _, _ => .error (.loose (.custom "nesting too deep"))
  | fuel + 1, s, v =>
    match s with
    | .optional inner => fromValue fuel inner v
    | .choice names => choiceFromValue names v
    | .record name fields =>
      let fromRecord : Except Failure Datum :=
        match v with
        | .inlineTable entries _ | .dottedTable entries _ =>
          (fromEntries fuel fields entries (fields.map fun _ => none)).map Datum.record
        | .array items _ => (fromItems fuel fields items).map Datum.record
        | .datetime d span =>
          (fromEntries fuel fields [("$__toml_private_datetime", .string d span)]
            (fields.map fun _ => none)).map Datum.record
        | other => .error (invalidType (unexpected other) ("struct " ++ name))
      fromRecord.mapError v.claim
    | _ => (scalarFromValue s v).mapError v.claim

/-- The fields of a record from the entries of a table value. -/
def fromEntries : Nat → List (String × Shape) → List (String × Value) → List (Option Datum) →
    Except Failure (List (Option Datum))
  | 0, _, _, _ => .error (.loose (.custom "nesting too deep"))
  | _ + 1, _, [], acc => .ok acc
  | fuel + 1, fields, (k, v) :: rest, acc =>
    match indexOf (fields.map Prod.fst) k with
    | none => .error (unknownField k (fields.map Prod.fst))
    | some idx =>
      if (acc.getD idx none).isSome then .error (duplicateField k)
      else match fromValue fuel ((fields.getD idx ("", .real)).2) v with
        | .ok d => fromEntries fuel fields rest (acc.set idx (some d))
        | .error f => .error f

/-- The fields of a record from the items of an array, in order. -/
def fromItems : Nat → List (String × Shape) → List Value → Except Failure (List (Option Datum))
  | 0, _, _ => .error (.loose (.custom "nesting too deep"))
  | fuel + 1, fields, items =>
    let rec fill : List (String × Shape) → List Value → Except Failure (List (Option Datum))
      | [], _ => .ok []
      | _ :: fs, [] => (fill fs []).map fun ds => none :: ds
      | (_, s) :: fs, v :: vs =>
        match fromValue fuel s v with
        | .ok d => (fill fs vs).map fun ds => some d :: ds
        | .error f => .error f
    match fill fields items with
    | .error f => .error f
    | .ok ds =>
      if items.length > fields.length then
        .error (.loose (.custom ("invalid length " ++ toString items.length ++ ", expected " ++
          (if fields.length = 1 then "1 element in sequence"
           else toString fields.length ++ " elements in sequence"))))
      else .ok ds

end

/-! ## Walking the tables -/

/-- Where a walk over the tables stands: the values of the current table still to visit,
the depth in the header tree, the next table to look at, the table whose header the walk is
under, the end of the tables it may look at, and whether it walks an array of tables. -/
structure Walk where
  pending : List (String × Value)
  depth : Nat
  cur : Nat
  parent : Nat
  limit : Nat
  array : Bool
  deriving Inhabited

/-- What a walk visits next: a value under a key, or the key of a table level below. -/
inductive Entry where
  | value (k : String) (v : Value)
  | table (k : String)
  deriving Inhabited

namespace Entry

/-- The key of an entry. -/
def key : Entry → String
  | value k _ => k
  | table k => k

end Entry

/-- A computation over the tables, which it may read and take values from, and which may
fail. -/
abbrev Walker (α : Type) := StateT (Array Table) (Except Failure) α

/-- The header of table `i`. -/
def headerOf (ts : Array Table) (i : Nat) : List String := (ts[i]?.map Table.header).getD []

/-- The first table from `start` below `limit` whose header extends `pre` and whose values
are still there. -/
def findTable (ts : Array Table) (pre : List String) (start limit : Nat) : Option Nat :=
  (List.range' start (limit - start)).find? fun i =>
    match ts[i]? with
    | some t => t.header.take pre.length == pre && pre.length ≤ t.header.length && t.values.isSome
    | none => false

/-- Takes away the values of table `i`. -/
def takeValues (i : Nat) : Walker (List (String × Value)) := do
  let ts ← get
  match ts[i]? with
  | some t =>
    set (ts.setIfInBounds i { t with values := none })
    pure (t.values.getD [])
  | none => pure []

/-- The next entry of a walk. -/
def nextEntryFrom : Nat → Walk → Walker (Option (Entry × Walk))
  | 0, _ => pure none
  | fuel + 1, w =>
    match w.pending with
    | (k, v) :: rest => pure (some (.value k v, { w with pending := rest }))
    | [] => do
      let ts ← get
      let pre := (headerOf ts w.parent).take w.depth
      match findTable ts pre w.cur w.limit with
      | none => pure none
      | some pos =>
        let w := { w with cur := pos }
        let t := ts[pos]?.getD default
        let parentHeader := headerOf ts w.parent
        let w ← if w.parent ≠ pos then
            if parentHeader == t.header then
              throw (.located t.offset (.duplicateTable (".".intercalate t.header)))
            else pure (if t.header.length < parentHeader.length then { w with parent := pos } else w)
          else pure w
        if w.depth ≠ t.header.length then
          pure (some (.table (t.header.getD w.depth ""), w))
        else if t.array then throw (.located t.offset .redefineAsArray)
        else do
          let values ← takeValues pos
          nextEntryFrom fuel { w with pending := values }

/-- The next entry of a walk, if the walk is not over. -/
def nextEntry (fuel : Nat) (w : Walk) : Walker (Option (Entry × Walk)) :=
  if w.parent = w.limit ∨ w.cur = w.limit then pure none else nextEntryFrom fuel w

/-- Enters the table level of the table entry just visited: the walk moves past the table,
and the new walk goes one level deeper, or stays at its level for an array of tables. -/
def enter (w : Walk) : Walker (Walk × Walk) := do
  let ts ← get
  let t := ts[w.cur]?.getD default
  let isArray := t.array && w.depth + 1 = t.header.length
  pure ({ w with cur := w.cur + 1 },
    ⟨[], w.depth + (if isArray then 0 else 1), 0, w.cur, w.limit, isArray⟩)

/-- Lifts a computation that may fail. -/
def liftResult {α : Type} (e : Except Failure α) : Walker α :=
  match e with
  | .ok a => pure a
  | .error f => throw f

/-- A choice from a table level: the document must have this table only, and its last
header key names the choice. -/
def choiceFromWalk (names : List String) (w : Walk) : Walker Datum := do
  let ts ← get
  if ts.size ≠ 1 then throw (.located w.cur (.custom "enum table must contain exactly one table"))
  let values ← takeValues 0
  let header := headerOf ts 0
  match header.getLast? with
  | none => throw (.located w.cur .emptyTableKey)
  | some name =>
    match indexOf names name with
    | none => throw (unknownVariant name names)
    | some i => if values.isEmpty then pure (.pick i) else throw (.located 0 .expectedEmptyTable)

/-- The first table from `start` with exactly the header `h`. -/
def findSame (ts : Array Table) (h : List String) (start : Nat) : Option Nat :=
  (List.range' start (ts.size - start)).find? fun i => headerOf ts i == h

mutual

/-- A datum of a shape from a table level. -/
def fromWalk : Nat → Shape → Walk → Walker Datum
  | 0, _, _ => throw (.loose (.custom "nesting too deep"))
  | fuel + 1, s, w =>
    match s with
    | .optional inner => fromWalk fuel inner w
    | .choice names => choiceFromWalk names w
    | .record _ fields =>
      if w.array then do
        let (ds, _) ← fromElements fuel fields w
        pure (.record ds)
      else (fromTables fuel fields w (fields.map fun _ => none)).map Datum.record
    | _ => throw (invalidType (if w.array then "sequence" else "map") s.expected)

/-- The fields of a record from the entries of a walk. -/
def fromTables : Nat → List (String × Shape) → Walk → List (Option Datum) →
    Walker (List (Option Datum))
  | 0, _, _, _ => throw (.loose (.custom "nesting too deep"))
  | fuel + 1, fields, w, acc => do
    match ← nextEntry fuel w with
    | none => pure acc
    | some (e, w) =>
      let names := fields.map Prod.fst
      match indexOf names e.key with
      | none => throw (unknownField e.key names)
      | some idx =>
        if (acc.getD idx none).isSome then throw (duplicateField e.key)
        let s := (fields.getD idx ("", .real)).2
        match e with
        | .value k v =>
          match fromValue fuel s v with
          | .ok d => fromTables fuel fields w (acc.set idx (some d))
          | .error f => throw (f.withKey k)
        | .table k => do
          let (w, sub) ← enter w
          let d ← tryCatch (fromWalk fuel s sub) fun f => throw (f.withKey k)
          fromTables fuel fields w (acc.set idx (some d))

/-- The fields of a record from the elements of an array of tables, in order. -/
def fromElements : Nat → List (String × Shape) → Walk → Walker (List (Option Datum) × Walk)
  | 0, _, w => pure ([], w)
  | _ + 1, [], w => pure ([], w)
  | fuel + 1, (_, s) :: fs, w => do
    if w.parent = w.limit then
      let (ds, w) ← fromElements fuel fs w
      pure (none :: ds, w)
    else
      let ts ← get
      let header := headerOf ts w.parent
      let nextIndex := (findSame ts header (w.parent + 1)).getD w.limit
      let values ← takeValues w.parent
      let d ← fromWalk fuel s ⟨values, w.depth + 1, 0, w.parent, nextIndex, false⟩
      let (ds, w) ← fromElements fuel fs { w with parent := nextIndex }
      pure (some d :: ds, w)

end

/-- Reads a document and decodes it as a shape. -/
def decode (s : Shape) (input : String) : Except Failure Datum := do
  let ts ← readTables input
  let fuel := input.utf8ByteSize + 8
  match (fromWalk fuel s ⟨[], 0, 0, 0, ts.size, false⟩).run ts with
  | .ok (d, _) => .ok d
  | .error f => .error (f.placeAt (ts.back?.map Table.offset))

end CameraAcquisition.Toml
