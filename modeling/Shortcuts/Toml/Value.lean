import Shortcuts.Toml.Scalar

/-!
Values of TOML and how they are written: scalars, quoted texts, arrays and inline tables. A table
lists its fields in the order in which they were first named.
-/
namespace Shortcuts.Toml

inductive Value where
  | scalar (value : Scalar)
  | text (value : String)
  | array (items : List Value)
  | table (fields : List (String × Value))
  deriving Inhabited

/-- A table under construction. What a header or a pair has closed takes no more fields. -/
inductive Node where
  | value (v : Value)
  /-- `defined` tells a table with a header of its own from one that others need, `dotted` one
  that a dotted key made. -/
  | table (defined dotted : Bool) (fields : List (String × Node))
  /-- The tables of an array, the last one first; each is a list of fields. -/
  | tables (reversed : List (List (String × Node)))
  deriving Inhabited

abbrev Fields := List (String × Node)

namespace Fields

/-- Sets a field, which keeps its place if it is there already. -/
def set (name : String) (node : Node) : Fields → Fields
  | [] => [(name, node)]
  | (k, n) :: rest => if k = name then (name, node) :: rest else (k, n) :: set name node rest

/-- Puts a value under a dotted key. A key that is there already is refused, and so is one below
a value or below a table with a header. -/
def put (value : Value) (last : String) : List String → Fields → Option Fields
  | [], fields =>
    match fields.lookup last with
    | none => some (fields.set last (.value value))
    | some _ => none
  | name :: names, fields =>
    match fields.lookup name with
    | none => (put value last names []).map fun inner => fields.set name (.table false true inner)
    | some (.table false dotted inner) =>
      (put value last names inner).map fun inner => fields.set name (.table false dotted inner)
    | some _ => none

/-- Changes the table that a header leads to through other tables, of an array the last. -/
def under (change : Fields → Option Fields) : List String → Fields → Option Fields
  | [], fields => change fields
  | name :: names, fields =>
    match fields.lookup name with
    | none => (under change names []).map fun inner => fields.set name (.table false false inner)
    | some (.table defined dotted inner) =>
      (under change names inner).map fun inner => fields.set name (.table defined dotted inner)
    | some (.tables (inner :: others)) =>
      (under change names inner).map fun inner => fields.set name (.tables (inner :: others))
    | some _ => none

/-- Opens the table of a header. -/
def define (name : String) (fields : Fields) : Option Fields :=
  match fields.lookup name with
  | none => some (fields.set name (.table true false []))
  | some (.table false false inner) => some (fields.set name (.table true false inner))
  | some _ => none

/-- Opens one more table of an array. -/
def append (name : String) (fields : Fields) : Option Fields :=
  match fields.lookup name with
  | none => some (fields.set name (.tables [[]]))
  | some (.tables others) => some (fields.set name (.tables ([] :: others)))
  | some _ => none

/-- Changes the table that was opened last. -/
def within (change : Fields → Option Fields) : (header : List String) → Fields → Option Fields
  | [], fields => change fields
  | name :: names, fields =>
    match fields.lookup name with
    | some (.table defined dotted inner) =>
      (within change names inner).map fun inner => fields.set name (.table defined dotted inner)
    | some (.tables (inner :: others)) =>
      (within change names inner).map fun inner => fields.set name (.tables (inner :: others))
    | _ => none

end Fields

mutual

def Node.finish : Node → Value
  | .value v => v
  | .table _ _ fields => .table (finishFields fields)
  | .tables reversed => .array (finishTables reversed).reverse

def finishFields : List (String × Node) → List (String × Value)
  | [] => []
  | (name, node) :: rest => (name, node.finish) :: finishFields rest

def finishTables : List (List (String × Node)) → List Value
  | [] => []
  | fields :: rest => .table (finishFields fields) :: finishTables rest

end

/-! ## Written values -/

mutual

/-- `fuel` bounds the number of steps; each takes at least one character or closes a level. -/
def value : (fuel : Nat) → List Char → Option (Value × List Char)
  | 0, _ => none
  | fuel + 1, cs =>
    match cs with
    | '[' :: rest => (items fuel rest).map fun (xs, rest) => (.array xs, rest)
    | '\x7b' :: rest =>
      (inlineFields fuel [] rest).map fun (fields, rest) => (.table (finishFields fields), rest)
    | c :: rest =>
      if c = '"' || c = '\'' then
        (quotedText (c :: rest)).map fun (s, rest) => (.text (String.ofList s), rest)
      else (scalar (c :: rest)).map fun (s, rest) => (.scalar s, rest)
    | [] => none

/-- The items of an array up to its end; a comma may stand behind the last one. -/
def items : (fuel : Nat) → List Char → Option (List Value × List Char)
  | 0, _ => none
  | fuel + 1, cs => do
    match ← skipAllSpace cs with
    | ']' :: rest => some ([], rest)
    | cs =>
      let (x, rest) ← value fuel cs
      match ← skipAllSpace rest with
      | ',' :: rest =>
        let (xs, rest) ← items fuel rest
        some (x :: xs, rest)
      | ']' :: rest => some ([x], rest)
      | _ => none

/-- The fields of an inline table up to its end. -/
def inlineFields : (fuel : Nat) → Fields → List Char → Option (Fields × List Char)
  | 0, _, _ => none
  | fuel + 1, fields, cs => do
    match ← skipAllSpace cs with
    | '\x7d' :: rest => some (fields, rest)
    | cs =>
      let (path, rest) ← dottedKey (cs.length + 1) cs
      match rest with
      | '=' :: rest =>
        let (x, rest) ← value fuel (skipBlanks rest)
        let fields ← fields.put x (path.getLastD "") path.dropLast
        match ← skipAllSpace rest with
        | ',' :: rest => inlineFields fuel fields rest
        | '\x7d' :: rest => some (fields, rest)
        | _ => none
      | _ => none

end

end Shortcuts.Toml
