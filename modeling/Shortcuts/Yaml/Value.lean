import Shortcuts.Yaml.Resolution
import Shortcuts.Json.Basic

/-!
Reading the nodes of a document as values. Collections may be nested 128 deep and a document may
follow at most a hundred references for each of its nodes. A `record` is a mapping whose keys are
taken as text whatever their type; its values are JSON. A `Value` keeps the types of the keys and
refuses a key that occurs twice.
-/
namespace Shortcuts.Yaml

/-- The node a reference stands for; following it takes one of the references left. -/
def follow (left : Nat) : Node → Option (Node × Nat)
  | .reference target => if left = 0 then none else some (target, left - 1)
  | n => some (n, left)

def nestingLimit : Nat := 128

def referenceLimit (n : Node) : Nat := 100 * n.size

/-! ## JSON -/

def keyText (left : Nat) (key : Node) : Option (String × Nat) :=
  (follow left key).bind fun
    | (.scalar _ _ text, left) => some (text, left)
    | _ => none

def Resolved.json (text : String) : Resolved → Json
  | .null => .null
  | .bool b => .bool b
  | .integer n => .number (.integer n)
  | .float x => if x.isFinite then .number (.float x) else .null
  | .text => .string text

def scalarJson (tag : Option String) (plain : Bool) (text : String) : Option Json :=
  match privateTag? tag with
  | some _ => none
  | none => (resolve tag plain text).map (Resolved.json text)

def itemsWith {α : Type} (read : Nat → Node → Option (α × Nat)) :
    Nat → List Node → Option (List α × Nat)
  | left, [] => some ([], left)
  | left, n :: rest => do
    let (x, left) ← read left n
    let (xs, left) ← itemsWith read left rest
    some (x :: xs, left)

def fieldsWith {α β : Type} (readKey : Nat → Node → Option (α × Nat))
    (read : Nat → Node → Option (β × Nat)) :
    Nat → List (Node × Node) → Option (List (α × β) × Nat)
  | left, [] => some ([], left)
  | left, (k, v) :: rest => do
    let (key, left) ← readKey left k
    let (value, left) ← read left v
    let (fields, left) ← fieldsWith readKey read left rest
    some ((key, value) :: fields, left)

/-- `depth` is the number of collections that may still be entered. -/
def json : (depth left : Nat) → Node → Option (Json × Nat)
  | 0, left, n =>
    (follow left n).bind fun
      | (.scalar tag plain text, left) => (scalarJson tag plain text).map (·, left)
      | _ => none
  | depth + 1, left, n =>
    (follow left n).bind fun
      | (.scalar tag plain text, left) => (scalarJson tag plain text).map (·, left)
      | (.sequence tag items, left) =>
        if (privateTag? tag).isSome then none
        else (itemsWith (json depth) left items).map fun (xs, left) => (.array xs, left)
      | (.mapping tag fields, left) =>
        if (privateTag? tag).isSome then none
        else (fieldsWith keyText (json depth) left fields).map fun (fs, left) =>
          (.object fs, left)
      | (.reference _, _) => none

/-- The fields of a text whose only document is a mapping. A text without a document and a
document to which nothing was written have none. -/
def record? (text : List Char) : Option (List (String × Json)) := do
  match ← document? text with
  | none => some []
  | some n =>
    match n with
    | .mapping _ fields =>
      (fieldsWith keyText (json (nestingLimit - 1)) (referenceLimit n) fields).map Prod.fst
    | .scalar _ true "" => some []
    | _ => none

/-! ## Typed values -/

inductive Value where
  | null
  | bool (value : Bool)
  | integer (value : Int)
  | float (value : Binary64)
  | text (value : String)
  | sequence (items : List Value)
  | mapping (fields : List (Value × Value))
  | tagged (tag : String) (value : Value)
  deriving Inhabited

namespace Value

def sameFloat : Binary64 → Binary64 → Bool
  | .finite s m e, .finite t n f => (m = 0 && n = 0) || (s = t && m = n && e = f)
  | x, y => x = y

mutual

/-- Whether two values are the same key. The two zeros are one number. -/
def same : Value → Value → Bool
  | null, null => true
  | bool a, bool b => a = b
  | integer a, integer b => a = b
  | float a, float b => sameFloat a b
  | text a, text b => a = b
  | sequence a, sequence b => sameItems a b
  | mapping a, mapping b => a.length = b.length && coveredBy a b
  | tagged s a, tagged t b => s = t && same a b
  | _, _ => false

def sameItems : List Value → List Value → Bool
  | [], [] => true
  | x :: xs, y :: ys => same x y && sameItems xs ys
  | _, _ => false

/-- Whether each field is among the others. -/
def coveredBy : List (Value × Value) → List (Value × Value) → Bool
  | [], _ => true
  | (k, v) :: rest, b => b.any (fun f => same k f.1 && same v f.2) && coveredBy rest b

end

def get? (name : String) : Value → Option Value
  | mapping fields => (fields.find? fun f => same (.text name) f.1).map Prod.snd
  | tagged _ (mapping fields) => (fields.find? fun f => same (.text name) f.1).map Prod.snd
  | _ => none

def text? : Value → Option String
  | text s => some s
  | tagged _ (text s) => some s
  | _ => none

end Value

def Resolved.value (s : String) : Resolved → Value
  | .null => .null
  | .bool b => .bool b
  | .integer n => .integer n
  | .float x => .float x
  | .text => .text s

def withTag (tag : Option String) (v : Value) : Value :=
  match privateTag? tag with
  | some t => .tagged t v
  | none => v

/-- A private tag does not decide the type of a plain scalar. -/
def scalarValue (tag : Option String) (plain : Bool) (s : String) : Option Value :=
  let core := if (privateTag? tag).isSome then none else tag
  (resolve core plain s).map fun r => withTag tag (r.value s)

/-- The fields in order, unless a key occurs twice. -/
def distinctFields (seen : List (Value × Value)) : List (Value × Value) →
    Option (List (Value × Value))
  | [] => some seen.reverse
  | (k, v) :: rest =>
    if seen.any fun f => Value.same k f.1 then none else distinctFields ((k, v) :: seen) rest

def value : (depth left : Nat) → Node → Option (Value × Nat)
  | 0, left, n =>
    (follow left n).bind fun
      | (.scalar tag plain s, left) => (scalarValue tag plain s).map (·, left)
      | _ => none
  | depth + 1, left, n =>
    (follow left n).bind fun
      | (.scalar tag plain s, left) => (scalarValue tag plain s).map (·, left)
      | (.sequence tag items, left) =>
        (itemsWith (value depth) left items).map fun (xs, left) =>
          (withTag tag (.sequence xs), left)
      | (.mapping tag fields, left) => do
        let (fs, left) ← fieldsWith (value depth) (value depth) left fields
        let fs ← distinctFields [] fs
        some (withTag tag (.mapping fs), left)
      | (.reference _, _) => none

/-- The value of the only document of a text; a text without a document is null. -/
def parse (text : List Char) : Option Value := do
  match ← document? text with
  | none => some .null
  | some n => (value nestingLimit (referenceLimit n) n).map Prod.fst

end Shortcuts.Yaml
