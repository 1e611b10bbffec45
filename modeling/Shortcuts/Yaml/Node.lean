import Shortcuts.Yaml.Token

/-!
The node tree of a YAML document. An alias is replaced by a reference to the node that carries
the anchor, the last one of that name before the alias; a reference from inside the node itself
would never end and is refused. A text holds at most one document.
-/
namespace Shortcuts.Yaml

inductive Node where
  | scalar (tag : Option String) (plain : Bool) (text : String)
  | sequence (tag : Option String) (items : List Node)
  | mapping (tag : Option String) (fields : List (Node × Node))
  | reference (target : Node)
  deriving Inhabited

namespace Node

mutual

/-- Every scalar and reference counts once, every collection twice. -/
def size : Node → Nat
  | scalar .. => 1
  | sequence _ items => itemsSize items + 2
  | mapping _ fields => fieldsSize fields + 2
  | reference _ => 1

def itemsSize : List Node → Nat
  | [] => 0
  | n :: rest => n.size + itemsSize rest

def fieldsSize : List (Node × Node) → Nat
  | [] => 0
  | (k, v) :: rest => k.size + v.size + fieldsSize rest

end

/-- A node to which nothing was written. -/
def absent : Node := .scalar none true ""

end Node

/-! ## Anchors -/

/-- Anchors by name, the latest first. The node of an open collection is not known yet. -/
abbrev Anchors := List (String × Option Node)

structure Reading where
  tokens : List Token
  anchors : Anchors

structure Properties where
  anchor : Option String := none
  tag : Option String := none

abbrev Handles := List (String × String)

def defaultHandles : Handles := [("!", "!"), ("!!", "tag:yaml.org,2002:")]

def resolveTag (handles : Handles) (handle suffix : String) : Option String :=
  if handle.isEmpty then some suffix else (handles.lookup handle).map (· ++ suffix)

/-- An anchor and a tag, each at most once and in either order. -/
def properties (handles : Handles) (p : Properties) :
    List Token → Option (Properties × List Token)
  | .anchor name :: rest =>
    if p.anchor.isSome then some (p, .anchor name :: rest)
    else properties handles { p with anchor := some name } rest
  | .tag h suffix :: rest =>
    if p.tag.isSome then some (p, .tag h suffix :: rest)
    else (resolveTag handles h suffix).bind fun t =>
      properties handles { p with tag := some t } rest
  | ts => some (p, ts)

/-- Enters the anchor of a node that starts here. -/
def Reading.open (r : Reading) (p : Properties) : Reading :=
  match p.anchor with
  | some name => { r with anchors := (name, none) :: r.anchors }
  | none => r

/-- Gives the anchor entered when `depth` others were known its node. -/
def Reading.close (r : Reading) (p : Properties) (depth : Nat) (n : Node) : Reading :=
  match p.anchor with
  | some name =>
    { r with anchors := r.anchors.set (r.anchors.length - 1 - depth) (name, some n) }
  | none => r

/-! ## Productions

`fuel` bounds the nesting of calls; every call but a bounded number between two tokens takes a
token, see `document?`. -/

mutual

/-- A node in block or flow style. `indentless` admits a sequence whose entries are not
indented. -/
def node (handles : Handles) (fuel : Nat) (block indentless : Bool) (r : Reading) :
    Option (Node × Reading) :=
  match fuel with
  | 0 => none
  | fuel + 1 =>
    match r.tokens with
    | .alias name :: rest =>
      match r.anchors.lookup name with
      | some (some target) => some (.reference target, { r with tokens := rest })
      | _ => none
    | ts => do
      let (p, ts) ← properties handles {} ts
      let depth := r.anchors.length
      let r := { r with tokens := ts }.open p
      let finish (n : Node) (r : Reading) := some (n, r.close p depth n)
      match ts with
      | .entry :: _ =>
        if indentless then
          let (items, r) ← indentlessItems handles fuel r
          finish (.sequence p.tag items) r
        else if p.anchor.isSome || p.tag.isSome then finish (.scalar p.tag true "") r
        else none
      | .scalar plain text :: rest =>
        let tag := if p.tag = some "!" then none else p.tag
        finish (.scalar tag plain text) { r with tokens := rest }
      | .openBracket :: rest =>
        let (items, r) ← flowItems handles fuel true { r with tokens := rest }
        finish (.sequence p.tag items) r
      | .openBrace :: rest =>
        let (fields, r) ← flowFields handles fuel true { r with tokens := rest }
        finish (.mapping p.tag fields) r
      | .sequenceStart :: rest =>
        if block then
          let (items, r) ← blockItems handles fuel { r with tokens := rest }
          finish (.sequence p.tag items) r
        else none
      | .mappingStart :: rest =>
        if block then
          let (fields, r) ← blockFields handles fuel { r with tokens := rest }
          finish (.mapping p.tag fields) r
        else none
      | _ =>
        if p.anchor.isSome || p.tag.isSome then finish (.scalar p.tag true "") r else none

/-- Entries up to the end of an indented block sequence. -/
def blockItems (handles : Handles) (fuel : Nat) (r : Reading) : Option (List Node × Reading) :=
  match fuel with
  | 0 => none
  | fuel + 1 =>
    match r.tokens with
    | .blockEnd :: rest => some ([], { r with tokens := rest })
    | .entry :: rest => do
      let r := { r with tokens := rest }
      let (item, r) ← match rest with
        | .entry :: _ | .blockEnd :: _ => some (Node.absent, r)
        | _ => node handles fuel true false r
      let (items, r) ← blockItems handles fuel r
      some (item :: items, r)
    | _ => none

/-- Entries as long as there are any. -/
def indentlessItems (handles : Handles) (fuel : Nat) (r : Reading) :
    Option (List Node × Reading) :=
  match fuel with
  | 0 => none
  | fuel + 1 =>
    match r.tokens with
    | .entry :: rest => do
      let r := { r with tokens := rest }
      let (item, r) ← match rest with
        | .entry :: _ | .key :: _ | .value :: _ | .blockEnd :: _ => some (Node.absent, r)
        | _ => node handles fuel true false r
      let (items, r) ← indentlessItems handles fuel r
      some (item :: items, r)
    | _ => some ([], r)

def blockFields (handles : Handles) (fuel : Nat) (r : Reading) :
    Option (List (Node × Node) × Reading) :=
  match fuel with
  | 0 => none
  | fuel + 1 =>
    match r.tokens with
    | .blockEnd :: rest => some ([], { r with tokens := rest })
    | .key :: rest => do
      let (key, r) ← blockPart handles fuel { r with tokens := rest }
      let (value, r) ← match r.tokens with
        | .value :: rest => blockPart handles fuel { r with tokens := rest }
        | _ => some (Node.absent, r)
      let (fields, r) ← blockFields handles fuel r
      some ((key, value) :: fields, r)
    | _ => none

/-- What stands behind the mark of a key or a value. -/
def blockPart (handles : Handles) (fuel : Nat) (r : Reading) : Option (Node × Reading) :=
  match fuel with
  | 0 => none
  | fuel + 1 =>
    match r.tokens with
    | .key :: _ | .value :: _ | .blockEnd :: _ => some (Node.absent, r)
    | _ => node handles fuel true true r

/-- Behind a comma or the opening bracket. A key mark makes the entry a mapping of one field. -/
def flowItems (handles : Handles) (fuel : Nat) (first : Bool) (r : Reading) :
    Option (List Node × Reading) :=
  match fuel with
  | 0 => none
  | fuel + 1 =>
    match r.tokens with
    | .closeBracket :: rest => some ([], { r with tokens := rest })
    | ts => do
      let ts ← if first then some ts else match ts with
        | .comma :: rest => some rest
        | _ => none
      let r := { r with tokens := ts }
      match ts with
      | .closeBracket :: rest => some ([], { r with tokens := rest })
      | .key :: rest =>
        let (key, r) ← match rest with
          | .value :: rest | .comma :: rest | .closeBracket :: rest =>
            some (Node.absent, { r with tokens := rest })
          | _ => node handles fuel false false { r with tokens := rest }
        let (value, r) ← match r.tokens with
          | .value :: rest =>
            match rest with
            | .comma :: _ | .closeBracket :: _ => some (Node.absent, { r with tokens := rest })
            | _ => node handles fuel false false { r with tokens := rest }
          | _ => some (Node.absent, r)
        let (items, r) ← flowItems handles fuel false r
        some (.mapping none [(key, value)] :: items, r)
      | _ =>
        let (item, r) ← node handles fuel false false r
        let (items, r) ← flowItems handles fuel false r
        some (item :: items, r)

def flowFields (handles : Handles) (fuel : Nat) (first : Bool) (r : Reading) :
    Option (List (Node × Node) × Reading) :=
  match fuel with
  | 0 => none
  | fuel + 1 =>
    match r.tokens with
    | .closeBrace :: rest => some ([], { r with tokens := rest })
    | ts => do
      let ts ← if first then some ts else match ts with
        | .comma :: rest => some rest
        | _ => none
      let r := { r with tokens := ts }
      match ts with
      | .closeBrace :: rest => some ([], { r with tokens := rest })
      | .key :: rest =>
        let r := { r with tokens := rest }
        let (key, r) ← match rest with
          | .value :: _ | .comma :: _ | .closeBrace :: _ => some (Node.absent, r)
          | _ => node handles fuel false false r
        let (value, r) ← match r.tokens with
          | .value :: rest =>
            match rest with
            | .comma :: _ | .closeBrace :: _ => some (Node.absent, { r with tokens := rest })
            | _ => node handles fuel false false { r with tokens := rest }
          | _ => some (Node.absent, r)
        let (fields, r) ← flowFields handles fuel false r
        some ((key, value) :: fields, r)
      | _ =>
        let (key, r) ← node handles fuel false false r
        let (fields, r) ← flowFields handles fuel false r
        some ((key, Node.absent) :: fields, r)

end

/-! ## Documents -/

structure Directives where
  version : Bool := false
  handles : Handles := []

/-- Directives in front of a document: the version at most once, each handle at most once. -/
def directives (d : Directives) : List Token → Option (Directives × List Token)
  | .version major minor :: rest =>
    if d.version || major ≠ 1 || (minor ≠ 1 && minor ≠ 2) then none
    else directives { d with version := true } rest
  | .tagHandle handle start :: rest =>
    if (d.handles.lookup handle).isSome then none
    else directives { d with handles := (handle, start) :: d.handles } rest
  | ts => some (d, ts)

/-- The node of an explicit document, which may be left out. -/
def explicitContent (handles : Handles) (fuel : Nat) (ts : List Token) :
    Option (Node × List Token) :=
  match ts with
  | [] | .version .. :: _ | .tagHandle .. :: _ | .documentStart :: _ | .documentEnd :: _ =>
    some (Node.absent, ts)
  | _ => (node handles fuel true false ⟨ts, []⟩).map fun (n, r) => (n, r.tokens)

/-- The only document of a text; `some none` if the text holds none. -/
def document? (text : List Char) : Option (Option Node) := do
  let ts ← tokens text
  let fuel := 4 * ts.length + 8
  let explicit (ts : List Token) : Option (Node × List Token) := do
    let (d, ts) ← directives {} ts
    match ts with
    | .documentStart :: rest => explicitContent (d.handles ++ defaultHandles) fuel rest
    | _ => none
  match ts with
  | [] => some none
  | .version .. :: _ | .tagHandle .. :: _ | .documentStart :: _ =>
    let (n, rest) ← explicit ts
    if (rest.dropWhile (· = .documentEnd)).isEmpty then some (some n) else none
  | _ =>
    let (n, r) ← node defaultHandles fuel true false ⟨ts, []⟩
    if (r.tokens.dropWhile (· = .documentEnd)).isEmpty then some (some n) else none

end Shortcuts.Yaml
