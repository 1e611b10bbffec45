import Shortcuts.Json.Written

/-!
Reading JSON text. Two machines run over the input, each one step per element: the first groups
characters into tokens, the second keeps the open arrays and objects on a stack. Both stop at
the first fault, so `read?` accepts exactly one written value surrounded by blanks.
-/
namespace Shortcuts.Json

inductive Token where
  | openArray | closeArray | openObject | closeObject | comma | colon
  | text (letters : List Letter)
  /-- A number or one of the three words. -/
  | bare (value : Written)

/-! ## Tokens -/

inductive Scanning where
  | between
  | text (reversed : List Letter)
  | escape (reversed : List Letter)
  | code (reversed : List Letter) (digits value : Nat)
  | bare (reversed : List Char)

structure Scan where
  reversed : List Token
  state : Scanning

def isBlank (c : Char) : Bool := c = ' ' || c = '\t' || c = '\n' || c = '\r'

def simpleEscape : Char → Option Char
  | '"' => some '"'
  | '\\' => some '\\'
  | '/' => some '/'
  | 'b' => some '\x08'
  | 'f' => some '\x0c'
  | 'n' => some '\n'
  | 'r' => some '\r'
  | 't' => some '\t'
  | _ => none

/-- What a run of characters outside of text and punctuation stands for. -/
def bareValue (cs : List Char) : Option Written :=
  if cs = ['t', 'r', 'u', 'e'] then some (.bool true)
  else if cs = ['f', 'a', 'l', 's', 'e'] then some (.bool false)
  else if cs = ['n', 'u', 'l', 'l'] then some .null
  else (Numeral.ofChars? cs).map .number

def punctuation : Char → Option Token
  | '[' => some .openArray
  | ']' => some .closeArray
  | '\x7b' => some .openObject
  | '\x7d' => some .closeObject
  | ',' => some .comma
  | ':' => some .colon
  | _ => none

def startToken (tokens : List Token) (c : Char) : Scan :=
  if isBlank c then ⟨tokens, .between⟩
  else if c = '"' then ⟨tokens, .text []⟩
  else match punctuation c with
    | some t => ⟨t :: tokens, .between⟩
    | none => ⟨tokens, .bare [c]⟩

def scanStep (s : Scan) (c : Char) : Option Scan :=
  match s.state with
  | .between => some (startToken s.reversed c)
  | .text letters =>
    if c = '"' then some ⟨.text letters.reverse :: s.reversed, .between⟩
    else if c = '\\' then some ⟨s.reversed, .escape letters⟩
    else if c.toNat < 32 then none
    else some ⟨s.reversed, .text (.char c :: letters)⟩
  | .escape letters =>
    if c = 'u' then some ⟨s.reversed, .code letters 0 0⟩
    else (simpleEscape c).map fun d => ⟨s.reversed, .text (.char d :: letters)⟩
  | .code letters digits value =>
    (Text.digit? c).map fun h =>
      if digits = 3 then ⟨s.reversed, .text (.unit (16 * value + h) :: letters)⟩
      else ⟨s.reversed, .code letters (digits + 1) (16 * value + h)⟩
  | .bare cs =>
    if isBlank c || c = '"' || (punctuation c).isSome then
      (bareValue cs.reverse).map fun v => startToken (.bare v :: s.reversed) c
    else some ⟨s.reversed, .bare (c :: cs)⟩

def tokens (cs : List Char) : Option (List Token) :=
  (cs.foldlM scanStep ⟨[], .between⟩).bind fun s =>
    match s.state with
    | .between => some s.reversed.reverse
    | .bare cs => (bareValue cs.reverse).map fun v => (.bare v :: s.reversed).reverse
    | _ => none

/-! ## Written values -/

inductive Frame where
  | array (reversed : List Written)
  | object (reversed : List (List Letter × Written)) (name : List Letter)

inductive Expecting where
  | value
  | firstItem
  | firstName
  | name (reversed : List (List Letter × Written))
  | colon (reversed : List (List Letter × Written)) (name : List Letter)
  | separator (finished : Written)

structure Build where
  stack : List Frame
  expecting : Expecting

def startValue (stack : List Frame) : Token → Option Build
  | .text letters => some ⟨stack, .separator (.text letters)⟩
  | .bare v => some ⟨stack, .separator v⟩
  | .openArray => some ⟨.array [] :: stack, .firstItem⟩
  | .openObject => some ⟨stack, .firstName⟩
  | _ => none

def buildStep (b : Build) (t : Token) : Option Build :=
  match b.expecting, t with
  | .value, t => startValue b.stack t
  | .firstItem, .closeArray =>
    match b.stack with
    | .array items :: rest => some ⟨rest, .separator (.array items.reverse)⟩
    | _ => none
  | .firstItem, t => startValue b.stack t
  | .firstName, .closeObject => some ⟨b.stack, .separator (.members [])⟩
  | .firstName, .text name => some ⟨b.stack, .colon [] name⟩
  | .name fields, .text name => some ⟨b.stack, .colon fields name⟩
  | .colon fields name, .colon => some ⟨.object fields name :: b.stack, .value⟩
  | .separator v, .comma =>
    match b.stack with
    | .array items :: rest => some ⟨.array (v :: items) :: rest, .value⟩
    | .object fields name :: rest => some ⟨rest, .name ((name, v) :: fields)⟩
    | [] => none
  | .separator v, .closeArray =>
    match b.stack with
    | .array items :: rest => some ⟨rest, .separator (.array (v :: items).reverse)⟩
    | _ => none
  | .separator v, .closeObject =>
    match b.stack with
    | .object fields name :: rest =>
      some ⟨rest, .separator (.members ((name, v) :: fields).reverse)⟩
    | _ => none
  | _, _ => none

def ofTokens (ts : List Token) : Option Written :=
  (ts.foldlM buildStep ⟨[], .value⟩).bind fun b =>
    match b.stack, b.expecting with
    | [], .separator v => some v
    | _, _ => none

def read? (s : String) : Option Written := (tokens s.toList).bind ofTokens

end Shortcuts.Json
