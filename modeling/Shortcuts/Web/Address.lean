import Shortcuts.Text.Digits
import Shortcuts.Text.Lowercase
import Shortcuts.Text.Percent
import Shortcuts.Text.Pieces
import Shortcuts.Web.Ipv6
import Shortcuts.Web.Punycode

/-!
Addresses of the web. `parse` brings the text of an absolute URL into its normal form: scheme and
host in lower case, the port left out where the scheme implies it, dot segments removed, and
whatever may not stand in a part percent-encoded. Credentials are read, but not kept.
-/
namespace Shortcuts.Web

inductive AddressFault where
  | relative | emptyHost | invalidDomain | invalidDomainCharacter | invalidIpv4 | invalidIpv6
  | invalidPort
  deriving DecidableEq, Repr

def AddressFault.message : AddressFault → String
  | relative => "relative URL without a base"
  | emptyHost => "empty host"
  | invalidDomain => "invalid international domain name"
  | invalidDomainCharacter => "invalid domain character"
  | invalidIpv4 => "invalid IPv4 address"
  | invalidIpv6 => "invalid IPv6 address"
  | invalidPort => "invalid port number"

structure Address where
  scheme : List Char
  host : Option (List Char)
  port : Option Nat
  path : List Char
  query : Option (List Char)
  fragment : Option (List Char)
  deriving DecidableEq, Repr

/-! ## Percent-encode sets -/

def isControl (c : Char) : Bool := c.toNat < 32 || 126 < c.toNat

def inFragmentSet (c : Char) : Bool := isControl c || [' ', '"', '<', '>', '\x60'].contains c

def inPathSet (c : Char) : Bool := inFragmentSet c || ['#', '?', '\x7b', '\x7d'].contains c

def inQuerySet (special : Bool) (c : Char) : Bool :=
  isControl c || [' ', '"', '#', '<', '>'].contains c || (special && c = '\'')

def encodeSet (set : Char → Bool) (cs : List Char) : List Char :=
  cs.flatMap fun c =>
    if set c then (String.utf8EncodeChar c).flatMap Percent.encodeByte else [c]

/-! ## Hosts -/

def asciiLower (c : Char) : Char := c.toLower

/-- Characters that no host may contain. -/
def isForbiddenInHost (c : Char) : Bool :=
  ['\x00', '\t', '\n', '\r', ' ', '#', '/', ':', '<', '>', '?', '@', '[', '\\', ']', '^',
    '|'].contains c

/-- Characters that a domain may not contain. -/
def isForbidden (c : Char) : Bool :=
  isForbiddenInHost c || c.toNat ≤ 32 || c.toNat = 127 || c = '%'

/-- A part of a numeric host: decimal, or octal or hexadecimal behind its mark. -/
def hostNumber? (cs : List Char) : Option Nat :=
  match cs with
  | [] => none
  | '0' :: x :: rest =>
    if x = 'x' || x = 'X' then Text.natural? 16 rest else Text.natural? 8 (x :: rest)
  | cs => Text.natural? 10 cs

/-- The labels of a host; a final empty one does not count. -/
def labels (host : List Char) : List (List Char) :=
  let all := Text.split '.' host
  if 1 < all.length && all.getLast? = some [] then all.dropLast else all

def endsInNumber (host : List Char) : Bool :=
  match (labels host).getLast? with
  | some last =>
    (!last.isEmpty && last.all Char.isDigit) ||
      ((last.take 2).map asciiLower = ['0', 'x'] && (hostNumber? last).isSome)
  | none => false

def dottedNumber (n : Nat) : List Char :=
  Text.join ['.'] ([n >>> 24, (n >>> 16) % 256, (n >>> 8) % 256, n % 256].map (Nat.toDigits 10))

/-- The numbers of a host in dotted form; the last one fills all bytes that are left. -/
def ipv4? (host : List Char) : Option (List Char) := do
  let numbers ← (labels host).mapM hostNumber?
  let last ← numbers.getLast?
  let front := numbers.dropLast
  if 4 < numbers.length || front.any (255 < ·) || Nat.pow 256 (4 - front.length) ≤ last then none
  else
    let high := front.foldl (fun n b => 256 * n + b) 0
    some (dottedNumber (high * Nat.pow 256 (4 - front.length) + last))

def label (cs : List Char) : List Char :=
  if cs.all (·.toNat < 128) then cs else 'x' :: 'n' :: '-' :: '-' :: Punycode.encode cs

/-- The ASCII form of a domain name. -/
def domain (cs : List Char) : List Char :=
  Text.join ['.'] ((Text.split '.' (Text.lowercase cs)).map label)

def decodedText? (cs : List Char) : Option (List Char) :=
  (String.fromUTF8? (ByteArray.mk (Percent.decode cs).toArray)).map String.toList

/-- The host between brackets. -/
def readBracketed (text : List Char) : Except AddressFault (List Char) :=
  if text.getLast? = some ']' then
    match Ipv6.parse? text.tail.dropLast with
    | some groups => .ok ('[' :: Ipv6.text groups ++ [']'])
    | none => .error .invalidIpv6
  else .error .invalidIpv6

def readDomain (text : List Char) : Except AddressFault (List Char) :=
  match decodedText? text with
    | none => .error .invalidDomain
    | some decoded =>
      let host := domain decoded
      if host.any isForbidden then .error .invalidDomainCharacter
      else if endsInNumber host then
        match ipv4? host with
        | some host => .ok host
        | none => .error .invalidIpv4
      else .ok host

/-- The host of an address; only a special scheme asks for a domain. -/
def readHost (special : Bool) (text : List Char) : Except AddressFault (List Char) :=
  if text.head? = some '[' then readBracketed text
  else if special then if text.isEmpty then .error .emptyHost else readDomain text
  else if text.any isForbiddenInHost then .error .invalidDomainCharacter
  else .ok (encodeSet isControl text)

/-- Cuts off the port: a colon inside of brackets is part of the host. -/
def cutHost (bracketed : Bool) : List Char → List Char × List Char
  | [] => ([], [])
  | c :: rest =>
    if c = ':' && !bracketed then ([], rest)
    else
      let (host, port) := cutHost (c = '[' || (bracketed && c ≠ ']')) rest
      (c :: host, port)

/-! ## Paths -/

def isSingleDot (segment : List Char) : Bool :=
  [".", "%2e"].contains (String.ofList (segment.map asciiLower))

def isDoubleDot (segment : List Char) : Bool :=
  ["..", ".%2e", "%2e.", "%2e%2e"].contains (String.ofList (segment.map asciiLower))

/-- Resolves dot segments; the segments kept so far are listed backwards. -/
def resolveDots (kept : List (List Char)) : List (List Char) → List (List Char)
  | [] => kept.reverse
  | [last] =>
    if isDoubleDot last then ([] :: kept.drop 1).reverse
    else if isSingleDot last then ([] :: kept).reverse
    else (last :: kept).reverse
  | segment :: rest =>
    if isDoubleDot segment then resolveDots (kept.drop 1) rest
    else if isSingleDot segment then resolveDots kept rest
    else resolveDots (segment :: kept) rest

/-- The path behind an authority. -/
def readPath (special : Bool) (text : List Char) : List Char :=
  let text := if special then text.map fun c => if c = '\\' then '/' else c else text
  match text with
  | '/' :: rest => segments rest
  | [] => if special then ['/'] else []
  | text => segments text
where
  segments (text : List Char) : List Char :=
    '/' :: Text.join ['/'] (resolveDots [] (Text.split '/' (encodeSet inPathSet text)))

/-! ## Addresses -/

/-- The default ports of the special schemes. -/
def defaultPort? (scheme : List Char) : Option Nat :=
  [("http", 80), ("https", 443), ("ws", 80), ("wss", 443), ("ftp", 21)].lookup
    (String.ofList scheme)

def isSchemeChar (c : Char) : Bool := c.isAlphanum || c = '+' || c = '-' || c = '.'

/-- The scheme in front of a colon and what follows. -/
def cutScheme? (text : List Char) : Option (List Char × List Char) :=
  let scheme := text.takeWhile isSchemeChar
  match scheme, text.dropWhile isSchemeChar with
  | first :: _, ':' :: rest =>
    if first.isAlpha then some (scheme.map asciiLower, rest) else none
  | _, _ => none

/-- What stands behind the last at sign. -/
def dropCredentials (authority : List Char) : List Char :=
  (authority.reverse.takeWhile (· ≠ '@')).reverse

def readPort (scheme text : List Char) : Except AddressFault (Option Nat) :=
  match text with
  | [] => .ok none
  | text =>
    if text.all Char.isDigit then
      let port := Text.decimal text
      if 65535 < port then .error .invalidPort
      else .ok (if defaultPort? scheme = some port then none else some port)
    else .error .invalidPort

def cleaned (text : List Char) : List Char :=
  let isEdge (c : Char) : Bool := c.toNat ≤ 32
  let trimmed := ((text.dropWhile isEdge).reverse.dropWhile isEdge).reverse
  trimmed.filter fun c => c ≠ '\t' && c ≠ '\n' && c ≠ '\r'

/-- Cuts off query and fragment. -/
def cutTail (special : Bool) (text : List Char) :
    List Char × Option (List Char) × Option (List Char) :=
  let front := text.takeWhile (· ≠ '#')
  let fragment := (text.dropWhile (· ≠ '#')).tail?
  let query := (front.dropWhile (· ≠ '?')).tail?
  (front.takeWhile (· ≠ '?'), query.map (encodeSet (inQuerySet special)),
    fragment.map (encodeSet inFragmentSet))

def withAuthority (special : Bool) (scheme text : List Char) : Except AddressFault Address := do
  let endsAuthority (c : Char) : Bool :=
    c = '/' || c = '?' || c = '#' || (special && c = '\\')
  let authority := text.takeWhile (!endsAuthority ·)
  let (path, query, fragment) := cutTail special (text.dropWhile (!endsAuthority ·))
  let (name, digits) := cutHost false (dropCredentials authority)
  let host ← readHost special name
  let port ← readPort scheme digits
  return ⟨scheme, some host, port, readPath special path, query, fragment⟩

def Address.parse (text : String) : Except AddressFault Address :=
  match cutScheme? (cleaned text.toList) with
  | none => .error .relative
  | some (scheme, rest) =>
    if (defaultPort? scheme).isSome then
      withAuthority true scheme (rest.dropWhile fun c => c = '/' || c = '\\')
    else match rest with
      | '/' :: '/' :: rest => withAuthority false scheme rest
      | rest =>
        let (path, query, fragment) := cutTail false rest
        .ok ⟨scheme, none, none, encodeSet isControl path, query, fragment⟩

def Address.text (a : Address) : String :=
  let host := match a.host with
    | some host => '/' :: '/' :: host
    | none => []
  let port := match a.port with
    | some port => ':' :: Nat.toDigits 10 port
    | none => []
  let tail (mark : Char) (part : Option (List Char)) : List Char :=
    match part with
    | some part => mark :: part
    | none => []
  String.ofList (a.scheme ++ ':' :: host ++ port ++ a.path ++ tail '?' a.query ++
    tail '#' a.fragment)

end Shortcuts.Web
