import Dialogue.Host.Name
import Dialogue.Host.Numeric
import Dialogue.Number.Integer
import Dialogue.Text.Encoding
import Dialogue.Text.LowerCase

/-!
# Addresses of requests

The form in which an address is sent: scheme and host in lower case, the host in ASCII, no default
port, no dot segments in the path, and percent escapes for what may not stand in its place. An
address without a scheme or a host is taken as a path.
-/
namespace Dialogue.Http

inductive AddressError where
  | tooLong
  | unprintable (c : Char) (position : Nat)
  | badQuad (host : String)
  | badGroups (host : String)
  | badName (host : String)
  | badPort (port : String)
  | longPart (part : String)
  | relativeAfterHost
  | doubleSlash
  | leadingColon
  deriving DecidableEq

def AddressError.message : AddressError → String
  | tooLong => "URL too long"
  | unprintable c position =>
    let shown := Text.quote (String.singleton c)
    s!"Invalid non-printable ASCII character in URL, {shown} at position {position}."
  | badQuad host => "Invalid IPv4 address: " ++ Text.quote host
  | badGroups host => "Invalid IPv6 address: " ++ Text.quote host
  | badName host => "Invalid IDNA hostname: " ++ Text.quote host
  | badPort port => "Invalid port: " ++ Text.quote port
  | longPart part => s!"URL component \x27{part}\x27 too long"
  | relativeAfterHost => "For absolute URLs, path must be empty or begin with \x27/\x27"
  | doubleSlash => "Relative URLs cannot have a path starting with \x27//\x27"
  | leadingColon => "Relative URLs cannot have a path starting with \x27:\x27"

/-- The parts of an address. -/
structure Address where
  scheme : String
  userinfo : List Char
  host : List Char
  port : Option Int
  path : List Char
  query : Option (List Char)
  fragment : Option (List Char)

def isGraphic (c : Char) : Bool := 0x21 ≤ c.toNat && c.toNat < 0x7f

def isSchemeChar (c : Char) : Bool := c.isAlphanum || ['+', '.', '-'].contains c

/-- Printable characters but for those listed. -/
def allBut (excluded : String) (c : Char) : Bool := isGraphic c && !excluded.toList.contains c

def inFragment : Char → Bool := allBut "\"<>\x60"

def inQuery : Char → Bool := allBut "\"#<>"

def inPath : Char → Bool := allBut "\"#<>?\x60\x7b\x7d"

def inUserinfo : Char → Bool := allBut "\"#<>?\x60\x7b\x7d/;=@[\\]^|"

def inHost (c : Char) : Bool :=
  c.isAlphanum || "-._~!$&\x27()*+,;=\"\x60\x7b\x7d%|\\".toList.contains c

/-- The bytes of a character as percent escapes. -/
def escape (c : Char) : List Char :=
  (String.singleton c).toUTF8.toList.flatMap fun b =>
    '%' :: (Text.hex 2 b.toNat).map Char.toUpper

/-- The bytes that a text with percent escapes stands for. -/
def unescape : List Char → List UInt8
  | [] => []
  | '%' :: a :: b :: rest =>
    match Text.hexValue? a, Text.hexValue? b with
    | some x, some y => (16 * x + y).toUInt8 :: unescape rest
    | _, _ => '%'.toUInt8 :: unescape (a :: b :: rest)
  | c :: rest => (String.singleton c).toUTF8.toList ++ unescape rest

/-- Escapes the characters that may not stand as they are. Escapes in the text are kept. -/
def escapeAll (allowed : Char → Bool) (cs : List Char) : List Char :=
  cs.flatMap fun c => if allowed c then [c] else escape c

/-- Splits at the first character that satisfies `stop`, which goes to the rest. -/
def cut (stop : Char → Bool) (cs : List Char) : List Char × List Char :=
  (cs.takeWhile (!stop ·), cs.dropWhile (!stop ·))

/-- A scheme and its colon at the start of an address, which may have no letter before it. -/
def scheme? (cs : List Char) : Option (List Char × List Char) :=
  let word := cs.takeWhile isSchemeChar
  match cs.drop word.length with
  | ':' :: rest => if word.head?.all Char.isAlpha then some (word, rest) else none
  | _ => none

/-- The path without dot segments. -/
def withoutDots (path : List Char) : List Char :=
  let parts := (String.ofList path).splitOn "/"
  let kept := parts.foldl (fun out part =>
    if part = "." then out
    else if part = ".." then (if out = [] ∨ out = [""] then out else out.dropLast)
    else out ++ [part]) []
  ("/".intercalate kept).toList

def defaultPort? (scheme : String) : Option Int :=
  [("ftp", 21), ("http", 80), ("https", 443), ("ws", 80), ("wss", 443)].lookup scheme

/-- The number of a port. The default of a scheme is left out where the scheme is written in lower
case. -/
def port? (scheme : String) (cs : List Char) : Except AddressError (Option Int) :=
  if cs = [] then .ok none
  else match Number.integer? (String.ofList cs) with
    | some n => .ok (if defaultPort? scheme = some n then none else some n)
    | none => .error (.badPort (String.ofList cs))

/-- A host as it is sent: numbers as they are, ASCII names in lower case with escapes, and other
names in their ASCII form. -/
def hostText (host : List Char) : Except AddressError (List Char) :=
  if Host.looksLikeQuad host then
    if Host.isQuad host then .ok host else .error (.badQuad (String.ofList host))
  else if host.head? = some '[' && host.getLast? = some ']' && 1 < host.length then
    if Host.isGroups (host.drop 1).dropLast then .ok host
    else .error (.badGroups (String.ofList host))
  else
    let lower := (Text.lower (String.ofList host)).toList
    if host.all (·.toNat < 128) then .ok (escapeAll inHost lower)
    else match Host.Name.encode lower with
      | .ok name => .ok name
      | .error _ => .error (.badName (String.ofList host))

/-- The user part, the host and the text of the port. -/
def splitAuthority (cs : List Char) : List Char × List Char × List Char :=
  let after := (cs.reverse.takeWhile (· ≠ '@')).reverse
  let user := if cs.contains '@' then cs.take (cs.length - after.length - 1) else []
  let (host, rest) := match after with
    | '[' :: _ =>
      let tail := (after.reverse.dropWhile (· ≠ ']')).reverse
      if tail = [] then cut (· == ':') after else (tail, after.drop tail.length)
    | _ => cut (· == ':') after
  (user, host, match rest with
    | ':' :: port => port
    | port => port)

/-- The longest address, and the longest part of one that is put together. -/
def lengthLimit : Nat := 65536

namespace Address

def hasHost (a : Address) : Bool := a.userinfo != [] || a.host != [] || a.port.isSome

/-- Whether an address says nothing but a path. -/
def isRelative (a : Address) : Bool := a.scheme == "" || a.host == []

def read (s : String) : Except AddressError Address := do
  let cs := s.toList
  if lengthLimit < cs.length then throw .tooLong
  match cs.findIdx? fun c => c.toNat < 0x20 || c.toNat = 0x7f with
  | some i => throw (.unprintable (cs.getD i ' ') i)
  | none => pure ()
  let (written, rest) := (scheme? cs).getD ([], cs)
  let scheme := (String.ofList written).map Char.toLower
  let (authority, rest) := match rest with
    | '/' :: '/' :: r => cut ['/', '?', '#'].contains r
    | r => ([], r)
  let (path, rest) := cut ['?', '#'].contains rest
  let (query, rest) : Option (List Char) × List Char := match rest with
    | '?' :: r => let (q, r) := cut (· == '#') r; (some q, r)
    | r => (none, r)
  let fragment := match rest with
    | '#' :: f => some f
    | _ => none
  let (user, host, portText) := splitAuthority authority
  let host ← hostText host
  let port ← port? (String.ofList written) portText
  let a : Address := ⟨scheme, escapeAll inUserinfo user, host, port, path, query, fragment⟩
  if a.hasHost && path != [] && path.head? != some '/' then throw .relativeAfterHost
  if !a.hasHost && scheme == "" then
    if path.take 2 = ['/', '/'] then throw .doubleSlash
    if path.head? = some ':' then throw .leadingColon
  let path := if a.hasHost || scheme != "" then withoutDots path else path
  let a := { a with
    path := escapeAll inPath path
    query := query.map (escapeAll inQuery)
    fragment := fragment.map (escapeAll inFragment) }
  if a.isRelative then
    if lengthLimit ≤ (a.path.dropWhile (· = '/')).length then throw (.longPart "path")
    if (a.query.any fun q => lengthLimit < q.length) then throw (.longPart "query")
  pure a

/-- The name and the password before the host, with the colon between them. -/
def credentials? (a : Address) : Option (List UInt8) :=
  let (name, rest) := cut (· == ':') a.userinfo
  let password := rest.drop 1
  if a.isRelative || (name = [] && password = []) then none
  else
    let read (cs : List Char) := Text.decodeUtf8 (unescape cs)
    some (String.ofList (read name ++ ':' :: read password)).toUTF8.toList

def queryText (a : Address) : String :=
  match a.query with
  | some q => "?" ++ String.ofList q
  | none => ""

/-- The host and the port. -/
def place (a : Address) : List Char :=
  a.host ++ match a.port with
    | some n => ':' :: (toString n).toList
    | none => []

/-- The address as it is sent. -/
def text (a : Address) : String :=
  if a.isRelative then "/" ++ String.ofList (a.path.dropWhile (· = '/')) ++ a.queryText
  else
    let user := if a.userinfo = [] then "" else String.ofList a.userinfo ++ "@"
    let fragment := match a.fragment with
      | some f => "#" ++ String.ofList f
      | none => ""
    a.scheme ++ "://" ++ user ++ String.ofList a.place ++ String.ofList a.path
      ++ a.queryText ++ fragment

end Address
end Dialogue.Http
