import Dialogue.Effect.Address
import Dialogue.Effect.Basic
import Dialogue.Json.Reader
import Dialogue.Json.Writer
import Dialogue.Text.Base64
import Dialogue.Text.UpperCase

/-!
# Effects over HTTP

The update of a property in the CRM and the call of a webhook. Both turn every answer and every
network error into a result; what remains are requests that cannot be built or sent at all.
-/
namespace Dialogue.Http

structure Request where
  method : String
  url : String
  headers : List (String × String)
  body : String
  deriving DecidableEq, Inhabited

namespace Request

/-- Whether the address of a request is a path alone. -/
def isRelative (r : Request) : Bool := r.url.startsWith "/"

end Request

/-- What comes back for a request. -/
inductive Response where
  | answer (status : Nat) (body : Json)
  /-- An answer whose body is nested too deep. -/
  | unreadable (c : Json.Complaint)
  /-- The other side could not be reached. -/
  | unreachable (message : String)
  /-- The transport itself gave up. -/
  | broken (message : String)
  deriving DecidableEq

namespace Response

/-- The characters of a body, which may be in any encoding of JSON texts. One byte order mark may
go before. -/
def characters? (text : String) : Option (List Char) :=
  match text.toList with
  | '\ufeff' :: rest => some rest
  | cs =>
    match Text.Encoding.guess (text.toUTF8.toList.take 4) with
    | .utf8 => some cs
    | _ =>
      let bytes := text.toUTF8.toList
      (Text.Encoding.guess bytes).decode? bytes

/-- An answer whose body is read as JSON, or else is the text it is. -/
def ofText (status : Nat) (text : String) : Response :=
  match characters? text with
  | none => .answer status (.str text)
  | some cs => match Json.read cs with
    | .ok v => .answer status v
    | .error m => if m.complaint.isDepth then .unreadable m.complaint else .answer status (.str text)

/-- The answer when nothing else is arranged. -/
def empty : Response := .answer 200 (.object [])

end Response

/-- Answers arranged beforehand, of which the last one repeats, and the requests sent so far. -/
structure Transport where
  responses : List Response := []
  sent : List Request := []
  deriving DecidableEq, Inhabited

def Transport.send (t : Transport) (r : Request) : Response × Transport :=
  let next := match t.responses[t.sent.length]? with
    | some a => a
    | none => t.responses.getLastD .empty
  (next, { t with sent := t.sent ++ [r] })

/-- Why a request could not be made. -/
inductive Error where
  | address (e : AddressError)
  | headerKind (kind : String)
  | headerText (text : List Char)
  | notMapping (kind : String)
  | notJson (kind : String)
  /-- A field of the payload was to be a text. -/
  | unsayable (f : TextFault)
  /-- The body was to be written as JSON. -/
  | unwritable (f : TextFault)
  | hostName (e : Host.NameError)
  | unreadable (c : Json.Complaint)
  /-- The answer to an address that is a path alone. -/
  | unknownKind (url : String)
  | broken (message : String)
  deriving DecidableEq

/-- The complaint about the first stretch of characters outside ASCII. -/
def asciiMessage (cs : List Char) : String :=
  let first := (cs.takeWhile (·.toNat < 128)).length
  let run := (cs.drop first).takeWhile (128 ≤ ·.toNat)
  let what := match run with
    | [c] =>
      let code := c.toNat
      let shown := if code < 0x100 then 'x' :: Text.hex 2 code
        else if code < 0x10000 then 'u' :: Text.hex 4 code else 'U' :: Text.hex 8 code
      s!"character \x27\\{String.ofList shown}\x27 in position {first}"
    | _ => s!"characters in position {first}-{first + run.length - 1}"
  s!"\x27ascii\x27 codec can\x27t encode {what}: ordinal not in range(128)"

def Error.message : Error → String
  | address e => e.message
  | headerKind kind => s!"Header value must be str or bytes, not <class \x27{kind}\x27>"
  | headerText cs => asciiMessage cs
  | notMapping kind => s!"\x27{kind}\x27 object is not a mapping"
  | notJson kind => s!"the JSON object must be str, bytes or bytearray, not {kind}"
  | unsayable f => f.showing
  | unwritable f => f.writing
  | hostName e => e.message
  | unreadable c => c.message
  | unknownKind url => "unknown url type: " ++ Text.quote url
  | broken message => message

/-- What keeps a value from being the body of a request. -/
def bodyFault? (v : Json) : Option TextFault := v.faultWithin? true Json.depthLimit

/-- What a request carries. -/
inductive Content where
  | nothing
  | json (v : Json)
  | text (s : String)

def Content.body : Content → Except Error String
  | nothing => .ok ""
  | json .null => .ok ""
  | json v =>
    match bodyFault? v with
    | some f => .error (.unwritable f)
    | none => .ok (v.write .compact)
  | text s => .ok s

def isAscii (s : String) : Bool := s.toList.all (·.toNat < 128)

/-- Headers hold ASCII texts. -/
def headerText (name : String) (v : Json) : Except Error (String × String) :=
  if !isAscii name then .error (.headerText name.toList)
  else match v with
    | .str s => if isAscii s then .ok (name, s) else .error (.headerText s.toList)
    | v => .error (.headerKind v.kindName)

/-- Credentials in an address are sent as a header, in the place of one of that name. -/
def withCredentials (a : Address) (headers : List (String × String)) : List (String × String) :=
  match a.credentials? with
  | none => headers
  | some bytes =>
    headers.filter (fun h => Text.lower h.1 ≠ "authorization")
      ++ [("Authorization", "Basic " ++ String.ofList (Text.base64 bytes))]

/-- The host that a request names in a header of its own, unless one is given. It has to be ASCII,
and a name in ASCII form has to stand for one. -/
def checkPlace (a : Address) (headers : List (String × String)) : Except Error Unit :=
  if a.isRelative || headers.any (Text.lower ·.1 = "host") then .ok ()
  else
    let named := if a.host.take 4 = Host.Label.asciiMark then Host.Name.decode a.host else .ok []
    match named with
    | .error e => .error (.hostName e)
    | .ok _ => if a.place.all (·.toNat < 128) then .ok () else .error (.headerText a.place)

/-- A request in the form in which it is sent. The address is looked at first, then the headers,
then the content, and last the host. -/
def Request.make (method url : String) (headers : List (String × Json)) (content : Content) :
    Except Error Request := do
  let a ← match Address.read url with
    | .ok a => .ok a
    | .error e => .error (.address e)
  let hs ← headers.mapM fun h => headerText h.1 h.2
  let body ← content.body
  checkPlace a hs
  pure ⟨Text.upper method, a.text, withCredentials a hs, body⟩

def contentType : String × Json := ("Content-Type", .str "application/json")

/-- The outcome of an effect: a result, or why it could not be carried out. -/
abbrev Outcome := Except Error EffectResult × Transport

/-- Sends a request and reads the answer. `networkError` opens the message when there is none. -/
def exchange (request : Except Error Request) (networkError : String)
    (read : Nat → Json → EffectResult) (t : Transport) : Outcome :=
  match request with
  | .error e => (.error e, t)
  | .ok r =>
    match t.send r with
    | (.unreachable m, t) => (.ok (.failed (networkError ++ ": " ++ m)), t)
    | (.broken m, t) => (.error (.broken m), t)
    | (.answer status body, t) =>
      (if r.isRelative then .error (.unknownKind r.url) else .ok (read status body), t)
    | (.unreadable c, t) =>
      (.error (if r.isRelative then .unknownKind r.url else .unreadable c), t)

/-- Status codes from here on report an error. -/
def firstErrorStatus : Nat := 400

def answered (status : Nat) (body : Json) : Json :=
  .object [("status_code", .int status), ("body", body)]

namespace Vista

/-- A value that says something, as a text, or else the fallback. What was read in an answer has a
text. -/
def said (v : Option Json) (fallback : String) : String :=
  match v with
  | some v => if v.isTruthy then v.display else fallback
  | none => fallback

/-- An answer of the CRM. It may refuse in a body with a good status, too. -/
def read (status : Nat) (body : Json) : EffectResult :=
  if firstErrorStatus ≤ status then
    ⟨false, answered status body, some (said (body.field? "error")
      s!"Vista retornou status {status}")⟩
  else if body.field? "success" = some (.bool false) then
    ⟨false, body, some (said (body.field? "error") "Falha no Vista")⟩
  else ⟨true, body, none⟩

def headers (token : String) : List (String × Json) :=
  contentType :: (if token = "" then [] else [("Authorization", .str ("Bearer " ++ token))])

/-- The result where no address is set. -/
def unset : EffectResult := .failed "VISTA_UPDATE_URL não configurada"

def execute (url token : String) (payload : Payload) (t : Transport) : Outcome :=
  let url := Text.trim url
  if url = "" then (.ok unset, t)
  else
    exchange (Request.make "POST" url (headers token) (.json (.object payload)))
      "Erro de rede ao chamar Vista" read t

end Vista

namespace Integration

def read (status : Nat) (body : Json) : EffectResult :=
  if firstErrorStatus ≤ status then
    ⟨false, answered status body, some s!"Integração retornou status {status}"⟩
  else ⟨true, answered status body, none⟩

/-- The configured body: JSON where it reads as JSON, otherwise the text itself. -/
def content (body : Json) : Except Error Content :=
  if !body.isTruthy then .ok (.json (.object []))
  else match body with
    | .str s => match Json.parse s with
      | .ok v => .ok (.json v)
      | .error m => if m.complaint.isDepth then .error (.unreadable m.complaint) else .ok (.text s)
    | v => .error (.notJson v.kindName)

def headers (given : Json) : Except Error (List (String × Json)) :=
  if !given.isTruthy then .ok [contentType]
  else match given with
    | .object fields => .ok (Bindings.merge [contentType] fields)
    | v => .error (.notMapping v.kindName)

/-- A field of the payload as a text, or the fallback where it says nothing. -/
def told (payload : Payload) (name fallback : String) : Except Error String :=
  let v := payload.get name
  match v.fault? with
  | some f => .error (.unsayable f)
  | none => .ok (if v.isTruthy then v.display else fallback)

/-- The request that a payload describes. -/
def request (payload : Payload) (url : String) : Except Error Request := do
  let method := Text.upper (← told payload "method" "POST")
  let hs ← headers (payload.get "headers")
  let c ← if method = "GET" then .ok .nothing else content (payload.get "body")
  Request.make method url hs c

def execute (payload : Payload) (t : Transport) : Outcome :=
  match told payload "url" "" with
  | .error e => (.error e, t)
  | .ok url =>
    let url := Text.trim url
    if url = "" then (.ok (.failed "URL da integração não configurada"), t)
    else exchange (request payload url) "Erro de rede na integração" read t

end Integration
end Dialogue.Http
