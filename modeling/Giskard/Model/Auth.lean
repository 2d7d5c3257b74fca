import Mathlib
import Giskard.Foundation.Records
import Giskard.Model.Admission

/-!
# Session cookies and WebSocket tickets

A token is a time up to which it is good, in seconds, with a code for that time and for what the
token is for. A request with the token of a session is let through, and renews a session that is
past its half; a ticket is looked at on the way to the WebSocket alone.

The signing and the text of a code are the crates' own.

SOURCE: crates/giskard-server/src/auth.rs, ws.rs:43-88, routes.rs:385-420.
-/

set_option autoImplicit false

namespace Giskard.Auth

open Foundation

/-- SOURCE: auth.rs:23-28. -/
inductive TokenPurpose where
  | session
  | wsTicket
  deriving DecidableEq

/-- SOURCE: auth.rs:31-36. -/
def TokenPurpose.domain : TokenPurpose → List Char
  | .session => ['s', 'e', 's', 's', 'i', 'o', 'n']
  | .wsTicket => ['t', 'i', 'c', 'k', 'e', 't']

/-- The code of a text under the server's key, and the text of a code. -/
structure Signer where
  mac : List Char → List UInt8
  encode : List UInt8 → List Char
  decode : List Char → Option (List UInt8)

/-- What is signed. SOURCE: auth.rs:42-44, 69-71. -/
def signedText (purpose : TokenPurpose) (expiry : List Char) : List Char :=
  purpose.domain ++ ':' :: expiry

section Tokens

variable (signer : Signer)

/-- SOURCE: auth.rs:39-51. -/
def signToken (purpose : TokenPurpose) (expiry : ℕ) : List Char :=
  Nat.toDigits 10 expiry ++
    '.' :: signer.encode (signer.mac (signedText purpose (Nat.toDigits 10 expiry)))

/-- SOURCE: auth.rs:53-77. -/
def verifyToken (now : ℕ) (purpose : TokenPurpose) (token : List Char) : Bool :=
  match splitOnce '.' token with
  | none => false
  | some (expiryStr, sigStr) =>
    match parseUnsigned (2 ^ 64) expiryStr with
    | none => false
    | some expiry =>
      if expiry < now then false
      else match signer.decode sigStr with
        | none => false
        | some sigBytes => sigBytes = signer.mac (signedText purpose expiryStr)

end Tokens

/-- SOURCE: auth.rs:79-83. -/
def tokenExpiry (token : List Char) : Option ℕ :=
  (splitOnce '.' token).bind fun parts => parseUnsigned (2 ^ 64) parts.1

/-- SOURCE: auth.rs:16. -/
def sessionCookie : List Char :=
  ['g', 'i', 's', 'k', 'a', 'r', 'd', '_', 's', 'e', 's', 's', 'i', 'o', 'n']

/-- A cookie that is set. -/
structure Cookie where
  expiry : ℕ
  secure : Bool
  maxAge : ℕ
  deriving DecidableEq

/-- SOURCE: auth.rs:85-96. -/
def createSessionCookie (signer : Signer) (cookie : Cookie) : List Char :=
  sessionCookie ++ '=' :: signToken signer .session cookie.expiry ++
    "; HttpOnly; SameSite=Strict".toList ++ (if cookie.secure then "; Secure".toList else []) ++
    "; Path=/; Max-Age=".toList ++ Nat.toDigits 10 cookie.maxAge

/-- SOURCE: auth.rs:98-106. -/
def getSessionTokenFromHeader (header : List Char) : Option (List Char) :=
  let name := sessionCookie ++ ['=']
  (header.splitOn ';').findSome? fun cookie =>
    if name.isPrefixOf (trimText cookie) then some ((trimText cookie).drop name.length) else none

/-- SOURCE: auth.rs:108-117. -/
def getTicketFromQuery (query : Option (List Char)) : Option (List Char) :=
  query.bind fun query => (query.splitOn '&').findSome? fun pair =>
    (splitOnce '=' pair).bind fun parts =>
      if parts.1 = ['t', 'i', 'c', 'k', 'e', 't'] then some parts.2 else none

/-- What a request is judged by: its path, its cookies, and its query, as it is and as the
extractor of the WebSocket's handler reads the ticket from it. -/
structure Request where
  path : String
  cookie : Option (List Char)
  query : Option (List Char)
  ticket : Option (List Char)

/-- The part of the configuration that is read. -/
structure AuthConfig where
  sessionDays : ℕ
  secureCookies : Bool

def AuthConfig.lifetime (config : AuthConfig) : ℕ := config.sessionDays * 86400

/-- The cookie of a login or of a renewal. SOURCE: auth.rs:182-187, routes.rs:385-392. -/
def AuthConfig.newCookie (config : AuthConfig) (now : ℕ) : Cookie :=
  ⟨now + config.lifetime, config.secureCookies, config.lifetime⟩

/-- There is no configuration when it cannot be loaded. SOURCE: auth.rs:165-194. -/
def renewedSessionCookie (config : Option AuthConfig) (now : ℕ) (token : List Char) :
    Option Cookie :=
  (tokenExpiry token).bind fun expiry => config.bind fun config =>
    if expiry - now ≥ config.lifetime / 2 then none else some (config.newCookie now)

/-- What is answered; a handler that runs comes with the cookie that renews the session and the
time up to which the ticket is good that it tells. -/
inductive Response where
  | unauthorized
  | upgraded
  | handled (renewal : Option Cookie) (ticket : Option ℕ)
  deriving DecidableEq

section Requests

variable (signer : Signer) (config : Option AuthConfig) (now : ℕ) (request : Request)

def sessionToken : Option (List Char) :=
  (request.cookie.bind getSessionTokenFromHeader).filter (verifyToken signer now .session)

/-- The renewal for a request that is let through. SOURCE: auth.rs:119-163. -/
def authMiddleware : Option (Option Cookie) :=
  let ticketOk := request.path = "/api/ws" &&
    (getTicketFromQuery request.query).any (verifyToken signer now .wsTicket)
  if (sessionToken signer now request).isNone && !ticketOk then none
  else if request.path ≠ "/api/ws" then
    some ((sessionToken signer now request).bind (renewedSessionCookie config now))
  else some none

/-- SOURCE: ws.rs:60-88. -/
def wsHandler : Response :=
  if (sessionToken signer now request).isSome ||
      request.ticket.any (verifyToken signer now .wsTicket) then .upgraded
  else .unauthorized

/-- A route behind the middleware. SOURCE: ws.rs:43-53, routes.rs:209-212. -/
def serve : Response :=
  match authMiddleware signer config now request with
  | none => .unauthorized
  | some renewal =>
    if request.path = "/api/ws" then wsHandler signer now request
    else .handled renewal (if request.path = "/api/ws-ticket" then some (now + 60) else none)

end Requests

end Giskard.Auth
