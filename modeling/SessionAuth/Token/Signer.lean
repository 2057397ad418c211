import SessionAuth.Encoding.Base64
import SessionAuth.Event
import SessionAuth.Hash.Hmac
import SessionAuth.Text.Quoted
import SessionAuth.Token.Claims
import SessionAuth.Token.Header
import SessionAuth.Token.Registered

/-!
Access tokens: claims signed with a secret.

A token has three parts between dots: the header and the claims as JSON in URL-safe Base64, and the
signature of these two parts. One algorithm is used and accepted. A token is accepted if its
signature is the one that would be written, its issuer is the expected one and its expiry is in the
future.
-/

set_option autoImplicit false

namespace SessionAuth

/-- Signs and checks tokens of one issuer. -/
structure TokenSigner where
  secret : Bytes
  issuer : String
  deriving DecidableEq, Repr

namespace TokenSigner

/-- How a signer is shown: without its secret. -/
def shown (s : TokenSigner) : String :=
  "AccessTokenService \x7b issuer: " ++ Text.quoted s.issuer ++ ", algorithm: HS256, .. \x7d"

/-! ## Signing -/

/-- Bytes in URL-safe Base64. -/
def part (b : Bytes) : List Char := Base64.encode .urlSafe b

/-- A JSON value in URL-safe Base64. -/
def jsonPart (v : Json.Value) : List Char := part (Utf8.encode v.toChars)

/-- The signature of a text. -/
def signature (s : TokenSigner) (message : List Char) : List Char :=
  part (Hmac.sha256 s.secret (Utf8.encode message))

/-- The token of claims. -/
def encode (s : TokenSigner) (c : Claims) : String :=
  let message := jsonPart TokenHeader.issued ++ '.' :: jsonPart c.toJson
  String.ofList (message ++ '.' :: s.signature message)

/-- Why no token is minted. -/
inductive MintFault where
  /-- The lifetime is too long to be added to an instant. -/
  | lifetimeTooLong
  /-- The token would expire after the last date. -/
  | expiryTooLate
  deriving DecidableEq, Repr

/-- The wording of a cause. -/
def MintFault.message : MintFault → String
  | .lifetimeTooLong =>
    "Failed to encode token: ttl out of range: " ++
      "Source duration value is out of range for the target type"
  | .expiryTooLate => "Failed to encode token: ttl out of range"

/-- A token for a user that is good for a lifetime from now on, and its expiry. -/
def mint (s : TokenSigner) (now : Instant) (subject email : String) (lifetime : Duration) :
    Except MintFault (String × Instant) :=
  if Duration.longest.nanoseconds < lifetime.nanoseconds then .error .lifetimeTooLong
  else match now.after? lifetime with
    | none => .error .expiryTooLate
    | some expires => .ok (s.encode (.forUser subject email s.issuer now expires), expires)

/-! ## Checking -/

/-- Why a token is not accepted. -/
inductive Flaw where
  | parts
  | base64 (flaw : Base64.Flaw)
  | json (fault : Json.Fault) (input : Bytes)
  | algorithm
  | signature
  | missingClaim (name : String)
  /-- The clock reads a time before 1970, which no expiry can be compared with. -/
  | clock
  | expired
  | issuer
  | audience
  /-- The claims themselves are not of this issuer, or expire at this moment. -/
  | stale
  deriving DecidableEq, Repr

/-- The wording of a cause; a stale token has none. -/
def Flaw.reason? : Flaw → Option String
  | .parts => some "InvalidToken"
  | .base64 flaw => some ("Base64 error: " ++ flaw.message)
  | .json fault input => some ("JSON error: " ++ fault.message input)
  | .algorithm => some "InvalidAlgorithm"
  | .signature => some "InvalidSignature"
  | .missingClaim name => some ("Missing required claim: " ++ name)
  | .clock => none
  | .expired => some "ExpiredSignature"
  | .issuer => some "InvalidIssuer"
  | .audience => some "InvalidAudience"
  | .stale => none

/-- The event that reports a token that is not accepted. -/
def Flaw.event (flaw : Flaw) : Event :=
  match flaw.reason? with
  | some reason => ⟨.debug, "Access token rejected", [("reason", .text reason)]⟩
  | none => ⟨.debug, "Access token rejected: issuer or expiry", []⟩

/-- What a client is told about a token that is not accepted. -/
def invalidMessage : String := "Invalid token"

/-- The text before the last dot, and the text behind it. -/
def splitAtLastDot? : List Char → Option (List Char × List Char)
  | [] => none
  | c :: rest =>
    match splitAtLastDot? rest with
    | some (before, behind) => some (c :: before, behind)
    | none => if c = '.' then some ([], rest) else none

/-- The bytes of a part. -/
def partBytes (l : List Char) : Except Flaw Bytes :=
  (Base64.decode .urlSafe (Utf8.encode l)).mapError .base64

/-- A part read as JSON. -/
def readPart {α : Type} (read : Bytes → Except Json.Fault α) (input : Bytes) : Except Flaw α :=
  (read input).mapError fun fault => .json fault input

/-- Whether a claim is there and could be read. -/
def isPresent {α : Type} : Claimed α → Bool
  | .present _ => true
  | _ => false

/-- The issuer check of the registered claims. -/
def issuerMatches (issuer : String) : Claimed OneOrMany → Bool
  | .present (.one s) => s == issuer
  | .present (.many l) => l.contains issuer
  | _ => true

/-- Checks the registered claims at a time. -/
def checkRegistered (issuer : String) (now : Instant) (r : RegisteredClaims) :
    Except Flaw Unit :=
  match r.expiresAt with
  | .present expiresAt =>
    -- a claim that is there but could not be read counts as missing
    if !isPresent r.issuer then .error (.missingClaim "iss")
    else if !isPresent r.subject then .error (.missingClaim "sub")
    else if now < Instant.epoch then .error .clock
    else if (expiresAt : Int) < now.seconds then .error .expired
    else if !issuerMatches issuer r.issuer then .error .issuer
    else if isPresent r.audience then .error .audience
    else .ok ()
  | _ => .error (.missingClaim "exp")

/-- The claims of a token that is accepted at a time. -/
def parse (s : TokenSigner) (now : Instant) (token : String) : Except Flaw Claims := do
  let some (message, signature) := splitAtLastDot? token.toList | throw .parts
  let some (header, payload) := splitAtLastDot? message | throw .parts
  let algorithm ← readPart TokenHeader.parse (← partBytes header)
  if algorithm ≠ .hs256 then throw .algorithm
  -- signatures are compared as texts, so that no other spelling of the same bytes is accepted
  if signature ≠ s.signature message then throw .signature
  let input ← partBytes payload
  let claims ← readPart Claims.parse input
  -- the payload is read twice, once as our own claims and once for the registered ones
  let registered ← readPart RegisteredClaims.parse input
  checkRegistered s.issuer now registered
  if claims.issuer ≠ s.issuer ∨ claims.isExpired now.seconds then throw .stale
  return claims

end TokenSigner

end SessionAuth
