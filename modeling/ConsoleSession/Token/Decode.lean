import ConsoleSession.Text.Base64Url
import ConsoleSession.Token.Claims

/-!
Access tokens as texts: three segments between dots, of which the middle one holds the claims. The
signature is not looked at. `Claims.token` writes such a text, `Claims.decode` reads it.
-/

namespace ConsoleSession

inductive Malformed
  | segments
  | base64 (fault : Base64Url.Fault)
  | shape (fault : Json.Fault)
  | noExpiry
  | noIdentifier
  | expired
  deriving DecidableEq, Repr

def Malformed.message : Malformed → String
  | .segments => "expected three segments"
  | .base64 e => "payload is not base64url: " ++ e.message
  | .shape e => "payload shape: " ++ e.message
  | .noExpiry => "missing exp claim"
  | .noIdentifier => "subject has no identifier"
  | .expired => "token expired"

inductive DecodeError
  | missing
  | malformed (why : Malformed)
  deriving DecidableEq, Repr

def DecodeError.message : DecodeError → String
  | .missing => "no access token stored"
  | .malformed why => "malformed access token: " ++ why.message

namespace Claims

def payload (segment : List Char) : Except Base64Url.Fault Utf8.Octets :=
  Base64Url.decode (Utf8.encode ((segment.reverse.dropWhile (· == '=')).reverse))

def decodeSegment (segment : List Char) : Except Malformed Claims :=
  match payload segment with
  | .error e => .error (.base64 e)
  | .ok octets =>
    match parse octets with
    | .error e => .error (.shape e)
    | .ok c => if c.expiresAt.isNone then .error .noExpiry else .ok c

def decode (token : String) : Except Malformed Claims :=
  match token.toList.splitOn '.' with
  | [_, segment, _] => decodeSegment segment
  | _ => .error .segments

def token (c : Claims) (header padding signature : String) : String :=
  let payload := Base64Url.encode (Utf8.encode c.json.renderChars)
  header ++ "." ++ String.ofList (payload.map fun b => Char.ofNat b.toNat) ++ padding ++ "." ++
    signature

end Claims

end ConsoleSession
