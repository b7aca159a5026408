import WebLogin.Carrier.Basic

/-!
# Values in a header

Tokens are sent in a header. A text that no header can have is no token.
-/

namespace WebLogin.TokenHeader

/-- Puts a token into a header of a response. -/
def place (header : HeaderName) (token : String) (response : Response) : Except Cause Response :=
  match response.setHeaderText? header token with
  | some response => .ok response
  | none => .error .headerValue

/-- Puts a token into a header of a request. -/
def placeInRequest (header : HeaderName) (token : String) (request : Request) :
    Except Cause Request :=
  match request.withHeaderText? header token with
  | some request => .ok request
  | none => .error .headerValue

end WebLogin.TokenHeader
