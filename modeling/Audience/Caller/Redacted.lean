import Audience.Caller.Basic
import Audience.Json.Basic

namespace Audience

/-! Descriptions of secrets for diagnostics.  They say which secrets are there and show none. -/

/-- Stands for a secret: only whether there is one can be seen. -/
def redacted (secret : Option String) : String :=
  if secret.isSome then "[REDACTED]" else "None"

/-- A record as its name and its fields with quoted texts. -/
def describeRecord (name : String) (fields : List (String × String)) : String :=
  let shown := fields.map fun (field, text) => field ++ ": " ++ String.ofList (Json.quote text)
  name ++ " \x7b " ++ ", ".intercalate shown ++ " \x7d"

def Tokens.describe (tokens : Tokens) : String :=
  describeRecord "AuthTokens"
    [("id_token", redacted tokens.idToken), ("access_token", redacted tokens.accessToken),
      ("refresh_token", redacted tokens.refreshToken),
      ("phone_number", redacted tokens.phoneNumber)]

def Card.describe (card : Card) : String :=
  describeRecord "AuthCard"
    [("card_number", redacted card.cardNumber), ("library_number", redacted card.libraryNumber)]

end Audience
