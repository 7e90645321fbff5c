import SliceSelection.Http.Uri

/-!
# Failed exchanges

Why a request got no response that can be used. Only two causes mean that no response came at
all: the connection failed, or the time was up.
-/

namespace SliceSelection.Http

/-- Why an exchange failed. -/
inductive Error where
  /-- The connection could not be made, or broke before the answer. -/
  | connection (reason : String)
  | timeout
  /-- The address was refused: it is none, or it does not say whom to ask. -/
  | invalidUri (uri : String) (fault : Option UriFault)
  | invalidMethod (method : String)
  /-- The request can not be written. -/
  | unwritable (reason : String)
  /-- The body of the response could not be read. -/
  | invalidResponse (reason : String)
deriving DecidableEq, Repr

namespace Error

/-- Whether no response came at all. -/
def isTransport : Error → Bool
  | connection _ => true
  | timeout => true
  | _ => false

/-- What an error says. -/
def message : Error → String
  | connection reason => "Connection error: " ++ reason
  | timeout => "Request timeout"
  | invalidUri uri none => "Invalid URI: " ++ uri
  | invalidUri uri (some fault) => "Invalid URI: " ++ uri ++ ": " ++ fault.message
  | invalidMethod method => "Invalid HTTP method: " ++ method
  | unwritable reason => "Client error: " ++ reason
  | invalidResponse reason => "Invalid response: " ++ reason

end Error

end SliceSelection.Http
