import MetricsAgent.Endpoint.Uri

/-!
# Where insights are uploaded to

An endpoint is the host, port and path that a URL names, and whether the connection is encrypted.
-/

namespace MetricsAgent

structure Endpoint where
  host : String
  port : UInt16
  path : String
  secure : Bool
  deriving DecidableEq, Repr

/-- Why a URL names no endpoint. -/
inductive EndpointError where
  | uri (e : UriError)
  | missingScheme
  | unsupportedScheme (scheme : String)
  | missingHost
  deriving DecidableEq, Repr

def EndpointError.message : EndpointError → String
  | .uri e => e.message
  | .missingScheme => "missing scheme"
  | .unsupportedScheme scheme => "unsupported scheme " ++ scheme
  | .missingHost => "missing host"

namespace Endpoint

/-- The port of a URL that names none. -/
def defaultPort (secure : Bool) : UInt16 :=
  if secure then 443 else 80

/-- The endpoint of a URI of one of the two known schemes. -/
def ofUri (u : Uri) (secure : Bool) : Except EndpointError Endpoint :=
  if u.host = [] then .error .missingHost
  else .ok {
    host := String.ofList u.host
    port := (u.port?.map UInt16.ofNat).getD (defaultPort secure)
    path := String.ofList u.path
    secure := secure }

/-- The endpoint that a URL names. -/
def parse (url : String) : Except EndpointError Endpoint :=
  match Uri.parse url with
  | .error e => .error (.uri e)
  | .ok u =>
    match u.scheme with
    | some .https => ofUri u true
    | some .http => ofUri u false
    | some (.other name) => .error (.unsupportedScheme (String.ofList name))
    | none => .error .missingScheme

end Endpoint

end MetricsAgent
