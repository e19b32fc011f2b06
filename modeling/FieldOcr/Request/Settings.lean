/-!
# Credentials and connection settings
-/

namespace FieldOcr
namespace Request

/-- The account that the service is called with. -/
structure Credentials where
  /-- The identifier of the application. -/
  applicationId : String := ""
  /-- The password of the application. -/
  password : String := ""
  deriving DecidableEq, Repr

/-- A proxy for all calls. -/
structure Proxy where
  /-- The host of the proxy. -/
  host : String
  /-- The port of the proxy. -/
  port : Nat
  /-- The user name at the proxy. -/
  username : Option String := none
  /-- The password at the proxy. -/
  password : Option String := none
  deriving DecidableEq, Repr

/-- The address of a proxy. -/
def Proxy.url (proxy : Proxy) : String :=
  s!"http://{proxy.host}:{proxy.port}"

/-- How connections are made. -/
structure TransportSettings where
  /-- The seconds to wait for a connection; without them there is no limit. -/
  connectTimeout : Option Nat := some 10
  /-- The seconds to wait for an answer; without them there is no limit. -/
  socketTimeout : Option Nat := some 60
  /-- Whether idle connections are kept alive. -/
  keepAlive : Bool := true
  /-- The greatest number of idle connections to one host. -/
  connectionsMaxPerRoute : Nat := 2
  /-- The proxy, if there is one. -/
  proxy : Option Proxy := none
  /-- Whether any certificate of a server is accepted. -/
  trustAllRoots : Bool := false
  /-- The file of further certificates to trust. -/
  trustBundle : Option String := none
  deriving DecidableEq, Repr

/-- A number of seconds as a limit; zero stands for no limit. -/
def limitOfSeconds (seconds : Nat) : Option Nat :=
  if seconds = 0 then none else some seconds

/-- The milliseconds to wait for an answer. -/
def TransportSettings.callTimeout (settings : TransportSettings) : Option Nat :=
  settings.socketTimeout.map (· * 1000)

end Request
end FieldOcr
