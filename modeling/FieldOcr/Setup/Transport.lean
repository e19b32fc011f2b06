import FieldOcr.Request.Settings
import FieldOcr.Setup.Fault
import FieldOcr.Storage.Tree
import FieldOcr.Trust.Bundle
import FieldOcr.Trust.Certificate
import FieldOcr.Url.Parser

/-!
# Checks of connection settings

Connections can be made if the proxy has an address and if the trust bundle
can be read and holds no broken certificate.
-/

namespace FieldOcr
namespace Setup

open Request (Proxy TransportSettings)

variable [Url.NameConversion]

/-- Checks that a proxy has an address. -/
def checkProxyAddress (proxy : Proxy) : Except Fault Unit :=
  if (Url.parseString proxy.url).isOk then .ok ()
  else .error (.transport .proxy)

/-- Checks the certificates of a trust bundle. -/
def checkBundle (path : String) (files : Storage.Tree) : Except Fault Unit :=
  match files.read path with
  | .error fault => .error (.transport (.unreadableBundle path fault))
  | .ok bytes =>
      match Trust.readBundle bytes with
      | none => .error (.transport (.brokenBundle path))
      | some certificates =>
          if certificates.all Trust.isCertificate then .ok ()
          else .error (.transport .brokenCertificate)

/-- Checks connection settings. -/
def checkTransport
    (settings : TransportSettings)
    (files : Storage.Tree) : Except Fault Unit := do
  match settings.proxy with
  | none => pure ()
  | some proxy => checkProxyAddress proxy
  match settings.trustBundle with
  | none => pure ()
  | some path => checkBundle path files

end Setup
end FieldOcr
