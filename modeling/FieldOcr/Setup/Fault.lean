import FieldOcr.Json.Fault
import FieldOcr.Schema.Basic
import FieldOcr.Storage.Fault

/-!
# Faults that keep a run from starting

A *setup fault* says that a run is misconfigured: its request is not valid, a
parameter has no such value, the result schema is unusable, or the transport
cannot be built.  Faults of the remote side are no setup faults.
-/

namespace FieldOcr
namespace Setup

/-- The parameters that are read from texts. -/
inductive Parameter
  | location
  | exportFormat
  | textType
  | markingType
  | writingStyle
  | region
  | responseCharset
  | baseUrl
  deriving DecidableEq, Repr

/-- The name of a parameter in a fault. -/
def Parameter.name : Parameter -> String
  | .location => "locationId"
  | .exportFormat => "exportFormat"
  | .textType => "textType"
  | .markingType => "markingType"
  | .writingStyle => "writingStyle"
  | .region => "region"
  | .responseCharset => "responseCharacterSet"
  | .baseUrl => "baseUrl"

/-- What makes a request invalid. -/
inductive RequestFlaw
  | invertedRegion (left top right bottom : Nat)
  | noSource
  | noApplicationId
  | noLanguage
  | noPlaceholders
  | placeholdersWithoutCells (count : Nat)
  | contradictoryTrust
  | emptyProxyHost
  | proxyPasswordWithoutUsername
  | baseUrlScheme (base : String)
  deriving DecidableEq, Repr

/-- The wording of a request's flaw. -/
def RequestFlaw.message : RequestFlaw -> String
  | .invertedRegion left top right bottom =>
      "region must have left < right and top < bottom, got " ++
        s!"{left},{top},{right},{bottom}"
  | .noSource => "source is required"
  | .noApplicationId => "application id is required"
  | .noLanguage => "at least one recognition language is required"
  | .noPlaceholders => "placeholders count must be ≥ 1"
  | .placeholdersWithoutCells count =>
      s!"placeholders count {count} requires a cell-based marking type"
  | .contradictoryTrust =>
      "trust-all-roots and a trust bundle are mutually exclusive"
  | .emptyProxyHost => "proxy host is empty"
  | .proxyPasswordWithoutUsername =>
      "proxy password given without a proxy username"
  | .baseUrlScheme base => s!"base URL must be http or https, got '{base}'"

/-- What makes a schema unusable. -/
inductive SchemaFlaw
  | unreadable (fault : Storage.Fault)
  | notSchema (fault : Json.Fault)
  | inconsistent (flaw : Schema.Flaw)

/-- The wording of a schema's flaw. -/
def SchemaFlaw.message : SchemaFlaw -> String
  | .unreadable fault => fault.message
  | .notSchema fault => fault.message
  | .inconsistent flaw => flaw.message

/-- What keeps a transport from being built. -/
inductive TransportFlaw
  | proxy
  | unreadableBundle (path : String) (fault : Storage.Fault)
  | brokenBundle (path : String)
  | brokenCertificate
  deriving DecidableEq, Repr

/-- The wording of a transport's flaw. -/
def TransportFlaw.message : TransportFlaw -> String
  | .proxy => "proxy: builder error"
  | .unreadableBundle path fault => s!"trust bundle {path}: " ++ fault.message
  | .brokenBundle path => s!"trust bundle {path}: builder error"
  | .brokenCertificate => "builder error"

/-- Why a run cannot start. -/
inductive Fault
  | request (flaw : RequestFlaw)
  | parameter (concerned : Parameter) (value : String)
  | schema (name : String) (flaw : SchemaFlaw)
  | transport (flaw : TransportFlaw)

/-- The wording of a setup fault. -/
def Fault.message : Fault -> String
  | .request flaw => "Invalid request: " ++ flaw.message
  | .parameter concerned value =>
      s!"Invalid value '{value}' for " ++ concerned.name
  | .schema name flaw =>
      s!"Result schema '{name}' is unusable: " ++ flaw.message
  | .transport flaw => "Failed to build HTTP transport: " ++ flaw.message

/-- The name of the kind of a setup fault. -/
def Fault.kind : Fault -> String
  | .request _ => "InvalidRequest"
  | .parameter .. => "InvalidParameter"
  | .schema .. => "Schema"
  | .transport _ => "TransportSetup"

end Setup
end FieldOcr
