/-!
# Faults of addresses
-/

namespace FieldOcr
namespace Url

/-- Why a text is no absolute address. -/
inductive Fault
  | relativeWithoutBase
  | emptyHost
  | invalidName
  | invalidOpaqueHost
  | invalidPort
  | invalidIpv4
  | invalidIpv6
  deriving DecidableEq, Repr

/-- The wording of a fault. -/
def Fault.message : Fault -> String
  | .relativeWithoutBase => "relative URL without a base"
  | .emptyHost => "empty host"
  | .invalidName => "invalid international domain name"
  | .invalidOpaqueHost => "invalid domain character"
  | .invalidPort => "invalid port number"
  | .invalidIpv4 => "invalid IPv4 address"
  | .invalidIpv6 => "invalid IPv6 address"

end Url
end FieldOcr
