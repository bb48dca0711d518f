/-!
# Faults of URLs
-/

set_option autoImplicit false

namespace LayeredConfig.Url

inductive Fault where
  /-- There is no scheme, and no URL to which the text could be relative. -/
  | relative
  | emptyHost
  | port
  | ipv4Address
  | ipv6Address
  /-- A domain with characters that no domain name can have. -/
  | domainName
  /-- A host of an unknown scheme with a character that no host can have. -/
  | hostCharacter
  deriving DecidableEq, Repr

def Fault.message : Fault → String
  | .relative => "relative URL without a base"
  | .emptyHost => "empty host"
  | .port => "invalid port number"
  | .ipv4Address => "invalid IPv4 address"
  | .ipv6Address => "invalid IPv6 address"
  | .domainName => "invalid international domain name"
  | .hostCharacter => "invalid domain character"

end LayeredConfig.Url
