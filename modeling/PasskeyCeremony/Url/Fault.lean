/-!
# Faults of an address

Why a text is no address, or cannot be resolved against another one.
-/

namespace PasskeyCeremony.Url

/-- Why a text is no address. -/
inductive Fault where
  /-- There is no scheme and nothing to resolve against. -/
  | relativeWithoutBase
  /-- There is no scheme, and the base has no hierarchy of segments. -/
  | relativeToRootless
  /-- The scheme requires a host. -/
  | emptyHost
  /-- The port is no number below 65536. -/
  | invalidPort
  /-- The brackets hold no IPv6 address. -/
  | invalidIpv6
  /-- The host is no domain name. -/
  | invalidDomain
  /-- The host of an address without special rules has a forbidden character. -/
  | invalidHostCharacter
  /-- The host ends in a number but is no IPv4 address. -/
  | invalidIpv4
  deriving DecidableEq, Repr

def Fault.message : Fault → String
  | relativeWithoutBase => "relative URL without a base"
  | relativeToRootless => "relative URL with a cannot-be-a-base base"
  | emptyHost => "empty host"
  | invalidPort => "invalid port number"
  | invalidIpv6 => "invalid IPv6 address"
  | invalidDomain => "invalid international domain name"
  | invalidHostCharacter => "invalid domain character"
  | invalidIpv4 => "invalid IPv4 address"

end PasskeyCeremony.Url
