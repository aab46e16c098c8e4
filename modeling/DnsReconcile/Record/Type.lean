/-
# Record types

The types of records a zone can hold, their names, and two properties on which
everything else depends: whether several records of a type may share a label, and
whether a type exists only as a provider's way to describe something other than
DNS data.
-/

namespace DnsReconcile

/-- A record type, in the order in which records of one label are listed. -/
inductive RecordType where
  | a
  | aaaa
  | cname
  /-- Like a CNAME, but allowed at the apex, where the provider resolves it. -/
  | aliased
  | mx
  | ns
  | txt
  | srv
  | caa
  | tlsa
  | sshfp
  | ds
  | ptr
  | soa
  /-- A permanent HTTP redirect, written `from,to`. -/
  | redirect
  /-- A temporary HTTP redirect, written `from,to`. -/
  | tempRedirect
  /-- A forwarding rule of the provider. -/
  | pageRule
  /-- A route to an edge worker, written `pattern,script`. -/
  | workerRoute
deriving Repr, DecidableEq

namespace RecordType

/-- The name of a type. -/
def name : RecordType → String
  | a => "A"
  | aaaa => "AAAA"
  | cname => "CNAME"
  | aliased => "ALIAS"
  | mx => "MX"
  | ns => "NS"
  | txt => "TXT"
  | srv => "SRV"
  | caa => "CAA"
  | tlsa => "TLSA"
  | sshfp => "SSHFP"
  | ds => "DS"
  | ptr => "PTR"
  | soa => "SOA"
  | redirect => "REDIRECT"
  | tempRedirect => "TEMP_REDIRECT"
  | pageRule => "PAGE_RULE"
  | workerRoute => "WORKER_ROUTE"

/-- The place of a type in the order of types. -/
def rank (type : RecordType) : Nat :=
  type.ctorIdx

/-- Types that describe something other than DNS data. -/
def isPseudo : RecordType → Bool
  | redirect | tempRedirect | pageRule | workerRoute => true
  | _ => false

/-- Types of which several records may share a label. Such records are told apart
by their payloads. -/
def isMultiValue : RecordType → Bool
  | a | aaaa | mx | txt | ns | srv | caa | ds | tlsa | sshfp => true
  | type => type.isPseudo

end RecordType

end DnsReconcile
