/-
# Zones

A domain with the records it should hold and the policy for everything else that
is found there.
-/

import DnsReconcile.Record.Authored

namespace DnsReconcile

open Json

/-- A domain as its owner wants it. -/
structure Zone where
  /-- The domain name, without a dot at the end. -/
  name : String := ""
  /-- The name of the provider instance that serves the zone. -/
  provider : String := ""
  records : List Record := []
  /-- Whether records that are not desired are deleted. -/
  purge : Bool := true
  /-- The TTL of records that give none. -/
  defaultTtl : Option UInt32 := none
  /-- Whether the name servers of the zone itself are managed here. -/
  manageApexNs : Bool := false
  /-- Patterns of labels whose records are left alone. -/
  ignoreLabels : List String := []
  /-- Patterns of CNAME targets whose records are left alone. -/
  ignoreTargets : List String := []
  /-- The desired state of features of the whole domain. -/
  features : Dict Bool := Dict.empty
  /-- Annotations for providers. -/
  metadata : Dict String := Dict.empty

namespace Zone

/-- The TTL that replaces a TTL of zero. -/
def effectiveTtl (zone : Zone) : UInt32 :=
  match zone.defaultTtl with
  | some ttl => if 0 < ttl then ttl else fallbackTtl
  | none => fallbackTtl

/-- Whether the name servers of the zone itself take part in comparisons: if the
zone says so, or if some are desired. -/
def managesApexNs (zone : Zone) (desired : List Record) : Bool :=
  zone.manageApexNs || desired.any fun record => record.type == .ns && record.isApex

/-- The form of a zone in JSON. -/
def shape : Shape Zone where
  initial := {}
  fields := [
    .required "name" Reader.text fun draft value => { draft with name := value },
    .required "provider" Reader.text fun draft value => { draft with provider := value },
    .defaulted "records" (Reader.list AuthoredRecord.readRecord) fun draft value =>
      { draft with records := value },
    .defaulted "purge" Reader.bool fun draft value => { draft with purge := value },
    .defaulted "default_ttl" (Reader.nullable Reader.uint32) fun draft value =>
      { draft with defaultTtl := value },
    .defaulted "manage_apex_ns" Reader.bool fun draft value =>
      { draft with manageApexNs := value },
    .defaulted "ignore_labels" (Reader.list Reader.text) fun draft value =>
      { draft with ignoreLabels := value },
    .defaulted "ignore_targets" (Reader.list Reader.text) fun draft value =>
      { draft with ignoreTargets := value },
    .defaulted "features" (Reader.dict Reader.bool) fun draft value =>
      { draft with features := value },
    .defaulted "metadata" (Reader.dict Reader.text) fun draft value =>
      { draft with metadata := value }]

end Zone

end DnsReconcile
