/-
# Ignored labels and targets

Records at ignored labels, and CNAMEs with ignored targets, belong to somebody
else. A zone may not ask for such records itself, except for those that say they
override the label rule.
-/

import DnsReconcile.Pattern.Basic
import DnsReconcile.Zone.Basic

namespace DnsReconcile

/-- A text without the dots it ends with. -/
def withoutFinalDots (text : String) : String :=
  String.ofList (Text.trimEndDots text.toList)

namespace Zone

/-- The pattern that describes a label, if one does. -/
def ignoredLabel? (zone : Zone) (matcher : LabelMatcher) (label : String) : Option String :=
  zone.ignoreLabels.find? fun pattern => matcher.covers pattern label

/-- The pattern that describes a CNAME target, if one does. Dots at the end of
either do not matter. -/
def ignoredTarget? (zone : Zone) (matcher : LabelMatcher) (target : String) : Option String :=
  zone.ignoreTargets.find? fun pattern =>
    matcher.covers (withoutFinalDots pattern) (withoutFinalDots target)

/-- The pattern that describes the target of a CNAME record. -/
def ignoredByTarget? (zone : Zone) (matcher : LabelMatcher) (record : Record) : Option String :=
  match record.payload with
  | .cname target => zone.ignoredTarget? matcher target
  | _ => none

/-- Refuse a desired record that belongs to somebody else. -/
def checkRecord (zone : Zone) (matcher : LabelMatcher) (record : Record) : Except Error Unit :=
  if record.hasIgnoreOverride then .ok ()
  else
    match zone.ignoredLabel? matcher record.label with
    | some pattern =>
        Record.refuse record.label record.type
          ("label matches ignore pattern '" ++ pattern ++ "'; add " ++ ignoreOverrideKey ++
            "=true to manage it anyway")
    | none =>
        match zone.ignoredByTarget? matcher record with
        | some pattern =>
            Record.refuse record.label record.type
              ("target matches ignore-target pattern '" ++ pattern ++ "'")
        | none => .ok ()

/-- Refuse the first desired record that belongs to somebody else. -/
def checkIgnored (zone : Zone) (matcher : LabelMatcher) (records : List Record) :
    Except Error Unit :=
  records.forM (zone.checkRecord matcher)

/-- Check the settings of a zone and its records, which have to be canonical. -/
def validate (zone : Zone) (matcher : LabelMatcher) : Except Error Unit :=
  if (Text.trim zone.name.toList).isEmpty then .error (.config "zone name cannot be empty")
  else if zone.provider.isEmpty then
    .error (.config ("zone '" ++ zone.name ++ "' has no provider"))
  else do
    (zone.ignoreLabels ++ zone.ignoreTargets).forM matcher.check
    zone.checkIgnored matcher zone.records

end Zone

end DnsReconcile
