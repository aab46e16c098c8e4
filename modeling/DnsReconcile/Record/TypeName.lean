/-
# Naming record types

Which type a name in settings or in a provider's reply means. Names are read in
any case and with blanks around them, and some types have a second name.
-/

import DnsReconcile.Error
import DnsReconcile.Text.Blank
import DnsReconcile.Text.Case

namespace DnsReconcile.RecordType

/-- The type with a given name in capitals. -/
def ofName? (name : String) : Option RecordType :=
  match name with
  | "A" => some a
  | "AAAA" => some aaaa
  | "CNAME" => some cname
  | "ALIAS" => some aliased
  | "MX" => some mx
  | "NS" => some ns
  | "TXT" | "SPF" => some txt
  | "SRV" => some srv
  | "CAA" => some caa
  | "TLSA" => some tlsa
  | "SSHFP" => some sshfp
  | "DS" => some ds
  | "PTR" => some ptr
  | "SOA" => some soa
  | "REDIRECT" | "CF_REDIRECT" => some redirect
  | "TEMP_REDIRECT" | "CF_TEMP_REDIRECT" => some tempRedirect
  | "PAGE_RULE" => some pageRule
  | "WORKER_ROUTE" | "CF_WORKER_ROUTE" => some workerRoute
  | _ => none

/-- The type that a text names, in any case and with blanks around it. -/
def read (text : String) : Except Error RecordType :=
  let capitals := String.ofList (Text.upper (Text.trim text.toList))
  match ofName? capitals with
  | some type => .ok type
  | none => .error (.config ("Unknown record type: " ++ capitals))

end DnsReconcile.RecordType
