/-
# Envelopes

The form of every reply of Cloudflare: whether the request was carried out, what
was wrong with it, the result, and for a listing which page of it this is.
-/

import DnsReconcile.Json.Parser
import DnsReconcile.Json.Reader

namespace DnsReconcile.Cloudflare

open Json

/-- Something that was wrong with a request. -/
structure Complaint where
  code : Int := 0
  text : String := ""
deriving Repr, DecidableEq

namespace Complaint

/-- The form of a complaint in JSON. -/
def shape : Shape Complaint where
  initial := {}
  fields := [
    .defaulted "code" Reader.int64 fun draft value => { draft with code := value },
    .defaulted "message" Reader.text fun draft value => { draft with text := value }]

/-- A complaint as messages show it. -/
def print (complaint : Complaint) : String :=
  complaint.text ++ " (" ++ toString complaint.code ++ ")"

end Complaint

/-- The place of a page in a listing. -/
structure Paging where
  page : UInt32 := 0
  total : UInt32 := 0
deriving Repr, DecidableEq

namespace Paging

/-- The form of a place in JSON. -/
def shape : Shape Paging where
  initial := {}
  fields := [
    .defaulted "page" Reader.uint32 fun draft value => { draft with page := value },
    .defaulted "total_pages" Reader.uint32 fun draft value => { draft with total := value }]

/-- The number of the page that comes next, unless this is the last one. -/
def next? (paging : Paging) : Option UInt32 :=
  if paging.page < paging.total then some (paging.page + 1) else none

end Paging

/-- A reply with a result of some kind. -/
structure Envelope (α : Type) where
  success : Bool := false
  complaints : List Complaint := []
  result : Option α := none
  paging : Option Paging := none

namespace Envelope

variable {α : Type}

/-- The form of an envelope in JSON, given that of its result. -/
def shape (read : Reader α) : Shape (Envelope α) where
  initial := {}
  fields := [
    .defaulted "success" Reader.bool fun draft value => { draft with success := value },
    .defaulted "errors" (Reader.list Complaint.shape.read) fun draft value =>
      { draft with complaints := value },
    .optional "result" (Reader.nullable read) fun draft value => { draft with result := value },
    .defaulted "result_info" (Reader.nullable Paging.shape.read) fun draft value =>
      { draft with paging := value }]

/-- Read an envelope from a text. -/
def read? (read : Reader α) (text : String) : Option (Envelope α) :=
  ((Json.scan text).read (shape read).read).toOption

/-- All complaints as messages show them. -/
def complaintText (envelope : Envelope α) : String :=
  "; ".intercalate (envelope.complaints.map (·.print))

end Envelope

end DnsReconcile.Cloudflare
