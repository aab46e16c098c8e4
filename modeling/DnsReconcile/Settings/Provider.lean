/-
# Settings of providers

What a settings file says about one provider instance: which kind of provider it
is and what that kind needs to know. The kind stands in a member named `type`, or
is the first item if the settings are given as an array.
-/

import DnsReconcile.Error
import DnsReconcile.Json.Reader

namespace DnsReconcile

open Json

/-- What a Cloudflare provider needs to know. -/
structure CloudflareSettings where
  apiToken : String := ""
  /-- The account whose zones are served, if only those are. -/
  accountId : Option String := none
  /-- Whether forwarding rules are managed. -/
  manageRedirects : Bool := false
  /-- Whether worker routes are managed. -/
  manageWorkers : Bool := false
  /-- Whether writes are left out. -/
  dryRun : Bool := false
deriving Repr, DecidableEq

/-- What a settings file says about one provider instance. -/
inductive ProviderSettings where
  | cloudflare (settings : CloudflareSettings)
  | memory
  /-- A provider that a factory registered under a name of its own builds. -/
  | custom (factory : String) (config : Json)
deriving Repr

/-- The form of the settings of a Cloudflare provider. -/
def CloudflareSettings.shape : Shape CloudflareSettings where
  initial := {}
  fields := [
    .defaulted "api_token" Reader.text fun draft value => { draft with apiToken := value },
    .defaulted "account_id" (Reader.nullable Reader.text) fun draft value =>
      { draft with accountId := value },
    .defaulted "manage_redirects" Reader.bool fun draft value =>
      { draft with manageRedirects := value },
    .defaulted "manage_workers" Reader.bool fun draft value =>
      { draft with manageWorkers := value },
    .defaulted "dry_run" Reader.bool fun draft value => { draft with dryRun := value }]

namespace ProviderSettings

/-- The kinds of providers that settings can name. -/
inductive Kind where
  | cloudflare
  | memory
  | custom
deriving Repr, DecidableEq

/-- The kind with a given name. -/
def Kind.ofName? : String → Option Kind
  | "cloudflare" => some .cloudflare
  | "memory" => some .memory
  | "custom" => some .custom
  | _ => none

/-- The name of a kind. -/
def Kind.read : Reader Kind := fun source =>
  match Reader.text source with
  | .error fault => .error fault
  | .ok name =>
      match Kind.ofName? name with
      | some kind => .ok kind
      | none => .error (.shape none)

/-- The form of the settings of a custom provider. -/
def customShape : Shape (String × Json) where
  initial := ("", .null)
  fields := [
    .required "factory" Reader.text fun draft value => (value, draft.2),
    .required "config" Reader.value fun draft value => (draft.1, value)]

/-- Find the kind among the members of an object. It may be named once, and all
other members have to be readable. -/
def kindAmong (found : Option Kind) (ending : Ending) :
    List (Option String × Source) → Except Fault Kind
  | [] =>
      match ending, found with
      | .broken, _ => .error .grammar
      | .closed, none => .error (.shape none)
      | .closed, some kind => .ok kind
  | (none, _) :: _ => .error .grammar
  | (some key, source) :: rest =>
      if key = "type" then
        if found.isSome then .error (.shape none)
        else
          match Kind.read source with
          | .error fault => .error fault
          | .ok kind => kindAmong (some kind) ending rest
      else
        match source.value? with
        | none => .error .grammar
        | some _ => kindAmong found ending rest

/-- Read what a kind needs to know. Everything is known to be readable here, so a
fault can only be one of shape. -/
def readBlock (kind : Kind) (block : Source) : Except Fault ProviderSettings :=
  let result : Except Fault ProviderSettings :=
    match kind with
    | .cloudflare => (CloudflareSettings.shape.read block).map .cloudflare
    | .memory =>
        match block with
        | .array (_ :: _) _ => .error (.shape none)
        | _ => .ok .memory
    | .custom => (customShape.read block).map fun fields => .custom fields.1 fields.2
  result.mapError fun _ => .shape none

/-- Read the settings of one provider instance. -/
def read : Reader ProviderSettings
  | .object members ending =>
      match kindAmong none ending members with
      | .error fault => .error fault
      | .ok kind => readBlock kind (.object members ending)
  | .array [] .closed => .error (.shape none)
  | .array [] .broken => .error .grammar
  | .array (first :: rest) ending =>
      match Kind.read first with
      | .error fault => .error fault
      | .ok kind =>
          match (Source.array rest ending).value? with
          | none => .error .grammar
          | some _ => readBlock kind (.array rest ending)
  | .deep _ => .error .grammar
  | other => .error (Reader.mismatch other)

/-- The name of the factory that builds the instance. -/
def typeName : ProviderSettings → String
  | .cloudflare _ => "cloudflare"
  | .memory => "memory"
  | .custom factory _ => factory

/-- Refuse settings that cannot work. -/
def validate : ProviderSettings → Except Error Unit
  | .cloudflare settings =>
      if settings.apiToken.isEmpty then
        .error (.config "Cloudflare API token cannot be empty")
      else .ok ()
  | .memory => .ok ()
  | .custom factory config =>
      if factory.isEmpty then .error (.config "Custom provider factory cannot be empty")
      else if config.isNull then .error (.config "Custom provider config cannot be null")
      else .ok ()

end ProviderSettings

end DnsReconcile
