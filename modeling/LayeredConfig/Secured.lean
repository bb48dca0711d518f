import LayeredConfig.Access
import LayeredConfig.Environment

/-!
# Secured variables

A document as the environment of another process.  The values of secured variables are hidden in
it.  A document can name secured variables of its own and can replace the usual ones.
-/

set_option autoImplicit false

namespace LayeredConfig

def hiddenMarker : String := "HIDDEN_BY_MEGALINTER"

def securedDefaultKey : String := "SECURED_ENV_VARIABLES_DEFAULT"

def securedExtraKey : String := "SECURED_ENV_VARIABLES"

def usualSecured : List String :=
  ["GITHUB_TOKEN", "PAT", "SYSTEM_ACCESSTOKEN", "GIT_AUTHORIZATION_BEARER", "CI_JOB_TOKEN",
   "GITLAB_ACCESS_TOKEN_MEGALINTER", "GITLAB_CUSTOM_CERTIFICATE", "WEBHOOK_REPORTER_BEARER_TOKEN",
   "NPM_TOKEN", "DOCKER_USERNAME", "DOCKER_PASSWORD", "CODECOV_TOKEN", "GCR_USERNAME",
   "GCR_PASSWORD", "SMTP_PASSWORD"]

namespace Document

def secured (document : Document) : Except ConfigError (List String) :=
  match document.listOr securedDefaultKey (usualSecured.map .text) with
  | .error error => .error error
  | .ok usual =>
      match document.listOr securedExtraKey [] with
      | .error error => .error error
      | .ok extra => .ok ((usual ++ extra).map Value.envText)

def flattened (document : Document) (hidden : List String) : Environment :=
  Mapping.mapEntries
    (fun key value => if key ∈ hidden then hiddenMarker else value.envText) document

/-- The environment that a document amounts to, with or without secured values. -/
def toEnvironment (document : Document) (redact : Bool) : Except ConfigError Environment :=
  if redact then document.secured.map document.flattened
  else .ok (document.flattened [])

end Document

end LayeredConfig
