import LayeredConfig.Files.Fault
import LayeredConfig.Json.Printer
import LayeredConfig.Text.Utf8
import LayeredConfig.Web.Fetch
import LayeredConfig.Yaml.Fault

/-!
# Errors

Why a configuration cannot be resolved or read.  Each error names its cause; the wording is in
`ConfigError.message` and the messages of the causes.
-/

set_option autoImplicit false

namespace LayeredConfig

/-- The name of a request, whose configuration is kept apart from that of every other request. -/
@[ext]
structure RequestId where
  text : String
  deriving DecidableEq, Repr, Hashable

def RequestId.ofNat (n : Nat) : RequestId :=
  ⟨String.ofList (Nat.toDigits 10 n)⟩

inductive DocumentFault where
  | yaml (fault : Yaml.Fault)
  /-- The root of the document is a scalar or a list. -/
  | notAMapping
  | notUtf8 (failure : Text.Utf8Failure)
  | ancestors (found : Value)
  | ancestorItem (found : Value)
  deriving DecidableEq

def DocumentFault.message : DocumentFault → String
  | .yaml fault => fault.message
  | .notAMapping => "top-level document must be a mapping"
  | .notUtf8 failure => s!"invalid UTF-8: {failure.message}"
  | .ancestors found => s!"EXTENDS must be a string or a list, found {found.envText}"
  | .ancestorItem found => s!"EXTENDS items must be strings, found {found.envText}"

inductive ListFault where
  /-- Text that starts like a JSON array and is not JSON. -/
  | json
  | notAnArray
  | mapAsList
  | mapAsArguments
  | unbalancedQuoting
  deriving DecidableEq, Repr

def ListFault.message : ListFault → String
  | .json => "not a JSON text"
  | .notAnArray => "expected a JSON array"
  | .mapAsList => "a mapping cannot be read as a list"
  | .mapAsArguments => "a mapping cannot be used as an argument list"
  | .unbalancedQuoting => "unbalanced quoting"

inductive ConfigError where
  /-- A remote document is refused. -/
  | fetch (url : String) (refusal : Web.Refusal)
  | parse (location : String) (fault : DocumentFault)
  | notFound (path : String)
  /-- A document is its own ancestor. -/
  | cyclicExtends (chain : List String)
  | notInitialized (id : RequestId)
  | malformedList (key : String) (fault : ListFault)
  | noAnswer
  | file (fault : Files.Fault)
  /-- The body of a remote document ends too early. -/
  | cutShort
  deriving DecidableEq

instance instDecidableEqExcept {ε α : Type} [DecidableEq ε] [DecidableEq α] :
    DecidableEq (Except ε α)
  | .ok first, .ok second => decidable_of_iff (first = second) ⟨congrArg Except.ok, Except.ok.inj⟩
  | .error first, .error second =>
      decidable_of_iff (first = second) ⟨congrArg Except.error, Except.error.inj⟩
  | .ok _, .error _ => isFalse nofun
  | .error _, .ok _ => isFalse nofun

namespace ConfigError

def ofWeb (url : String) : Web.Fault → ConfigError
  | .refused refusal => .fetch url refusal
  | .noAnswer => .noAnswer
  | .cutShort => .cutShort

def message : ConfigError → String
  | .fetch url refusal => s!"Unable to retrieve config file {url}: {refusal.message}"
  | .parse location fault => s!"Parse error in {location}: {fault.message}"
  | .notFound path => s!"Config file not found: {path}"
  | .cyclicExtends chain => "Cyclic EXTENDS chain: " ++ " -> ".intercalate chain
  | .notInitialized id => s!"Config has not been initialized for request {id.text}"
  | .malformedList key fault => s!"Malformed list value for {key}: {fault.message}"
  | .noAnswer => "Network error: no server answers"
  | .file fault => s!"I/O error: {fault.message}"
  | .cutShort => "I/O error: the connection closed before the end of the body"

example :
    (cyclicExtends ["a.yml", "b.yml", "a.yml"]).message =
      "Cyclic EXTENDS chain: a.yml -> b.yml -> a.yml" := by decide

end ConfigError

end LayeredConfig
