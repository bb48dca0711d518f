import LayeredConfig.Web.Network

/-!
# Fetching documents

A document is fetched whole or not at all, and only up to a limit on its length.  A length told in
front of the body is held against the limit before any of the body is read.  A body without told
length is read up to one byte past the limit.
-/

set_option autoImplicit false

namespace LayeredConfig.Web

inductive Refusal where
  | invalidUrl (fault : Url.Fault)
  | status (status : Nat)
  /-- The told length is above the limit. -/
  | lengthAbove (length limit : Nat)
  | bodyAbove (limit : Nat)
  deriving DecidableEq, Repr

def Refusal.message : Refusal → String
  | .invalidUrl fault => s!"invalid URL: {fault.message}"
  | .status code => s!"HTTP status {statusText code}"
  | .lengthAbove length limit => s!"response too large: {length} bytes (max {limit})"
  | .bodyAbove limit => s!"response too large: exceeds {limit} bytes"

inductive Fault where
  | refused (refusal : Refusal)
  | noAnswer
  | cutShort
  deriving DecidableEq, Repr

/-- The number of bytes of a body that are asked for under a limit: one more than the limit, as a
64-bit number. -/
def readingWindow (limit : UInt64) : Nat :=
  (limit + 1).toNat

def Response.bodyWithin (response : Response) (limit : UInt64) : Except Fault (List UInt8) :=
  let read := response.received.take (readingWindow limit)
  if response.isCutShort ∧ response.received.length < readingWindow limit then .error .cutShort
  else if limit.toNat < read.length then .error (.refused (.bodyAbove limit.toNat))
  else .ok read

def Response.document (response : Response) (limit : UInt64) : Except Fault (List UInt8) :=
  if response.status ≠ statusOk then .error (.refused (.status response.status))
  else
    match response.tellsLength? with
    | some length =>
        if limit.toNat < length then .error (.refused (.lengthAbove length limit.toNat))
        else response.bodyWithin limit
    | none => response.bodyWithin limit

def fetch (network : Network) (limit : UInt64) (url : Url) : Except Fault (List UInt8) :=
  match network.finalAnswer url with
  | .silence => .error .noAnswer
  | .response response => response.document limit

end LayeredConfig.Web
