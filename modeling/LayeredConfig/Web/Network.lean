import LayeredConfig.Url.Reference
import LayeredConfig.Web.Status

/-!
# The network

What the servers of a network answer, seen from a client that follows redirects.  A network may be
out of reach; then no request is answered.  The client speaks `http`, plain and encrypted.
-/

set_option autoImplicit false

namespace LayeredConfig.Web

structure Response where
  status : Nat
  /-- The bytes that the server sends. -/
  body : List UInt8
  /-- The address where the document is instead. -/
  location : Option String
  /-- The body is sent in chunks, so its length is not told in front. -/
  chunked : Bool
  /-- The length that the server tells, where it is not the length of the body. -/
  declaredLength : Option Nat
  deriving DecidableEq, Repr

inductive Answer where
  | response (response : Response)
  /-- The connection ends without a response. -/
  | silence
  deriving DecidableEq, Repr

inductive Network where
  | unreachable
  | serving (answers : List (String × Answer))
  deriving DecidableEq, Repr

namespace Response

def missing : Response := ⟨statusNotFound, [], none, false, none⟩

def tellsLength? (response : Response) : Option Nat :=
  if response.chunked then none else some (response.declaredLength.getD response.body.length)

/-- The bytes of the body that reach the client: no more than the told length. -/
def received (response : Response) : List UInt8 :=
  match response.tellsLength? with
  | none => response.body
  | some length => response.body.take length

/-- The connection ends before the told length is reached. -/
def isCutShort (response : Response) : Bool :=
  match response.tellsLength? with
  | none => false
  | some length => response.body.length < length

/-- The address to which a response to a request for `url` sends the client. -/
def redirect? (response : Response) (url : Url) : Option Url :=
  if response.status ∈ redirectStatuses then
    match response.location with
    | none => none
    | some location => (url.join location).toOption
  else none

end Response

namespace Network

def answerIn (address : String) : List (String × Answer) → Answer
  | [] => .response .missing
  | (other, answer) :: rest => if address = other then answer else answerIn address rest

def answer (network : Network) (url : Url) : Answer :=
  match network with
  | .unreachable => .silence
  | .serving answers =>
      if url.scheme = "http".toList ∨ url.scheme = "https".toList then
        answerIn url.requestText answers
      else .silence

def maxRedirects : Nat := 10

def answerWithin (network : Network) : Nat → Url → Answer
  | 0, url =>
      match network.answer url with
      | .silence => .silence
      | .response response =>
          if (response.redirect? url).isSome then .silence else .response response
  | redirects + 1, url =>
      match network.answer url with
      | .silence => .silence
      | .response response =>
          match response.redirect? url with
          | some next => network.answerWithin redirects next
          | none => .response response

def finalAnswer (network : Network) (url : Url) : Answer :=
  network.answerWithin maxRedirects url

end Network

end LayeredConfig.Web
