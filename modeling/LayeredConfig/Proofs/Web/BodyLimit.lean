import LayeredConfig.Loader
import Mathlib.Tactic.SplitIfs

/-!
# The limit on a body

A request is settled by the response that follows on at most ten redirects.  Under every limit but
the greatest 64-bit number the document of that response is fetched whole or not at all: what is
longer than the limit is refused, and what is cut short is an error.  Under the greatest limit the
reading window wraps to nothing, and every document is fetched as an empty one.
-/

set_option autoImplicit false

namespace LayeredConfig

namespace Web

namespace Network

/-- The request for an address comes, after a number of redirects, to a response that sends the
client no further. -/
inductive Settles (network : Network) : Nat → Url → Response → Prop where
  | here {url : Url} {response : Response} (answered : network.answer url = .response response)
      (final : response.redirect? url = none) : Settles network 0 url response
  | onward {redirects : Nat} {url next : Url} {hop response : Response}
      (answered : network.answer url = .response hop) (sent : hop.redirect? url = some next)
      (settles : Settles network redirects next response) :
      Settles network (redirects + 1) url response

variable {network : Network} {url : Url} {response : Response}

theorem Settles.answerWithin {redirects limit : Nat}
    (settles : network.Settles redirects url response) (few : redirects ≤ limit) :
    network.answerWithin limit url = .response response := by
  induction settles generalizing limit with
  | here answered final =>
      cases limit <;> simp [Network.answerWithin, answered, final]
  | onward answered sent _ ih =>
      cases limit with
      | zero => exact absurd few (Nat.not_succ_le_zero _)
      | succ limit =>
          simp only [Network.answerWithin, answered, sent]
          exact ih (Nat.le_of_succ_le_succ few)

theorem settles_of_answerWithin {limit : Nat}
    (answered : network.answerWithin limit url = .response response) :
    ∃ redirects ≤ limit, network.Settles redirects url response := by
  induction limit generalizing url with
  | zero =>
      unfold answerWithin at answered
      split at answered
      · cases answered
      · rename_i found
        split_ifs at answered with sent
        cases answered
        exact ⟨0, Nat.le_refl 0, .here found (Option.not_isSome_iff_eq_none.mp sent)⟩
  | succ limit ih =>
      unfold answerWithin at answered
      split at answered
      · cases answered
      · rename_i found
        split at answered
        · rename_i sent
          obtain ⟨redirects, few, settles⟩ := ih answered
          exact ⟨redirects + 1, Nat.succ_le_succ few, .onward found sent settles⟩
        · rename_i final
          cases answered
          exact ⟨0, Nat.zero_le _, .here found final⟩

/-- The final answer is the response on which at most ten redirects come out; a longer row of
redirects, and one that goes round, has none. -/
theorem finalAnswer_eq_response_iff :
    network.finalAnswer url = .response response ↔
      ∃ redirects ≤ maxRedirects, network.Settles redirects url response :=
  ⟨settles_of_answerWithin, fun ⟨_, few, settles⟩ => settles.answerWithin few⟩

end Network

/-! ## The reading window -/

def greatestLimit : UInt64 := 18446744073709551615

theorem readingWindow_of_ne {limit : UInt64} (below : limit ≠ greatestLimit) :
    readingWindow limit = limit.toNat + 1 := by
  have fits : limit.toNat ≠ greatestLimit.toNat := fun same => below (UInt64.toNat_inj.mp same)
  have bound := limit.toNat_lt
  have greatest : greatestLimit.toNat = 2 ^ 64 - 1 := by decide
  rw [readingWindow, UInt64.toNat_add]
  exact Nat.mod_eq_of_lt (by rw [greatest] at fits; change limit.toNat + 1 < 2 ^ 64; omega)

theorem readingWindow_greatestLimit : readingWindow greatestLimit = 0 := by decide

namespace Response

variable {response : Response} {limit : UInt64}

/-- The told length or the length of the body is above a limit. -/
def Exceeds (response : Response) (limit : Nat) : Prop :=
  (∃ told, response.tellsLength? = some told ∧ limit < told) ∨ limit < response.received.length

/-- Under every limit but the greatest one, the window shows whether the body is too long, and a
body that is not has been read whole. -/
theorem bodyWithin_of_ne (below : limit ≠ greatestLimit) :
    response.bodyWithin limit =
      if limit.toNat < response.received.length then .error (.refused (.bodyAbove limit.toNat))
      else if response.isCutShort then .error .cutShort
      else .ok response.received := by
  unfold bodyWithin
  rw [readingWindow_of_ne below]
  by_cases long : limit.toNat < response.received.length
  · have filled : (response.received.take (limit.toNat + 1)).length = limit.toNat + 1 :=
      List.length_take_of_le long
    simp only [filled, Nat.lt_succ_self, if_true, if_pos long, Nat.not_lt.mpr long, and_false,
      if_false]
  · have short : response.received.length < limit.toNat + 1 := by omega
    rw [List.take_of_length_le (Nat.le_of_lt short)]
    simp only [short, and_true, if_neg long]

theorem bodyWithin_greatestLimit (response : Response) :
    response.bodyWithin greatestLimit = .ok [] := by
  unfold bodyWithin
  rw [readingWindow_greatestLimit]
  simp

theorem document_of_status (other : response.status ≠ statusOk) (limit : UInt64) :
    response.document limit = .error (.refused (.status response.status)) :=
  if_pos other

theorem document_of_told {told : Nat} (fine : response.status = statusOk)
    (tells : response.tellsLength? = some told) (above : limit.toNat < told) :
    response.document limit = .error (.refused (.lengthAbove told limit.toNat)) := by
  rw [document, if_neg (not_not_intro fine), tells]
  exact if_pos above

theorem document_of_not_told (fine : response.status = statusOk)
    (within : ∀ told, response.tellsLength? = some told → told ≤ limit.toNat) :
    response.document limit = response.bodyWithin limit := by
  rw [document, if_neg (not_not_intro fine)]
  cases tells : response.tellsLength? with
  | none => rfl
  | some told => exact if_neg (Nat.not_lt.mpr (within told tells))

/-- What a document under a limit comes to, and why. -/
inductive Verdict (response : Response) (limit : Nat) : Except Fault (List UInt8) → Prop where
  | whole (fine : response.status = statusOk) (within : ¬ response.Exceeds limit)
      (arrived : response.isCutShort = false) : Verdict response limit (.ok response.received)
  | cutShort (fine : response.status = statusOk) (within : ¬ response.Exceeds limit)
      (cut : response.isCutShort = true) : Verdict response limit (.error .cutShort)
  | refused (refusal : Refusal)
      (unfit : response.status ≠ statusOk ∨ response.Exceeds limit) :
      Verdict response limit (.error (.refused refusal))

theorem verdict_of_ne (below : limit ≠ greatestLimit) :
    response.Verdict limit.toNat (response.document limit) := by
  by_cases fine : response.status = statusOk
  · by_cases above : ∃ told, response.tellsLength? = some told ∧ limit.toNat < told
    · obtain ⟨told, tells, longer⟩ := above
      rw [document_of_told fine tells longer]
      exact .refused _ (.inr (.inl ⟨told, tells, longer⟩))
    · have within : ∀ told, response.tellsLength? = some told → told ≤ limit.toNat :=
        fun told tells => Nat.not_lt.mp fun longer => above ⟨told, tells, longer⟩
      rw [document_of_not_told fine within, bodyWithin_of_ne below]
      by_cases long : limit.toNat < response.received.length
      · rw [if_pos long]
        exact .refused _ (.inr (.inr long))
      · have fits : ¬ response.Exceeds limit.toNat := not_or.mpr ⟨above, long⟩
        rw [if_neg long]
        cases cut : response.isCutShort with
        | false => exact .whole fine fits cut
        | true => exact .cutShort fine fits cut
  · rw [document_of_status fine]
    exact .refused _ (.inl fine)

end Response

end Web

open Web

namespace Loader

variable {loader : Loader} {text : String} {url : Url} {redirects : Nat} {response : Response}

theorem fetch_of_settles (parsed : Url.parse text = .ok url)
    (few : redirects ≤ Network.maxRedirects)
    (settles : loader.network.Settles redirects url response) :
    loader.fetch text = (response.document loader.bodyLimit).mapError (.ofWeb text) := by
  have final := Network.finalAnswer_eq_response_iff.mpr ⟨redirects, few, settles⟩
  rw [fetch, address, parsed]
  simp only [Web.fetch, final]
  cases response.document loader.bodyLimit <;> rfl

theorem fetch_of_not_settles (parsed : Url.parse text = .ok url)
    (unsettled : ∀ redirects ≤ Network.maxRedirects, ∀ response,
      ¬ loader.network.Settles redirects url response) :
    loader.fetch text = .error .noAnswer := by
  have silence : loader.network.finalAnswer url = .silence := by
    cases final : loader.network.finalAnswer url with
    | silence => rfl
    | response response =>
        obtain ⟨redirects, few, settles⟩ := Network.finalAnswer_eq_response_iff.mp final
        exact absurd settles (unsettled redirects few response)
  rw [fetch, address, parsed]
  simp only [Web.fetch, silence]
  rfl

/-- Nothing is fetched where the redirects are too many or go round.  Otherwise a document is
fetched if and only if its response is fine, no longer than the limit and arrives whole, and then it
is the whole body; it is refused if and only if its response is another one or longer than the
limit.  Under the greatest limit only the told length is held against the limit, and an empty
document is fetched in place of every other one. -/
theorem fetch_within_limit (parsed : Url.parse text = .ok url) :
    ((∀ redirects ≤ Network.maxRedirects, ∀ response,
        ¬ loader.network.Settles redirects url response) →
      loader.fetch text = .error .noAnswer) ∧
    ∀ redirects ≤ Network.maxRedirects, ∀ response,
      loader.network.Settles redirects url response →
      (response.status ≠ statusOk →
        loader.fetch text = .error (.fetch text (.status response.status))) ∧
      (loader.bodyLimit ≠ greatestLimit →
        (∀ bytes, loader.fetch text = .ok bytes ↔
          response.status = statusOk ∧ ¬ response.Exceeds loader.bodyLimit.toNat ∧
            response.isCutShort = false ∧ bytes = response.received) ∧
        ((∃ refusal, loader.fetch text = .error (.fetch text refusal)) ↔
          response.status ≠ statusOk ∨ response.Exceeds loader.bodyLimit.toNat)) ∧
      (loader.bodyLimit = greatestLimit → response.status = statusOk →
        (∀ told, response.tellsLength? = some told → loader.bodyLimit.toNat < told →
          loader.fetch text =
            .error (.fetch text (.lengthAbove told loader.bodyLimit.toNat))) ∧
        ((∀ told, response.tellsLength? = some told → told ≤ loader.bodyLimit.toNat) →
          loader.fetch text = .ok [])) := by
  refine ⟨fetch_of_not_settles parsed, fun redirects few response settles => ?_⟩
  rw [fetch_of_settles parsed few settles]
  refine ⟨?_, ?_, ?_⟩
  · intro other
    rw [Response.document_of_status other]
    rfl
  · intro below
    have verdict := response.verdict_of_ne below
    generalize response.document loader.bodyLimit = result at verdict
    cases verdict with
    | whole fine within arrived =>
        simp [Except.mapError, fine, within, arrived, eq_comm]
    | cutShort fine within cut =>
        simp [Except.mapError, ConfigError.ofWeb, fine, within, cut]
    | refused refusal unfit =>
        refine ⟨fun bytes => ⟨nofun, fun whole => ?_⟩, fun _ => unfit, fun _ => ⟨refusal, rfl⟩⟩
        exact (unfit.elim (fun other => other whole.1) whole.2.1).elim
  · intro greatest fine
    refine ⟨fun told tells above => ?_, fun within => ?_⟩
    · rw [Response.document_of_told fine tells above]
      rfl
    · rw [Response.document_of_not_told fine within, greatest,
        Response.bodyWithin_greatestLimit]
      rfl

/-- A document of four bytes, sent in chunks. -/
def fourBytes : Response :=
  ⟨statusOk, Text.bytesOf "A: 1", none, true, none⟩

/-- A network where the document is behind a redirect. -/
def redirecting (limit : UInt64) : Loader where
  network := .serving
    [("https://host/old.yml", .response ⟨301, [], some "new.yml", false, none⟩),
      ("https://host/new.yml", .response fourBytes)]
  bodyLimit := limit
  temporary := "/t"

def redirectingUrl (name : String) : Url where
  scheme := "https".toList
  user := []
  host := some (.domain "host".toList)
  port := none
  path := .inl [name.toList]
  query := none
  fragment := none

theorem parse_redirecting : Url.parse "https://host/old.yml" = .ok (redirectingUrl "old.yml") := by
  decide +kernel

theorem settles_redirecting (limit : UInt64) :
    (redirecting limit).network.Settles 1 (redirectingUrl "old.yml") fourBytes := by
  have sent : (Response.mk 301 [] (some "new.yml") false none).redirect?
      (redirectingUrl "old.yml") = some (redirectingUrl "new.yml") := by
    decide +kernel
  have final : fourBytes.redirect? (redirectingUrl "new.yml") = none := by
    decide +kernel
  refine .onward ?_ sent (.here ?_ final)
  · change Network.answer (.serving _) (redirectingUrl "old.yml") = _
    decide +kernel
  · change Network.answer (.serving _) (redirectingUrl "new.yml") = _
    decide +kernel

/-- Four bytes are within a limit of four and not within a limit of three. -/
theorem fetch_within_limit_redirecting :
    Url.parse "https://host/old.yml" = .ok (redirectingUrl "old.yml") ∧
      1 ≤ Network.maxRedirects ∧
      (∀ limit, (redirecting limit).network.Settles 1 (redirectingUrl "old.yml") fourBytes) ∧
      (redirecting 4).fetch "https://host/old.yml" = .ok fourBytes.body ∧
      ∃ refusal, (redirecting 3).fetch "https://host/old.yml" =
        .error (.fetch "https://host/old.yml" refusal) := by
  have few : 1 ≤ Network.maxRedirects := by decide
  have four := ((fetch_within_limit parse_redirecting).2 1 few fourBytes
    (settles_redirecting 4)).2.1 (by decide)
  have three := ((fetch_within_limit parse_redirecting).2 1 few fourBytes
    (settles_redirecting 3)).2.1 (by decide)
  have within : ¬ fourBytes.Exceeds 4 := by
    rintro (⟨told, tells, -⟩ | long)
    · cases tells
    · exact absurd long (by decide)
  have above : fourBytes.Exceeds 3 := .inr (by decide)
  exact ⟨parse_redirecting, few, settles_redirecting,
    (four.1 fourBytes.body).mpr ⟨rfl, within, rfl, rfl⟩, three.2.mpr (.inr above)⟩

/-- A document within the greatest limit is not fetched whole. -/
theorem fetch_loses_body_at_greatestLimit :
    ¬ ∀ (loader : Loader) (text : String) (url : Url) (redirects : Nat) (response : Response),
      Url.parse text = .ok url → redirects ≤ Network.maxRedirects →
      loader.network.Settles redirects url response → response.status = statusOk →
      ¬ response.Exceeds loader.bodyLimit.toNat → response.isCutShort = false →
      loader.fetch text = .ok response.received := by
  intro whole
  have within : ¬ fourBytes.Exceeds greatestLimit.toNat := by
    rintro (⟨told, tells, -⟩ | long)
    · cases tells
    · exact absurd long (by decide)
  have fetched := whole (redirecting greatestLimit) _ _ 1 fourBytes parse_redirecting (by decide)
    (settles_redirecting greatestLimit) rfl within rfl
  have lost : (redirecting greatestLimit).fetch "https://host/old.yml" = .ok [] := by
    decide +kernel
  cases lost.symm.trans fetched

end Loader

end LayeredConfig
