import LayeredConfig.Proofs.Json.RoundTrip
import LayeredConfig.Proofs.Redaction

/-!
# Lists as text

A list may be given as a list or as its own text, and readers tell no difference.  So a list comes
back from an environment as it was put there.  The text of a list is JSON text, and the limits are
those of its reader: no floats, and no more than 127 lists and maps in each other.
-/

set_option autoImplicit false

namespace LayeredConfig

namespace Value

variable {items : List Value}

/-- The text of a list is read as the list. -/
theorem listInText_envText (key : String) (canonical : (Value.list items).Canonical)
    (floatFree : (Value.list items).FloatFree) (shallow : (Value.list items).nesting ≤ 127) :
    listInText key (Value.list items).envText = .ok items := by
  have text : (Value.list items).envText.toList = Json.print (.list items) := String.toList_ofList
  have starts : (Value.list items).envText.toList.head? = some '[' := by
    rw [text, Json.print_list]
    rfl
  rw [listInText_of_bracket starts, text, Json.parse?_print canonical floatFree shallow]

/-- Lists have different texts. -/
theorem eq_of_envText_eq {others : List Value} (canonical : (Value.list items).Canonical)
    (floatFree : (Value.list items).FloatFree) (shallow : (Value.list items).nesting ≤ 127)
    (canonicalToo : (Value.list others).Canonical) (floatFreeToo : (Value.list others).FloatFree)
    (shallowToo : (Value.list others).nesting ≤ 127)
    (same : (Value.list items).envText = (Value.list others).envText) : items = others := by
  have read := listInText_envText "" canonical floatFree shallow
  rw [same, listInText_envText "" canonicalToo floatFreeToo shallowToo] at read
  exact (Except.ok.inj read).symm

end Value

namespace Document

variable {document : Document} {key : String} {items : List Value}

/-- The variable of a key that is not hidden has the text of its value. -/
theorem get?_of_toEnvironment {redact : Bool} {environment : Environment} {value : Value}
    (found : Mapping.get? document key = some value)
    (made : document.toEnvironment redact = .ok environment)
    (shown : redact = true → ∀ names, document.secured = .ok names → key ∉ names) :
    Mapping.get? environment key = some value.envText := by
  cases redact with
  | false =>
      obtain rfl := Except.ok.inj made
      rw [get?_flattened_of_not_mem List.not_mem_nil, text?_eq, found]
      rfl
  | true =>
      rw [toEnvironment, if_pos rfl] at made
      cases read : document.secured with
      | error error =>
          rw [read] at made
          cases made
      | ok names =>
          rw [read] at made
          obtain rfl := Except.ok.inj made
          rw [get?_flattened_of_not_mem (shown rfl names read), text?_eq, found]
          rfl

end Document

/-- A list may be given as a list or as its text: it is read the same from a document that has
either, and after either was set for a request.  Two lists do not have the same text.  From the
environment that a document amounts to, a list that is not hidden there is read as it was. -/
theorem list_roundTrip {items : List Value} (canonical : (Value.list items).Canonical)
    (floatFree : (Value.list items).FloatFree) (shallow : (Value.list items).nesting ≤ 127) :
    (∀ (document : Document) key,
      Mapping.get? document key = some (.text (Value.list items).envText) ∨
          Mapping.get? document key = some (.list items) →
        document.list? key = .ok (some items)) ∧
    (∀ (session : Session) id run key value, session.store.run? id = some run →
      value = .text (Value.list items).envText ∨ value = .list items →
        ((session.step (.setValue id key value)).2.step (.getList id key)).1 =
          .ok (.values? (some items))) ∧
    (∀ others, (Value.list others).Canonical → (Value.list others).FloatFree →
      (Value.list others).nesting ≤ 127 →
        (Value.list items).envText = (Value.list others).envText → items = others) ∧
    ∀ (document : Document) key redact environment,
      Mapping.get? document key = some (.list items) →
      document.toEnvironment redact = .ok environment →
      (redact = true → ∀ names, document.secured = .ok names → key ∉ names) →
        Mapping.get? environment key = some (Value.list items).envText ∧
          environment.document.list? key = .ok (some items) := by
  have read : ∀ (document : Document) key,
      Mapping.get? document key = some (.text (Value.list items).envText) ∨
          Mapping.get? document key = some (.list items) →
        document.list? key = .ok (some items) := by
    rintro document key (asText | asList)
    · rw [Document.list?_of_text asText, Value.listInText_envText key canonical floatFree shallow]
      rfl
    · exact Document.list?_of_list asList
  refine ⟨read, ?_, ?_, ?_⟩
  · intro session id run key value there given
    have found : Mapping.get? (Mapping.insert run.document key value) key = some value := by
      rw [Mapping.get?_insert, if_pos rfl]
    have changed : session.step (.setValue id key value) = _ := Session.changing_of_run? there _
    rw [changed, Session.step_getList (Store.run?_put ..)]
    rcases given with rfl | rfl
    · rw [read _ key (.inl found)]
      rfl
    · rw [read _ key (.inr found)]
      rfl
  · exact fun others => Value.eq_of_envText_eq canonical floatFree shallow
  · intro document key redact environment found made shown
    have variable' := Document.get?_of_toEnvironment found made shown
    refine ⟨variable', read _ key (.inl ?_)⟩
    rw [Environment.document, Mapping.get?_mapEntries, variable']
    rfl

/-- Every kind of value in a list: the limits of the integers, characters of every escape and of
several bytes, empty lists and maps and keys out of the ordinary. -/
def sampleItems : List Value :=
  [.null, .bool true, .integer Int64.minValue, .integer Int64.maxValue,
    .text "a\"\\/\n\x01\x7fé😀", .list [.list [], .map []],
    .map [("", .text "null"), ("[\t", .integer (-1))]]

theorem list_roundTrip_sample :
    (Value.list sampleItems).Canonical ∧ (Value.list sampleItems).FloatFree ∧
      (Value.list sampleItems).nesting ≤ 127 ∧
      (Value.list sampleItems).envText =
        "[null,true,-9223372036854775808,9223372036854775807," ++
          "\"a\\\"\\\\/\\n\\u0001\x7fé😀\",[[],\x7b\x7d],\x7b\"\":\"null\",\"[\\t\":-1\x7d]" ∧
      Document.list? (Mapping.ofList [("A", .text (Value.list sampleItems).envText)]) "A" =
        .ok (some sampleItems) := by
  have ordered : Ordered [("", Value.text "null"), ("[\t", .integer (-1))] :=
    List.pairwise_pair.mpr (by decide)
  have canonical : (Value.list sampleItems).Canonical := by
    simp only [sampleItems, Value.Canonical, Value.CanonicalItems, Value.CanonicalEntries, ordered,
      and_true, true_and]
    exact List.Pairwise.nil
  have floatFree : (Value.list sampleItems).FloatFree := by
    simp only [sampleItems, Value.FloatFree, Value.FloatFreeItems, Value.FloatFreeEntries, and_true]
  have shallow : (Value.list sampleItems).nesting ≤ 127 := by decide
  refine ⟨canonical, floatFree, shallow, by decide +kernel, ?_⟩
  exact (list_roundTrip canonical floatFree shallow).1 _ "A" (.inl rfl)

end LayeredConfig
