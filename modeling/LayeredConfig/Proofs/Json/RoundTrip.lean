import LayeredConfig.Proofs.Json.Tokens

/-!
# Reading what was printed

A value is read back from its JSON text.  Its maps must be in key order, as all maps are, and two
things are lost on the way: a float need not come back as it was, and what lies deeper than the
reader descends is refused.
-/

set_option autoImplicit false

namespace LayeredConfig

theorem orderEntries_of_ordered {α : Type} {entries : List (String × α)}
    (ordered : Ordered entries) : orderEntries entries = entries := by
  apply eq_of_lookup_eq (ordered_orderEntries entries) ordered
  intro key
  rw [orderEntries, Mapping.lookup_foldl_insertEntry entries ordered, lookup, Option.or_none]

namespace Value

mutual

/-- No float at any depth. -/
def FloatFree : Value → Prop
  | .float _ => False
  | .list items => FloatFreeItems items
  | .map entries => FloatFreeEntries entries
  | _ => True

def FloatFreeItems : List Value → Prop
  | [] => True
  | item :: items => FloatFree item ∧ FloatFreeItems items

def FloatFreeEntries : List (String × Value) → Prop
  | [] => True
  | (_, value) :: entries => FloatFree value ∧ FloatFreeEntries entries

end

mutual

/-- The number of lists and maps that lie in each other, with the value itself. -/
def nesting : Value → Nat
  | .list items => nestingItems items + 1
  | .map entries => nestingEntries entries + 1
  | _ => 0

def nestingItems : List Value → Nat
  | [] => 0
  | item :: items => max (nesting item) (nestingItems items)

def nestingEntries : List (String × Value) → Nat
  | [] => 0
  | (_, value) :: entries => max (nesting value) (nestingEntries entries)

end

end Value

namespace Json

/-! ## The text of a value -/

/-- The items of an array, with commas between them. -/
def printRow : List Value → List Char
  | [] => []
  | item :: items => print item ++ printItems items

def printField (key : String) (value : Value) : List Char :=
  quoted key ++ (':' :: print value)

/-- The entries of an object, with commas between them. -/
def printFields : List (String × Value) → List Char
  | [] => []
  | (key, value) :: entries => printField key value ++ printEntries entries

theorem print_list (items : List Value) :
    print (.list items) = '[' :: (printRow items ++ [']']) := by
  cases items with
  | nil => rfl
  | cons item items => simp [print, printRow]

theorem print_map (entries : List (String × Value)) :
    print (.map entries) = '{' :: (printFields entries ++ ['}']) := by
  cases entries with
  | nil => rfl
  | cons entry entries => simp [print, printFields, printField]

theorem printRow_cons_cons (item next : Value) (items : List Value) :
    printRow (item :: next :: items) = print item ++ ',' :: printRow (next :: items) := by
  simp [printRow, printItems]

theorem printFields_cons_cons (key : String) (value : Value) (next : String × Value)
    (entries : List (String × Value)) :
    printFields ((key, value) :: next :: entries) =
      printField key value ++ ',' :: printFields (next :: entries) := by
  simp [printFields, printField, printEntries]

/-! ## Where a text starts -/

theorem skipSpace_cons {c : Char} (visible : isSpace c = false) (rest : List Char) :
    skipSpace (c :: rest) = c :: rest := by
  simp [skipSpace, visible]

/-- The first character of a number. -/
def StartsNumber (c : Char) : Prop :=
  c = '-' ∨ c.isDigit = true

theorem exists_startsNumber (n : Int) : ∃ c more, Decimal.ofInt n = c :: more ∧ StartsNumber c := by
  by_cases negative : n < 0
  · exact ⟨'-', Nat.toDigits 10 n.natAbs, if_pos negative, .inl rfl⟩
  · obtain ⟨c, more, digits⟩ := List.exists_cons_of_ne_nil (@Nat.toDigits_ne_nil n.natAbs 10)
    refine ⟨c, more, by rw [Decimal.ofInt, if_neg negative, digits], .inr ?_⟩
    exact Decimal.isDigit_of_mem_toDigits c (digits ▸ List.mem_cons_self ..)

theorem StartsNumber.ne {c : Char} (starts : StartsNumber c) (other : Char)
    (noNumber : other ≠ '-' ∧ other.isDigit = false) : c ≠ other := by
  rintro rfl
  rcases starts with rfl | digit
  · exact noNumber.1 rfl
  · cases digit.symm.trans noNumber.2

theorem StartsNumber.visible {c : Char} (starts : StartsNumber c) : isSpace c = false := by
  simp [isSpace, starts.ne ' ' (by decide), starts.ne '\n' (by decide), starts.ne '\t' (by decide),
    starts.ne '\r' (by decide)]

/-- The text of a value starts with no blank and with no end of an array. -/
theorem exists_print {v : Value} (floatFree : v.FloatFree) :
    ∃ c more, print v = c :: more ∧ isSpace c = false ∧ c ≠ ']' := by
  cases v with
  | null => exact ⟨_, _, rfl, rfl, by decide⟩
  | bool b => cases b <;> exact ⟨_, _, rfl, rfl, by decide⟩
  | integer n =>
      obtain ⟨c, more, text, starts⟩ := exists_startsNumber n.toInt
      exact ⟨c, more, text, starts.visible, starts.ne ']' (by decide)⟩
  | float x => exact absurd floatFree id
  | text s => exact ⟨_, _, rfl, rfl, by decide⟩
  | list items => exact ⟨_, _, print_list items, rfl, by decide⟩
  | map entries => exact ⟨_, _, print_map entries, rfl, by decide⟩

/-! ## One step of the reader -/

section Steps

variable {fuel depth : Nat} {rest : List Char}

theorem readValue_word :
    readValue (fuel + 1) depth (print .null ++ rest) = some (.null, rest) ∧
      ∀ b, readValue (fuel + 1) depth (print (.bool b) ++ rest) = some (.bool b, rest) := by
  constructor
  · rfl
  · intro b
    cases b <;> rfl

theorem readValue_quoted (s : String) :
    readValue (fuel + 1) depth (quoted s ++ rest) = some (.text s, rest) := by
  simp only [quoted, List.cons_append, List.append_assoc, List.nil_append]
  rw [readValue, skipSpace_cons rfl]
  simp only [↓reduceIte, readString_escape, Option.map_some, String.ofList_toList]

theorem readValue_ofInt (n : Int64) (follows : Follows rest) :
    readValue (fuel + 1) depth (Decimal.ofInt n.toInt ++ rest) = some (.integer n, rest) := by
  have read := readNumber_ofInt follows n.toInt
  obtain ⟨c, more, text, starts⟩ := exists_startsNumber n.toInt
  rw [text, List.cons_append] at read ⊢
  rw [readValue, skipSpace_cons starts.visible]
  simp only [starts.ne '"' (by decide), starts.ne '[' (by decide), starts.ne '{' (by decide),
    starts.ne 'n' (by decide), starts.ne 't' (by decide), starts.ne 'f' (by decide), ↓reduceIte,
    read, value?_toDigits, Option.map_some]

theorem readValue_empty :
    readValue (fuel + 1) (depth + 1) ('[' :: ']' :: rest) = some (.list [], rest) ∧
      readValue (fuel + 1) (depth + 1) ('{' :: '}' :: rest) = some (.map [], rest) :=
  ⟨rfl, rfl⟩

theorem readValue_array {c : Char} (visible : isSpace c = false) (noEnd : c ≠ ']')
    {items : List Value} {text : List Char}
    (read : readItems fuel depth (c :: text) = some (items, rest)) :
    readValue (fuel + 1) (depth + 1) ('[' :: c :: text) = some (.list items, rest) := by
  rw [readValue, skipSpace_cons rfl]
  simp only [Char.reduceEq, ↓reduceIte, skipSpace_cons visible]
  split
  · rename_i more closed
    exact absurd (List.cons.inj closed).1 noEnd
  · rw [read]
    rfl

theorem readItems_last {item : Value} {text : List Char}
    (read : readValue fuel depth text = some (item, ']' :: rest)) :
    readItems (fuel + 1) depth text = some ([item], rest) := by
  rw [readItems, read]
  simp only [skipSpace_cons (show isSpace ']' = false from rfl)]

theorem readItems_more {item : Value} {items : List Value} {text more : List Char}
    (read : readValue fuel depth text = some (item, ',' :: more))
    (readMore : readItems fuel depth more = some (items, rest)) :
    readItems (fuel + 1) depth text = some (item :: items, rest) := by
  rw [readItems, read]
  simp only [skipSpace_cons (show isSpace ',' = false from rfl), readMore, Option.map_some]

theorem readValue_object {entries : List (String × Value)} {text more : List Char}
    (opens : skipSpace text = '"' :: more)
    (read : readEntries fuel depth ('"' :: more) = some (entries, rest)) :
    readValue (fuel + 1) (depth + 1) ('{' :: text) = some (.map (orderEntries entries), rest) := by
  rw [readValue, skipSpace_cons rfl]
  simp only [Char.reduceEq, ↓reduceIte, opens]
  split
  · rename_i more closed
    cases closed
  · rw [read]
    rfl

theorem readEntries_last {key : String} {value : Value} {text after : List Char}
    (read : readValue fuel depth text = some (value, after))
    (closes : skipSpace after = '}' :: rest) :
    readEntries (fuel + 1) depth (quoted key ++ ':' :: text) = some ([(key, value)], rest) := by
  simp only [quoted, List.cons_append, List.append_assoc, List.nil_append]
  rw [readEntries, skipSpace_cons rfl]
  simp only [readString_escape, skipSpace_cons (show isSpace ':' = false from rfl), read, closes,
    String.ofList_toList]

theorem readEntries_more {key : String} {value : Value} {entries : List (String × Value)}
    {text more : List Char} (read : readValue fuel depth text = some (value, ',' :: more))
    (readMore : readEntries fuel depth more = some (entries, rest)) :
    readEntries (fuel + 1) depth (quoted key ++ ':' :: text) =
      some ((key, value) :: entries, rest) := by
  simp only [quoted, List.cons_append, List.append_assoc, List.nil_append]
  rw [readEntries, skipSpace_cons rfl]
  simp only [readString_escape, skipSpace_cons (show isSpace ':' = false from rfl), read,
    skipSpace_cons (show isSpace ',' = false from rfl), String.ofList_toList, readMore,
    Option.map_some]

end Steps

/-! ## Reading a whole value -/

mutual

/-- A value is read from the start of a text that goes on as a text can go on after a value. -/
theorem readValue_print (v : Value) {fuel depth : Nat} {rest : List Char}
    (canonical : v.Canonical) (floatFree : v.FloatFree) (shallow : v.nesting ≤ depth)
    (enough : 2 * (print v).length ≤ fuel) (follows : Follows rest) :
    readValue fuel depth (print v ++ rest) = some (v, rest) := by
  cases fuel with
  | zero =>
      obtain ⟨c, more, text, -⟩ := exists_print floatFree
      rw [text, List.length_cons] at enough
      omega
  | succ fuel =>
      match v with
      | .null => exact readValue_word.1
      | .bool b => exact readValue_word.2 b
      | .integer n => exact readValue_ofInt n follows
      | .float x => exact absurd floatFree id
      | .text s => exact readValue_quoted s
      | .list items =>
          cases depth with
          | zero => exact absurd shallow (Nat.not_succ_le_zero _)
          | succ depth =>
              have inside : Value.nestingItems items ≤ depth := Nat.le_of_succ_le_succ shallow
              rw [print_list, List.length_cons, List.length_append, List.length_singleton] at enough
              rw [print_list, List.cons_append, List.append_assoc, List.singleton_append]
              cases items with
              | nil => exact readValue_empty.1
              | cons item items =>
                  have read := readItems_printRow item items rest canonical floatFree inside
                    (by omega : _ ≤ fuel)
                  obtain ⟨c, more, text, visible, noEnd⟩ := exists_print floatFree.1
                  have starts : printRow (item :: items) = c :: (more ++ printItems items) := by
                    rw [printRow, text, List.cons_append]
                  rw [starts] at read ⊢
                  exact readValue_array visible noEnd read
      | .map entries =>
          cases depth with
          | zero => exact absurd shallow (Nat.not_succ_le_zero _)
          | succ depth =>
              have inside : Value.nestingEntries entries ≤ depth := Nat.le_of_succ_le_succ shallow
              rw [print_map, List.length_cons, List.length_append, List.length_singleton] at enough
              rw [print_map, List.cons_append, List.append_assoc, List.singleton_append]
              cases entries with
              | nil => exact readValue_empty.2
              | cons entry entries =>
                  obtain ⟨key, value⟩ := entry
                  have read := readEntries_printFields key value entries rest canonical.2 floatFree
                    inside (by omega : _ ≤ fuel)
                  obtain ⟨more, starts⟩ :
                      ∃ more, printFields ((key, value) :: entries) = '"' :: more := ⟨_, rfl⟩
                  rw [starts] at read ⊢
                  have whole := readValue_object (skipSpace_cons rfl _) read
                  rwa [orderEntries_of_ordered canonical.1] at whole
termination_by fuel

theorem readItems_printRow (item : Value) (items : List Value) {fuel depth : Nat}
    (rest : List Char) (canonical : Value.CanonicalItems (item :: items))
    (floatFree : Value.FloatFreeItems (item :: items))
    (shallow : Value.nestingItems (item :: items) ≤ depth)
    (enough : 2 * (printRow (item :: items)).length + 1 ≤ fuel) :
    readItems fuel depth (printRow (item :: items) ++ ']' :: rest) =
      some (item :: items, rest) := by
  have ⟨shallowItem, shallowItems⟩ := Nat.max_le.mp shallow
  cases fuel with
  | zero => cases enough
  | succ fuel =>
      cases items with
      | nil =>
          rw [printRow, printItems, List.append_nil] at enough ⊢
          exact readItems_last (readValue_print item canonical.1 floatFree.1 shallowItem (by omega)
            (.bracket rest))
      | cons next items =>
          rw [printRow_cons_cons] at enough ⊢
          rw [List.length_append, List.length_cons] at enough
          rw [List.append_assoc, List.cons_append]
          have read := readValue_print item canonical.1 floatFree.1 shallowItem
            (by omega : _ ≤ fuel) (.comma (printRow (next :: items) ++ ']' :: rest))
          exact readItems_more read (readItems_printRow next items rest canonical.2 floatFree.2
            shallowItems (by omega))
termination_by fuel

theorem readEntries_printFields (key : String) (value : Value) (entries : List (String × Value))
    {fuel depth : Nat} (rest : List Char)
    (canonical : Value.CanonicalEntries ((key, value) :: entries))
    (floatFree : Value.FloatFreeEntries ((key, value) :: entries))
    (shallow : Value.nestingEntries ((key, value) :: entries) ≤ depth)
    (enough : 2 * (printFields ((key, value) :: entries)).length + 1 ≤ fuel) :
    readEntries fuel depth (printFields ((key, value) :: entries) ++ '}' :: rest) =
      some ((key, value) :: entries, rest) := by
  have ⟨shallowValue, shallowEntries⟩ := Nat.max_le.mp shallow
  cases fuel with
  | zero => cases enough
  | succ fuel =>
      cases entries with
      | nil =>
          rw [printFields, printEntries, List.append_nil, printField] at enough ⊢
          rw [List.length_append, List.length_cons] at enough
          rw [List.append_assoc, List.cons_append]
          have read := readValue_print value canonical.1 floatFree.1 shallowValue
            (by omega : _ ≤ fuel) (.brace rest)
          exact readEntries_last read (skipSpace_cons rfl rest)
      | cons entry entries =>
          obtain ⟨next, behind⟩ := entry
          rw [printFields_cons_cons, printField] at enough ⊢
          rw [List.length_append, List.length_append, List.length_cons, List.length_cons] at enough
          rw [List.append_assoc, List.append_assoc, List.cons_append, List.cons_append]
          have read := readValue_print value canonical.1 floatFree.1 shallowValue
            (by omega : _ ≤ fuel) (.comma (printFields ((next, behind) :: entries) ++ '}' :: rest))
          exact readEntries_more read (readEntries_printFields next behind entries rest canonical.2
            floatFree.2 shallowEntries (by omega))
termination_by fuel

end

/-- The text of a value is read back as the value. -/
theorem parse?_print {v : Value} (canonical : v.Canonical) (floatFree : v.FloatFree)
    (shallow : v.nesting ≤ maxDepth) : parse? (print v) = some v := by
  have read := readValue_print v canonical floatFree shallow
    (Nat.le_add_right (2 * (print v).length) 2) .nothing
  rw [List.append_nil] at read
  rw [parse?, read]
  rfl

end Json

end LayeredConfig
