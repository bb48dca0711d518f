import LayeredConfig.Url.Reference
import Mathlib.Tactic.SplitIfs

/-!
# The segments of a web address

What stays in the path of a web address once its segments are taken in: no segment holds a slash,
whichever way the slash is written, and none says to stay or to go up.  There is at least one.
-/

set_option autoImplicit false

namespace LayeredConfig

namespace Url

/-! ## Written segments -/

theorem upperHexDigit_ne_slash : ∀ n < 16, upperHexDigit n ≠ '/' := by decide

/-- What is percent-encoded holds a slash only where the text does. -/
theorem slash_mem_of_mem_percentEncode {more text : List Char}
    (member : '/' ∈ percentEncode more text) : '/' ∈ text := by
  obtain ⟨c, inText, written⟩ := List.mem_flatMap.mp member
  unfold percentChar at written
  split_ifs at written with encoded
  · obtain ⟨byte, -, inByte⟩ := List.mem_flatMap.mp written
    have high := upperHexDigit_ne_slash (byte.toNat / 16) (by have := byte.toNat_lt; omega)
    have low := upperHexDigit_ne_slash (byte.toNat % 16) (Nat.mod_lt _ (by decide))
    simp only [percentByte, List.mem_cons, List.not_mem_nil, or_false] at inByte
    rcases inByte with mark | first | second
    · exact absurd mark (by decide)
    · exact absurd first.symm high
    · exact absurd second.symm low
  · rwa [List.mem_singleton.mp written]

theorem slash_not_mem_of_mem_writtenSegments {rules : PathRules} {text segment : List Char}
    (member : segment ∈ writtenSegments rules text) : '/' ∉ segment := by
  obtain ⟨part, inParts, rfl⟩ := List.mem_map.mp member
  intro slash
  exact Text.not_mem_of_mem_split inParts (slash_mem_of_mem_percentEncode slash)

theorem writtenSegments_ne_nil (rules : PathRules) (text : List Char) :
    writtenSegments rules text ≠ [] := by
  rw [writtenSegments, ne_eq, List.map_eq_nil_iff]
  exact Text.split_ne_nil _ _

/-! ## Segments taken into a path -/

/-- A segment that can stay in a path. -/
structure Stays (segment : List Char) : Prop where
  noSlash : '/' ∉ segment
  notSame : isSingleDot segment = false
  notUp : isDoubleDot segment = false

theorem Stays.empty : Stays [] := ⟨List.not_mem_nil, by decide, by decide⟩

theorem Stays.ne_dot {segment : List Char} (stays : Stays segment) : segment ≠ ".".toList := by
  rintro rfl
  exact absurd stays.notSame (by decide)

theorem Stays.ne_dots {segment : List Char} (stays : Stays segment) : segment ≠ "..".toList := by
  rintro rfl
  exact absurd stays.notUp (by decide)

theorem mem_of_mem_goUp {rules : PathRules} {path : List (List Char)} {segment : List Char}
    (member : segment ∈ goUp rules path) : segment ∈ path := by
  cases path with
  | nil => exact member
  | cons newest others =>
      unfold goUp at member
      dsimp only at member
      split_ifs at member
      · exact member
      · exact List.mem_cons_of_mem _ member

/-- A path that ends in a dot segment ends in a slash, so an empty segment is added there. -/
theorem mem_ending {path : List (List Char)} {segment : List Char} {last : Bool}
    (stay : ∀ segment ∈ path, Stays segment)
    (member : segment ∈ if last then [] :: path else path) : Stays segment := by
  cases last with
  | false => exact stay segment member
  | true =>
      rcases List.mem_cons.mp member with rfl | before
      · exact .empty
      · exact stay segment before

variable {rules : PathRules} {path segments : List (List Char)}

/-- Segments without slashes are taken into a path in which every segment can stay, and it remains
such a path.  Under the rules for files this would fail: there a segment can be cut in two. -/
theorem stays_of_mem_resolveSegments (web : rules.file = false)
    (stay : ∀ segment ∈ path, Stays segment) (noSlash : ∀ segment ∈ segments, '/' ∉ segment) :
    ∀ segment ∈ resolveSegments rules path segments, Stays segment := by
  induction segments generalizing path with
  | nil => exact stay
  | cons next rest ih =>
      obtain ⟨here, further⟩ := List.forall_mem_cons.mp noSlash
      have stayUp : ∀ segment ∈ goUp rules path, Stays segment :=
        fun segment member => stay segment (mem_of_mem_goUp member)
      rw [resolveSegments, web]
      cases up : isDoubleDot next with
      | true => exact ih (fun segment => mem_ending stayUp) further
      | false =>
          cases same : isSingleDot next with
          | true => exact ih (fun segment => mem_ending stay) further
          | false => exact ih (List.forall_mem_cons.mpr ⟨⟨here, same, up⟩, stay⟩) further

/-- The last segment leaves a segment in the path, whatever it says. -/
theorem resolveSegments_ne_nil (web : rules.file = false) (written : segments ≠ []) :
    resolveSegments rules path segments ≠ [] := by
  induction segments generalizing path with
  | nil => exact absurd rfl written
  | cons next rest ih =>
      rw [resolveSegments, web]
      simp only [Bool.false_and, Bool.false_eq_true, ↓reduceIte]
      cases rest with
      | nil =>
          simp only [resolveSegments, List.isEmpty_nil, ↓reduceIte]
          split_ifs <;> exact List.cons_ne_nil _ _
      | cons second more => split_ifs <;> exact ih (List.cons_ne_nil _ _)

theorem stays_of_mem_segmentsAfter (web : rules.file = false) {text segment : List Char}
    (member : segment ∈ segmentsAfter rules [] text) : Stays segment := by
  simp only [segmentsAfter, web, Bool.false_eq_true, ↓reduceIte, List.mem_reverse] at member
  exact stays_of_mem_resolveSegments web (fun _ none => by cases none)
    (fun _ => slash_not_mem_of_mem_writtenSegments) segment member

theorem segmentsAfter_ne_nil (web : rules.file = false) (text : List Char) :
    segmentsAfter rules [] text ≠ [] := by
  simp only [segmentsAfter, web, Bool.false_eq_true, ↓reduceIte, ne_eq, List.reverse_eq_nil_iff]
  exact resolveSegments_ne_nil web (writtenSegments_ne_nil rules text)

/-! ## Web addresses -/

theorem segments_of_pathAfterAuthority (path : List Char) :
    ∃ text, pathAfterAuthority .special path = segmentsAfter (pathRules .special) [] text := by
  cases path with
  | nil => exact ⟨[], rfl⟩
  | cons c rest => exact ⟨_, rfl⟩

variable {scheme text : List Char} {kind : SchemeKind} {url : Url}

theorem scheme_and_path_of_readAuthority (read : readAuthority scheme kind text = .ok url) :
    url.scheme = scheme ∧ ∃ path, url.path = .inl (pathAfterAuthority kind path) := by
  unfold readAuthority at read
  dsimp only [bind, Except.bind, pure, Except.pure, throw, throwThe, MonadExceptOf.throw] at read
  split_ifs at read
  split at read
  · cases read
  · cases read
    exact ⟨rfl, _, rfl⟩

theorem scheme_of_readFile (read : readFile scheme text = .ok url) : url.scheme = scheme := by
  unfold readFile at read
  dsimp only [bind, Except.bind, pure, Except.pure] at read
  split at read
  · split at read
    · split at read
      · cases read
        rfl
      · split at read
        · cases read
        · split at read <;> cases read <;> rfl
    · cases read
      rfl
  · cases read
    rfl

theorem scheme_of_readAfterScheme (read : readAfterScheme scheme text = .ok url) :
    url.scheme = scheme := by
  unfold readAfterScheme at read
  dsimp only at read
  cases kind : schemeKind scheme with
  | file =>
      rw [kind] at read
      exact scheme_of_readFile read
  | special =>
      rw [kind] at read
      exact (scheme_and_path_of_readAuthority read).1
  | other =>
      rw [kind] at read
      dsimp only at read
      split at read
      · exact (scheme_and_path_of_readAuthority read).1
      · split at read <;> cases read <;> rfl

/-- The path of a web address is the segments of some text. -/
theorem path_of_parse {text : String} (parsed : parse text = .ok url)
    (web : schemeKind url.scheme = .special) :
    ∃ path, url.path = .inl (segmentsAfter (pathRules .special) [] path) := by
  unfold parse at parsed
  split at parsed
  · rename_i scheme rest _
    rw [scheme_of_readAfterScheme parsed] at web
    unfold readAfterScheme at parsed
    simp only [web] at parsed
    obtain ⟨-, path, same⟩ := scheme_and_path_of_readAuthority parsed
    obtain ⟨segments, taken⟩ := segments_of_pathAfterAuthority path
    exact ⟨segments, by rw [same, taken]⟩
  · cases parsed

/-- The path of a web address has a last segment, which can stay in it. -/
theorem lastSegment?_of_parse {text : String} (parsed : parse text = .ok url)
    (web : schemeKind url.scheme = .special) :
    ∃ segment, url.lastSegment? = some segment ∧ Stays segment := by
  obtain ⟨path, taken⟩ := path_of_parse parsed web
  have nonempty : segmentsAfter (pathRules .special) [] path ≠ [] := segmentsAfter_ne_nil rfl path
  refine ⟨_, ?_, stays_of_mem_segmentsAfter rfl (List.getLast_mem nonempty)⟩
  rw [lastSegment?, taken]
  exact List.getLast?_eq_some_getLast nonempty

end Url

end LayeredConfig
