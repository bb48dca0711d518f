import LayeredConfig.Loader
import LayeredConfig.Proofs.Url.PathSegments

/-!
# Where copies are left

The copy of a remote document is named after the last segment of its address.  Whatever the address
is, this is a single name that leads neither up nor on, so the copy stays in the directory for
copies.
-/

set_option autoImplicit false

namespace LayeredConfig

namespace Files

/-! ## A name under a directory -/

/-- A text that names one thing in a directory. -/
structure IsName (name : String) : Prop where
  nonempty : name ≠ ""
  noSlash : '/' ∉ name.toList
  notHere : name ≠ sameDirectory
  notUp : name ≠ parentDirectory

/-- The names on the way to a directory. -/
def directoryNames (directory : String) : List String :=
  (Text.splitText '/' directory).filter fun part => !part.isEmpty

variable {name : String}

theorem IsName.not_isAbsolute (isName : IsName name) : isAbsolute name = false := by
  unfold isAbsolute
  cases text : name.toList with
  | nil => rfl
  | cons c rest =>
      have other : c ≠ '/' := by
        rintro rfl
        exact isName.noSlash (text ▸ List.mem_cons_self ..)
      simpa using other

theorem IsName.splitText (isName : IsName name) : Text.splitText '/' name = [name] := by
  rw [Text.splitText, Text.split_of_not_mem isName.noSlash, List.map_singleton,
    String.ofList_toList]

/-- A path whose last part is a name asks for that name after all others. -/
theorem pathNames_of_splitText (isName : IsName name) {path : String} {parts : List String}
    (parted : Text.splitText '/' path = parts ++ [name]) :
    pathNames path = (parts.filter fun part => !part.isEmpty) ++ [name] := by
  have visible : [name].filter (fun part => !part.isEmpty) = [name] := by
    simp [isName.nonempty]
  simp only [pathNames, parted, List.getLast?_concat, Option.some.injEq, isName.nonempty, false_and,
    ↓reduceIte, List.filter_append, visible]

theorem splitText_append_slash (directory rest : String) :
    Text.splitText '/' (directory ++ "/" ++ rest) =
      Text.splitText '/' directory ++ Text.splitText '/' rest := by
  have text : (directory ++ "/" ++ rest).toList = directory.toList ++ '/' :: rest.toList := by
    rw [String.toList_append, String.toList_append, List.append_assoc]
    rfl
  rw [Text.splitText, text, Text.split_append, List.map_append]
  rfl

/-- A name stands behind exactly one slash, which the directory may bring along. -/
theorem joinPath_of_isName (isName : IsName name) {directory : String} (given : directory ≠ "") :
    ∃ front, joinPath directory name = front ++ "/" ++ name ∧
      (directory = front ∨ directory = front ++ "/") := by
  have relative : ¬ (isAbsolute name = true ∨ directory.isEmpty = true) := by
    simp [isName.not_isAbsolute, String.isEmpty_iff, given]
  rw [joinPath, if_neg relative]
  by_cases slashed : directory.toList.getLast? = some '/'
  · obtain ⟨text, ends⟩ := List.getLast?_eq_some_iff.mp slashed
    have same : directory = String.ofList text ++ "/" := by
      apply String.toList_inj.mp
      rw [ends, String.toList_append, String.toList_ofList]
      rfl
    exact ⟨String.ofList text, by rw [if_pos slashed, same], .inr same⟩
  · exact ⟨directory, if_neg slashed, .inl rfl⟩

theorem joinPath_empty (name : String) : joinPath "" name = name :=
  if_pos (.inr rfl)

/-- A name under a directory is one name more. -/
theorem pathNames_joinPath (isName : IsName name) (directory : String) :
    pathNames (joinPath directory name) = directoryNames directory ++ [name] := by
  by_cases given : directory = ""
  · have alone : Text.splitText '/' name = [] ++ [name] := isName.splitText
    rw [given, joinPath_empty, pathNames_of_splitText isName alone]
    rfl
  · obtain ⟨front, joined, same⟩ := joinPath_of_isName isName given
    have parted : Text.splitText '/' (joinPath directory name) =
        Text.splitText '/' front ++ [name] := by
      rw [joined, splitText_append_slash, isName.splitText]
    rw [pathNames_of_splitText isName parted, directoryNames]
    rcases same with rfl | rfl
    · rfl
    · -- The slash at the end of the directory leaves an empty part, which is no name.
      have bare := splitText_append_slash front ""
      rw [String.append_empty] at bare
      rw [bare, List.filter_append]
      exact congrArg (· ++ [name]) (List.append_nil _).symm

theorem isAbsolute_joinPath (isName : IsName name) (directory : String) :
    isAbsolute (joinPath directory name) = isAbsolute directory := by
  by_cases given : directory = ""
  · rw [given, joinPath_empty, isName.not_isAbsolute]
    rfl
  · obtain ⟨front, joined, same⟩ := joinPath_of_isName isName given
    rw [joined, isAbsolute, isAbsolute]
    rcases same with rfl | rfl
    · cases text : directory.toList with
      | nil => exact absurd (String.toList_eq_nil_iff.mp text) given
      | cons c rest => simp [String.toList_append, text]
    · cases text : front.toList <;> simp [String.toList_append, text]

end Files

open Files

/-! ## Copies -/

theorem isName_ofList {segment : List Char} (stays : Url.Stays segment) (nonempty : segment ≠ []) :
    IsName (String.ofList segment) where
  nonempty := by simpa using nonempty
  noSlash := by simpa using stays.noSlash
  notHere same := stays.ne_dot (String.ofList_injective same)
  notUp same := stays.ne_dots (String.ofList_injective same)

theorem isName_nameOfUnnamed : IsName nameOfUnnamed :=
  ⟨by decide, by decide, by decide, by decide⟩

theorem copyName_of_lastSegment? {url : Url} {segment : List Char}
    (last : url.lastSegment? = some segment) :
    copyName url = if segment = [] then nameOfUnnamed else String.ofList segment := by
  rw [copyName, last]
  cases segment with
  | nil => rfl
  | cons c rest => rfl

namespace Loader

/-- The copy of a document at a web address is left under one name in the directory for copies.
The name is the last segment of the address as it is written, or a name of its own where that is
empty; it holds no slash and leads neither up nor on. -/
theorem copyPath_of_web (loader : Loader) {text : String} {url : Url}
    (parsed : Url.parse text = .ok url)
    (web : url.scheme = "http".toList ∨ url.scheme = "https".toList) :
    ∃ segment name,
      url.lastSegment? = some segment ∧
      name = (if segment = [] then nameOfUnnamed else String.ofList segment) ∧
      loader.copyPath text = .ok (joinPath loader.temporary name) ∧
      name ≠ "" ∧ '/' ∉ name.toList ∧ name ≠ "." ∧ name ≠ ".." ∧
      isAbsolute (joinPath loader.temporary name) = isAbsolute loader.temporary ∧
      pathNames (joinPath loader.temporary name) = directoryNames loader.temporary ++ [name] := by
  have special : Url.schemeKind url.scheme = .special := by
    rcases web with same | same <;> rw [same] <;> decide
  obtain ⟨segment, last, stays⟩ := Url.lastSegment?_of_parse parsed special
  have named := copyName_of_lastSegment? last
  have isName : IsName (copyName url) := by
    rw [named]
    split_ifs with unnamed
    · exact isName_nameOfUnnamed
    · exact isName_ofList stays unnamed
  have copied : loader.copyPath text = .ok (joinPath loader.temporary (copyName url)) := by
    rw [copyPath, address, parsed]
    rfl
  exact ⟨segment, copyName url, last, named, copied, isName.nonempty, isName.noSlash,
    isName.notHere, isName.notUp, isAbsolute_joinPath isName _, pathNames_joinPath isName _⟩

/-- An address that tries to lead out of the directory for copies. -/
def leadingOut : String :=
  " HTTPS:\\\\host/a/%2E%2e/..\\.%2e/\t.\t./..%2f..%2Fetc\\%2e%2E/..%2Fpasswd?/../x#/.."

def leadingOutUrl : Url where
  scheme := "https".toList
  user := []
  host := some (.domain "host".toList)
  port := none
  path := .inl ["..%2Fpasswd".toList]
  query := some "/../x".toList
  fragment := some "/..".toList

theorem copyPath_of_web_leadingOut :
    Url.parse leadingOut = .ok leadingOutUrl ∧
      (leadingOutUrl.scheme = "http".toList ∨ leadingOutUrl.scheme = "https".toList) ∧
      (Loader.mk .unreachable usualBodyLimit "/tmp/").copyPath leadingOut =
        .ok "/tmp/..%2Fpasswd" ∧
      '/' ∉ "..%2Fpasswd".toList ∧
      pathNames "/tmp/..%2Fpasswd" = directoryNames "/tmp/" ++ ["..%2Fpasswd"] := by
  have parsed : Url.parse leadingOut = .ok leadingOutUrl := by decide +kernel
  have web : leadingOutUrl.scheme = "http".toList ∨ leadingOutUrl.scheme = "https".toList :=
    .inr rfl
  obtain ⟨segment, name, last, named, copied, -, noSlash, -, -, -, names⟩ :=
    copyPath_of_web ⟨.unreachable, usualBodyLimit, "/tmp/"⟩ parsed web
  cases last
  obtain rfl : name = "..%2Fpasswd" := named
  exact ⟨parsed, web, copied, noSlash, names⟩

end Loader

end LayeredConfig
