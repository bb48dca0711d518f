/-!
# Faults of YAML text

Why a text is not one YAML document.
-/

set_option autoImplicit false

namespace LayeredConfig.Yaml

inductive Fault where
  /-- A character that no document may hold. -/
  | unprintable
  | directive
  | keyWithoutColon
  | misplacedIndicator
  /-- A tab where indentation is counted. -/
  | tabInIndentation
  | anchorName
  | tagText
  /-- A tag with a handle that was never declared, or with no text after its mark. -/
  | tagHandle
  | blockHeading
  | unclosedQuote
  | escape
  | colonInFlow
  | unexpectedCharacter
  /-- Tokens that form no document. -/
  | shape
  | severalDocuments
  | unknownAlias
  | nesting
  | aliasExpansion
  | duplicateKey
  | scalarType
  | wideInteger
  deriving DecidableEq, Repr

def Fault.message : Fault → String
  | .unprintable => "a character that no document may hold"
  | .directive => "a directive that is unknown, repeated or malformed"
  | .keyWithoutColon => "a key without a colon"
  | .misplacedIndicator => "an entry, key or value where none can stand"
  | .tabInIndentation => "a tab in the indentation"
  | .anchorName => "a malformed name of an anchor or alias"
  | .tagText => "a malformed tag"
  | .tagHandle => "an undeclared tag handle"
  | .blockHeading => "a malformed heading of a block scalar"
  | .unclosedQuote => "a quote without end"
  | .escape => "an unknown escape"
  | .colonInFlow => "a colon before a flow indicator"
  | .unexpectedCharacter => "a character that starts no token"
  | .shape => "tokens that form no document"
  | .severalDocuments => "more than one document"
  | .unknownAlias => "an alias without anchor"
  | .nesting => "collections nested too deeply"
  | .aliasExpansion => "aliases that stand for too much"
  | .duplicateKey => "a repeated key"
  | .scalarType => "a scalar that is not of the type of its tag"
  | .wideInteger => "an integer of more than 64 bits"

end LayeredConfig.Yaml
