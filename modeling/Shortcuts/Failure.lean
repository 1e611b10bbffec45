/-!
What can go wrong while a query is resolved, in three kinds: the shortcut data is faulty, the
program is used or configured wrongly, or the program itself is. Each failure has one message
and, where there is more to say, details or a suggestion.
-/
namespace Shortcuts

inductive Failure where
  | circularInclusion (searchKey : String)
  | invalidInclude (definition : String)
  | missingUrl (keyword : String)
  | alternativeArgumentMismatch (placeholders arguments : Nat)
  | invalidVariablePlaceholder (placeholder : String)
  | invalidNowPlaceholder (placeholder : String)
  | malformedNamespaceData (source reason : String)
  | defaultKeywordNotFound (keyword : String)
  | namespaceUnavailable (source reason : String)
  | configError (message : String)
  | browserLaunchFailed (browser reason : String)
  | unsupportedNamespaceSource (source : String)
  deriving DecidableEq, Repr

inductive Failure.Kind where
  | dataDefinition | usage | implementation
  deriving DecidableEq, Repr

namespace Failure

def Kind.name : Kind → String
  | dataDefinition => "data definition error"
  | usage => "usage error"
  | implementation => "implementation error"

def kind : Failure → Kind
  | circularInclusion .. | invalidInclude .. | missingUrl .. | alternativeArgumentMismatch ..
  | invalidVariablePlaceholder .. | invalidNowPlaceholder .. | malformedNamespaceData .. =>
    .dataDefinition
  | defaultKeywordNotFound .. | namespaceUnavailable .. | configError ..
  | browserLaunchFailed .. => .usage
  | unsupportedNamespaceSource .. => .implementation

def message : Failure → String
  | circularInclusion key =>
    "Possible circular inclusion detected for search key \"" ++ key ++ "\""
  | invalidInclude definition =>
    "Encountered unexpected include definition: " ++ definition
  | missingUrl keyword =>
    "Shortcut \"" ++ keyword ++ "\" has no url although it is not deprecated"
  | alternativeArgumentMismatch placeholders arguments =>
    "Number of arguments of deprecation alternative (" ++ toString placeholders ++
      ") does not match original shortcut's argument count (" ++ toString arguments ++ ")"
  | invalidVariablePlaceholder placeholder =>
    "Encountered invalid variable placeholder: \"" ++ placeholder ++ "\""
  | invalidNowPlaceholder placeholder =>
    "Unable to parse $now placeholder: \"" ++ placeholder ++ "\""
  | malformedNamespaceData source reason =>
    "Malformed shortcut data in namespace '" ++ source ++ "': " ++ reason
  | defaultKeywordNotFound keyword => "Default shortcut \"" ++ keyword ++ "\" was not found"
  | namespaceUnavailable source reason =>
    "Namespace '" ++ source ++ "' is unavailable: " ++ reason
  | configError message => "Configuration error: " ++ message
  | browserLaunchFailed browser reason =>
    "Failed to launch browser '" ++ browser ++ "': " ++ reason
  | unsupportedNamespaceSource source =>
    "No namespace source handler supports namespace '" ++ source ++ "'"

end Failure

end Shortcuts
