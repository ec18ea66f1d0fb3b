import SchemeCheck.Text.Basic
set_option autoImplicit false

namespace SchemeCheck

def quoteList (items : List Text) : Text :=
  '[' :: ", ".toList.intercalate (items.map fun t => '\x27' :: t ++ ['\x27']) ++ [']']

inductive ResourceError where
  | notFound (path : Text)
  | unreadable (path reason : Text)
  deriving DecidableEq

def ResourceError.message : ResourceError → Text
  | .notFound path => "Resource not found: ".toList ++ path
  | .unreadable path reason => "Failed to read resource ".toList ++ path ++ ": ".toList ++ reason

inductive ThemeError where
  | resource (e : ResourceError)
  | malformedPropertyList (path reason : Text)
  | malformedJson (path reason : Text)
  deriving DecidableEq

def ThemeError.message : ThemeError → Text
  | .resource e => e.message
  | .malformedPropertyList path reason | .malformedJson path reason =>
    "Malformed color scheme ".toList ++ path ++ ": ".toList ++ reason

inductive FixtureError where
  | invalidHeader
  | syntaxNotFound (name : Text)
  | ambiguousSyntax (found : List Text)
  | unsupportedSyntax (file : Text)
  | render (reason : Text)
  | resource (e : ResourceError)
  | theme (e : ThemeError)
  deriving DecidableEq

def FixtureError.message : FixtureError → Text
  | .invalidHeader => "Invalid COLOR SCHEME TEST header".toList
  | .syntaxNotFound name => "Syntax not found: ".toList ++ name
  | .ambiguousSyntax found => "More than one syntax found: ".toList ++ quoteList found
  | .unsupportedSyntax file => "Unsupported syntax definition: ".toList ++ file
  | .render reason => "Failed to render fixture: ".toList ++ reason
  | .resource e => e.message
  | .theme e => e.message

end SchemeCheck
