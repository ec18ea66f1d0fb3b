import SchemeCheck.Error
import SchemeCheck.Theme.Legacy
import SchemeCheck.Theme.Modern
set_option autoImplicit false

namespace SchemeCheck.Theme

def ofDocument (path content : Text) : Except ThemeError Theme :=
  if Resource.isModern path then
    match ModernTheme.read? content with
    | some t => .ok (.modern t)
    | none => .error (.malformedJson path "not a color scheme in JSON".toList)
  else
    match LegacyTheme.read? content with
    | some t => .ok (.legacy t)
    | none => .error (.malformedPropertyList path "not a color scheme in a property list".toList)

end SchemeCheck.Theme
