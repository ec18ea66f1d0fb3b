import SchemeCheck.Dict
import SchemeCheck.Regex.Basic
set_option autoImplicit false

/-!
Grammars. A context lists rules; the context on top of a stack decides which rules apply, and a rule
that matches gives scopes to what it matched and may change the stack.
-/

namespace SchemeCheck

/-- What a match does to the stack of contexts, which refers to contexts by `ρ`. -/
inductive Action (ρ : Type) where
  | stay
  | pop
  | push (targets : List ρ)
  | replace (targets : List ρ)

namespace Action
variable {ρ : Type}

def isStay : Action ρ → Bool
  | stay => true
  | _ => false

def isPop : Action ρ → Bool
  | pop => true
  | _ => false

def isPush : Action ρ → Bool
  | push _ => true
  | _ => false

end Action

structure MatchRule (ρ : Type) where
  regex : Regex
  scopes : List Text
  captures : List (Nat × List Text)
  action : Action ρ

inductive ContextItem (ρ : Type) where
  | rule (r : MatchRule ρ)
  | rulesOf (name : Text)

structure ContextOf (ρ : Type) where
  /-- Scopes from the match that pushes the context to the match that pops it. -/
  metaScopes : List Text
  /-- Scopes of what lies between these two matches. -/
  contentScopes : List Text
  items : List (ContextItem ρ)

inductive Target where
  | named (name : Text)
  | inline (context : ContextOf Target)

abbrev Context := ContextOf Target

namespace Context

def empty : Context := ⟨[], [], []⟩

end Context

structure Grammar where
  name : Text
  scope : Text
  contexts : Dict Context

structure UnknownContext where
  name : Text
  deriving DecidableEq

def quoteName (t : Text) : Text :=
  let escape (c : Char) : Text :=
    match c with
    | '"' => ['\\', '"']
    | '\\' => ['\\', '\\']
    | '\n' => ['\\', 'n']
    | '\r' => ['\\', 'r']
    | '\t' => ['\\', 't']
    | '\x00' => ['\\', '0']
    | c => [c]
  '"' :: t.flatMap escape ++ ['"']

def UnknownContext.message (e : UnknownContext) : Text :=
  "Tried to use a ContextReference that has not bee resolved yet: Named(".toList ++
    quoteName e.name ++ [')']

namespace Grammar

def resolve (g : Grammar) : Target → Except UnknownContext Context
  | .inline context => .ok context
  | .named name =>
    match g.contexts.get? name with
    | some context => .ok context
    | none => .error ⟨name⟩

/-- The rules of a context with those of the contexts it names in their places; an unknown name
stands for none. `fuel` bounds how far names lead to each other. -/
def rulesWithin (g : Grammar) : (fuel : Nat) → Context → List (MatchRule Target)
  | 0, _ => []
  | fuel + 1, context =>
    context.items.flatMap fun item =>
      match item with
      | .rule r => [r]
      | .rulesOf name =>
        match g.contexts.get? name with
        | some other => rulesWithin g fuel other
        | none => []

def rules (g : Grammar) (context : Context) : List (MatchRule Target) :=
  g.rulesWithin (g.contexts.entries.length + 1) context

end Grammar
end SchemeCheck
