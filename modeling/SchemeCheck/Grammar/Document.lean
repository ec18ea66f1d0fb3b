import SchemeCheck.Grammar.Basic
import SchemeCheck.Regex.Reader
import SchemeCheck.Selector
import SchemeCheck.Yaml.Reader
set_option autoImplicit false

namespace SchemeCheck

def scopeText? (t : Text) : Option Text :=
  (Scope.ofText? t).map fun _ => Text.dropEndWhile (· == '.') t

def scopeTexts? (t : Text) : Option (List Text) := (Text.words t).mapM scopeText?

abbrev YamlEntries := List (YamlScalar × Yaml)

namespace Grammar

def string? (entries : YamlEntries) (key : String) : Option Text :=
  (Yaml.lookup entries key).bind Yaml.string?

def scopesAt? (entries : YamlEntries) (key : String) : Option (List Text) :=
  match string? entries key with
  | some t => scopeTexts? t
  | none => some []

def captures? (groups : Nat) (entries : YamlEntries) : Option (List (Nat × List Text)) :=
  match (Yaml.lookup entries "captures").bind Yaml.entries? with
  | none => some []
  | some captures =>
    (captures.filterMap fun (key, value) =>
      match key, value.string? with
      | .integer n, some t => if 0 ≤ n ∧ n.toNat ≤ groups then some (n.toNat, t) else none
      | _, _ => none).mapM fun (n, t) => (scopeTexts? t).map fun scopes => (n, scopes)

def listsContexts : List Yaml → Bool
  | first :: _ =>
    match first with
    | .sequence (.mapping _ :: _) => true
    | first => first.string?.isSome
  | [] => false

def targets? (target? : Yaml → Option Target) (y : Yaml) : Option (List Target) :=
  match y with
  | .sequence items => if listsContexts items then items.mapM target? else (target? y).map ([·])
  | _ => (target? y).map ([·])

def action? (target? : Yaml → Option Target) (entries : YamlEntries) : Option (Action Target) :=
  match Yaml.lookup entries "pop", Yaml.lookup entries "push", Yaml.lookup entries "set" with
  | some _, _, _ => some .pop
  | none, some y, _ => (targets? target? y).map .push
  | none, none, some y => (targets? target? y).map .replace
  | none, none, none => some .stay

def rule? (target? : Yaml → Option Target) (entries : YamlEntries) : Option (MatchRule Target) := do
  let pattern ← string? entries "match"
  let (regex, groups) ← Regex.read? pattern
  let scopes ← scopesAt? entries "scope"
  let captures ← captures? groups entries
  let action ← action? target? entries
  some { regex, scopes, captures, action }

/-- The context with one more item. An item with meta scopes is no rule. -/
def addItem? (target? : Yaml → Option Target) (context : Context) (y : Yaml) : Option Context := do
  let entries ← y.entries?
  if (string? entries "meta_scope").isSome ∨ (string? entries "meta_content_scope").isSome then
    let metaScopes ← scopesAt? entries "meta_scope"
    let contentScopes ← scopesAt? entries "meta_content_scope"
    some
      { context with
        metaScopes := if (string? entries "meta_scope").isSome then metaScopes else context.metaScopes
        contentScopes :=
          if (string? entries "meta_content_scope").isSome then contentScopes
          else context.contentScopes }
  else
    match Yaml.lookup entries "include" with
    | some y =>
      match ← target? y with
      | .named name => some { context with items := context.items ++ [.rulesOf name] }
      | .inline other => some { context with items := context.items ++ other.items }
    | none =>
      let rule ← rule? target? entries
      some { context with items := context.items ++ [.rule rule] }

def context? (target? : Yaml → Option Target) (items : List Yaml) : Option Context :=
  items.foldlM (addItem? target?) Context.empty

/-- A context by name, or the items of one, which may nest up to `fuel` deep. -/
def target? : (fuel : Nat) → Yaml → Option Target
  | 0, _ => none
  | fuel + 1, y =>
    match y.string?, y.items? with
    | some t, _ => some (.named (t.takeWhile (· != '#')))
    | none, some items => (context? (target? fuel) items).map .inline
    | none, none => none

def contexts? (fuel : Nat) (entries : YamlEntries) : Option (Dict Context) :=
  entries.foldlM
    (fun contexts (key, value) =>
      match key, value.items? with
      | .string name, some items => (context? (target? fuel) items).map (contexts.insert name)
      | _, _ => some contexts)
    Dict.empty

def mainName : Text := "main".toList

/-- The context at the bottom of every stack: whatever follows, it pushes the outer main context. -/
def startName : Text := "__start".toList

def outerMainName : Text := "__main".toList

/-- The contexts with the two every document starts in. The scope of the grammar belongs to the start,
and to the main context wherever a rule enters it again. -/
def withStart? (scope : Text) (contexts : Dict Context) : Option (Dict Context) :=
  (contexts.get? mainName).map fun main =>
    let start : Context :=
      { metaScopes := []
        contentScopes := [scope]
        items := [.rule ⟨.empty, [], [], .push [.named outerMainName]⟩] }
    ((contexts.insert startName start).insert outerMainName
      { main with items := [.rulesOf mainName] }).insert mainName
        { main with contentScopes := scope :: main.contentScopes }

def unnamed : Text := "Unnamed".toList

def ofDocument? (content : Text) : Option Grammar := do
  let entries ← (← Yaml.read? content).entries?
  let contexts ← (Yaml.lookup entries "contexts").bind Yaml.entries?
  let scope ← scopeText? (← string? entries "scope")
  let contexts ← contexts? (content.length + 1) contexts
  let contexts ← withStart? scope contexts
  some { name := (string? entries "name").getD unnamed, scope, contexts }

end Grammar
end SchemeCheck
