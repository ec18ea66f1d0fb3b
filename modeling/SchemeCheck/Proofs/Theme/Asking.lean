import SchemeCheck.Proofs.Theme.Resolver
set_option autoImplicit false

/-!
A resolver as a computation that learns of its view and its scorer only what it asks for. Run with a
view and a scorer, it gives what the resolver answers, and it asks the questions that the answer
lists.
-/

namespace SchemeCheck

namespace Query

def Reply : Query → Type
  | scopeName _ => Text
  | style => HostStyle
  | styleForScope _ => HostStyle
  | score _ _ => Score

def reply (view : View) (scorer : Scorer) : (q : Query) → q.Reply
  | scopeName point => view.scopeName point
  | style => view.style
  | styleForScope path => view.styleForScope path
  | score path selector => scorer path selector

end Query

inductive Asking (α : Type) where
  | done (a : α)
  | ask (q : Query) (next : q.Reply → Asking α)

namespace Asking
variable {α β : Type}

def value (view : View) (score : Scorer) : Asking α → α
  | done a => a
  | ask q next => (next (q.reply view score)).value view score

def questions (view : View) (score : Scorer) : Asking α → List Query
  | done _ => []
  | ask q next => q :: (next (q.reply view score)).questions view score

def map (f : α → β) : Asking α → Asking β
  | done a => done (f a)
  | ask q next => ask q fun reply => (next reply).map f

@[simp] theorem value_map (view : View) (score : Scorer) (f : α → β) (x : Asking α) :
    (x.map f).value view score = f (x.value view score) := by
  induction x with
  | done a => rfl
  | ask q next ih => exact ih _

@[simp] theorem questions_map (view : View) (score : Scorer) (f : α → β) (x : Asking α) :
    (x.map f).questions view score = x.questions view score := by
  induction x with
  | done a => rfl
  | ask q next ih => exact congrArg (q :: ·) (ih _)

end Asking

def Rule.askScores (path : Text) : List Rule → Asking (List (Score × Rule))
  | [] => .done []
  | rule :: rules =>
    match rule.selector with
    | none => askScores path rules
    | some selector =>
      .ask (.score path selector) fun (s : Score) =>
        (askScores path rules).map fun scored => if s.isMatch then (s, rule) :: scored else scored

theorem Rule.value_askScores (view : View) (score : Scorer) (path : Text) (rules : List Rule) :
    (askScores path rules).value view score = rules.filterMap (scored? score path) := by
  induction rules with
  | nil => rfl
  | cons rule rules ih =>
    rw [askScores, List.filterMap_cons, scored?]
    cases rule.selector with
    | none => exact ih
    | some selector =>
      have ask : Query.reply view score (.score path selector) = score path selector := rfl
      dsimp only [Asking.value]
      rw [Asking.value_map, ih, ask]
      cases (score path selector).isMatch <;> rfl

theorem Rule.questions_askScores (view : View) (score : Scorer) (path : Text) (rules : List Rule) :
    (askScores path rules).questions view score =
      (rules.filterMap (·.selector)).map (.score path) := by
  induction rules with
  | nil => rfl
  | cons rule rules ih =>
    rw [askScores, List.filterMap_cons]
    cases rule.selector with
    | none => exact ih
    | some selector => simp only [Asking.questions, Asking.questions_map, ih, List.map_cons]

namespace Theme

def asking (path : Text) : Theme → Asking Style
  | legacy t =>
    (Rule.askScores path t.scopedRules).map fun scored =>
      t.defaultStyle.merge ((scored.mergeSort fun a b => a.1.atMost b.1).map (·.2.style))
  | modern _ =>
    .ask .style fun (base : HostStyle) =>
      .ask (.styleForScope path) fun (upper : HostStyle) => .done (base.overlay upper).toStyle

theorem value_asking (view : View) (score : Scorer) (path : Text) (theme : Theme) :
    (theme.asking path).value view score = theme.resolve view score path := by
  cases theme with
  | legacy t => rw [asking, Asking.value_map, Rule.value_askScores]; rfl
  | modern t => rfl

theorem questions_asking (view : View) (score : Scorer) (path : Text) (theme : Theme) :
    (theme.asking path).questions view score = theme.queries path := by
  cases theme with
  | legacy t => rw [asking, Asking.questions_map, Rule.questions_askScores]; rfl
  | modern t => rfl

end Theme

inductive Request where
  | scope (scopePath : Text)
  | point (point : Nat)

namespace Resolver

def answer (view : View) (score : Scorer) (r : Resolver) : Request → Answer
  | .scope scopePath => r.atScope view score scopePath
  | .point point => r.atPoint view score point

def askingScope (r : Resolver) (scopePath : Text) : Asking (Style × Resolver) :=
  let path := Text.trim scopePath
  match r.known.lookup path with
  | some style => .done (style, r)
  | none =>
    (r.theme.asking path).map fun style => (style, { r with known := (path, style) :: r.known })

def asking (r : Resolver) : Request → Asking (Style × Resolver)
  | .scope scopePath => r.askingScope scopePath
  | .point point => .ask (.scopeName point) r.askingScope

variable (view : View) (score : Scorer) (r : Resolver)

theorem run_askingScope (scopePath : Text) :
    (r.askingScope scopePath).value view score =
        ((r.atScope view score scopePath).style, (r.atScope view score scopePath).next) ∧
      (r.askingScope scopePath).questions view score = (r.atScope view score scopePath).queries := by
  cases h : r.known.lookup (Text.trim scopePath) with
  | some style =>
    rw [atScope_known h]
    simp only [askingScope, h]
    exact ⟨rfl, rfl⟩
  | none =>
    rw [atScope_fresh h]
    simp only [askingScope, h, Asking.value_map, Asking.questions_map, Theme.value_asking,
      Theme.questions_asking, and_self]

/-- A resolver asks its view and its scorer the questions that its answer lists, and no others. -/
theorem run_asking (request : Request) :
    (r.asking request).value view score =
        ((r.answer view score request).style, (r.answer view score request).next) ∧
      (r.asking request).questions view score = (r.answer view score request).queries := by
  cases request with
  | scope scopePath => exact run_askingScope view score r scopePath
  | point point =>
    obtain ⟨value, questions⟩ := run_askingScope view score r (view.scopeName point)
    exact ⟨value, congrArg (List.cons (Query.scopeName point)) questions⟩

end Resolver
end SchemeCheck
