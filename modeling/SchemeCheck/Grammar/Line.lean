import SchemeCheck.Grammar.Document
set_option autoImplicit false

/-!
Parsing lines with a grammar. A line becomes operations on a stack of scopes, each at a byte offset;
the stack of contexts goes on from line to line.
-/

namespace SchemeCheck

/-- What happens to the scopes at an offset. Scopes that are taken off, all of them where no count is
given, can be put back. -/
inductive ScopeOp where
  | push (scope : Text)
  | pop (count : Nat)
  | takeOff (count : Option Nat)
  | putBack
  | nothing
  deriving DecidableEq

/-- Scopes, the innermost first, and those that were taken off, the last first. -/
structure ScopeStack where
  scopes : List Text
  takenOff : List (List Text)
  deriving DecidableEq

namespace ScopeStack

def empty : ScopeStack := ⟨[], []⟩

/-- Fails where nothing is left that could be put back. -/
def perform? (stack : ScopeStack) : ScopeOp → Option ScopeStack
  | .push scope => some { stack with scopes := scope :: stack.scopes }
  | .pop count => some { stack with scopes := stack.scopes.drop count }
  | .takeOff count =>
    let count := count.getD stack.scopes.length
    some ⟨stack.scopes.drop count, stack.scopes.take count :: stack.takenOff⟩
  | .putBack =>
    match stack.takenOff with
    | [] => none
    | scopes :: rest => some ⟨scopes ++ stack.scopes, rest⟩
  | .nothing => some stack

def path (stack : ScopeStack) : Text := [' '].intercalate stack.scopes.reverse

end ScopeStack

abbrev LineOps := List (Nat × ScopeOp)

namespace LineOps

def pushAll (offset : Nat) (scopes : List Text) : LineOps := scopes.map fun s => (offset, .push s)

def popMany (offset count : Nat) : LineOps := if count = 0 then [] else [(offset, .pop count)]

end LineOps

namespace MatchRule

/-- An operation of a group; `length` is that of a group that opens. -/
structure GroupOp where
  offset : Nat
  length : Option Nat
  op : ScopeOp

/-- At one offset groups close before others open, and longer ones open first. -/
def GroupOp.precedes (a b : GroupOp) : Bool :=
  a.offset < b.offset ||
    (a.offset == b.offset &&
      match a.length, b.length with
      | none, _ => true
      | some _, none => false
      | some m, some n => n ≤ m)

def groupOps {ρ : Type} (r : MatchRule ρ) (found : RegexMatch) : List GroupOp :=
  r.captures.flatMap fun (index, scopes) =>
    match found.group? index with
    | none => []
    | some (first, last) =>
      if first = last then []
      else
        (scopes.map fun s => ⟨first, some (last - first), .push s⟩) ++
          [⟨last, none, .pop scopes.length⟩]

def ops {ρ : Type} (r : MatchRule ρ) (found : RegexMatch) : LineOps :=
  LineOps.pushAll found.first r.scopes ++
    ((r.groupOps found).mergeSort GroupOp.precedes).map (fun g => (g.offset, g.op)) ++
    LineOps.popMany found.last.offset r.scopes.length

end MatchRule

namespace Context

def metaCount (c : Context) : Nat := c.metaScopes.length + c.contentScopes.length

/-- The operations of leaving or entering contexts before the match that does so: the content scopes
of a popped context end, and the meta scopes of pushed ones start. -/
def opsBefore (current : Context) (offset : Nat) (action : Action Target) (entered : List Context) :
    LineOps :=
  match action with
  | .stay => []
  | .pop => LineOps.popMany offset current.contentScopes.length
  | _ => LineOps.pushAll offset (entered.flatMap (·.metaScopes))

/-- The operations after the match. To put content scopes in their order, the meta scopes are taken
off and pushed again; a replaced context loses its own here. -/
def opsAfter (current : Context) (offset : Nat) (action : Action Target) (entered : List Context) :
    LineOps :=
  let again (replaced : Nat) : LineOps :=
    LineOps.popMany offset (replaced + (entered.flatMap (·.metaScopes)).length) ++
      LineOps.pushAll offset (entered.flatMap fun c => c.metaScopes ++ c.contentScopes)
  let haveContent := entered.any (!·.contentScopes.isEmpty)
  match action with
  | .stay => []
  | .pop => LineOps.popMany offset current.metaScopes.length
  | .push _ => if haveContent then again 0 else []
  | .replace _ =>
    if haveContent || current.metaCount != 0 then again current.metaCount else []

end Context

namespace Action

def entered (g : Grammar) : Action Target → Except UnknownContext (List Context)
  | push targets => targets.mapM g.resolve
  | replace targets => targets.mapM g.resolve
  | _ => .ok []

def perform {ρ : Type} (action : Action ρ) (entered stack : List Context) : List Context :=
  match action with
  | stay => stack
  | pop => stack.drop 1
  | push _ => entered.reverse ++ stack
  | replace _ => entered.reverse ++ stack.drop 1

end Action

/-- A rule that matches ahead. `loops` marks a pop that would undo a push at the same position. -/
structure Candidate where
  rule : MatchRule Target
  found : RegexMatch
  loops : Bool

namespace Candidate

/-- A match that neither takes characters nor changes the stack is none. -/
def ofRule? (c : Cursor) (afterPush : Bool) (rule : MatchRule Target) : Option Candidate :=
  match rule.regex.search? c with
  | none => none
  | some found =>
    if rule.action.isStay ∧ found.isEmpty then none
    else some ⟨rule, found, afterPush && found.last.offset == c.offset && rule.action.isPop⟩

/-- Whether a candidate takes the place of one found before: it starts further left, or where the
other would loop. -/
def beats (new old : Candidate) : Bool :=
  new.found.first < old.found.first || (new.found.first == old.found.first && old.loops)

def choose : Option Candidate → Candidate → Option Candidate
  | none, new => some new
  | some old, new => if new.beats old then some new else some old

def best? (c : Cursor) (afterPush : Bool) (rules : List (MatchRule Target)) : Option Candidate :=
  (rules.filterMap (ofRule? c afterPush)).foldl choose none

end Candidate

structure ParseState where
  stack : List Context
  firstLine : Bool

/-- The place reached in a line. `pushedAt` is the offset and the depth after the last push that took
no characters. -/
structure LineState where
  stack : List Context
  cursor : Cursor
  pushedAt : Option (Nat × Nat)

inductive LineStep where
  | done
  | go (ops : LineOps) (next : LineState)

namespace Grammar

def start (g : Grammar) : ParseState :=
  ⟨((g.contexts.get? startName).getD Context.empty) :: [], true⟩

/-- One match or, instead of a loop, one character. -/
def step (g : Grammar) (s : LineState) : Except UnknownContext LineStep :=
  let current := s.stack.headD Context.empty
  let afterPush := s.pushedAt == some (s.cursor.offset, s.stack.length)
  match Candidate.best? s.cursor afterPush (g.rules current) with
  | none => .ok .done
  | some best =>
    if best.loops then
      match s.cursor.next? with
      | some next =>
        if next.rest = [] then .ok .done else .ok (.go [] { s with cursor := next })
      | none => .ok .done
    else do
      let action := best.rule.action
      let entered ← action.entered g
      let last := best.found.last
      let pushedAt :=
        if last.offset = s.cursor.offset ∧ action.isPush then
          some (last.offset, s.stack.length + 1)
        else s.pushedAt
      pure
        (.go
          (current.opsBefore best.found.first action entered ++ best.rule.ops best.found ++
            current.opsAfter last.offset action entered)
          { stack := action.perform entered s.stack, cursor := last, pushedAt })

def steps (g : Grammar) : (fuel : Nat) → LineState → Except UnknownContext (LineOps × List Context)
  | 0, s => .ok ([], s.stack)
  | fuel + 1, s => do
    match ← g.step s with
    | .done => pure ([], s.stack)
    | .go ops next =>
      let (rest, stack) ← g.steps fuel next
      pure (ops ++ rest, stack)

/-- More steps than a line takes: every one moves on, or changes the stack where it stands, which
comes to an end unless contexts enter each other for ever. -/
def maxSteps (g : Grammar) (s : ParseState) (line : Text) : Nat :=
  (line.length + 1) * (s.stack.length + line.length + 1 <<< (g.contexts.entries.length + 4))

def parseLine (g : Grammar) (s : ParseState) (line : Text) :
    Except UnknownContext (LineOps × ParseState) := do
  let opening : LineOps :=
    if s.firstLine then LineOps.pushAll 0 ((s.stack.headD Context.empty).contentScopes.take 1) else []
  let (ops, stack) ← g.steps (g.maxSteps s line) ⟨s.stack, Cursor.start line, none⟩
  pure (opening ++ ops, ⟨stack, false⟩)

end Grammar
end SchemeCheck
