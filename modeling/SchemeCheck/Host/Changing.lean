import SchemeCheck.Host.Basic
set_option autoImplicit false

/-!
Computations on hosts. A host may change with every call, so that what a search, a read, an assignment
or a rendering gives at one moment says nothing of the next. A host that stays as it is answers a
computation as hosts do that are always the same.
-/

namespace SchemeCheck

/-- The hosts that answer one after the other, by the number of calls made before. -/
abbrev Hosts := Nat → Host

namespace Hosts

def after (hosts : Hosts) (calls : Nat) : Hosts := fun n => hosts (calls + n)

def always (host : Host) : Hosts := fun _ => host

@[simp] theorem after_apply (hosts : Hosts) (calls n : Nat) :
    hosts.after calls n = hosts (calls + n) := rfl

@[simp] theorem after_zero (hosts : Hosts) : hosts.after 0 = hosts :=
  funext fun n => congrArg hosts (Nat.zero_add n)

@[simp] theorem always_apply (host : Host) (n : Nat) : always host n = host := rfl

end Hosts

def Changing (α : Type) : Type := Hosts → Traced α

namespace Changing
variable {α β : Type} {host : Host}

def on (x : Changing α) (hosts : Hosts) : Traced α := x hosts

instance : Monad Changing where
  pure a := fun _ => pure a
  bind x f := fun hosts =>
    let rest := f (x hosts).value (hosts.after (x hosts).calls.length)
    ⟨rest.value, (x hosts).calls ++ rest.calls⟩

def now : Changing Host := fun hosts => pure (hosts 0)

def call (c : HostCall) : Changing Unit := fun _ => Traced.call c

def find (pattern : Text) : Changing (List Text) := fun hosts => (hosts 0).findResources pattern

def load (path : Text) : Changing (Except ResourceError Text) := fun hosts =>
  (hosts 0).loadResource path

/-- Everything `x` does with a view, which is open all the while and closed however `x` ends. -/
def withView (x : Changing α) : Changing α := do
  call .openView
  let a ← x
  call .closeView
  pure a

@[simp] theorem value_pure (a : α) (hosts : Hosts) : ((pure a : Changing α).on hosts).value = a := rfl

@[simp] theorem calls_pure (a : α) (hosts : Hosts) : ((pure a : Changing α).on hosts).calls = [] := rfl

theorem calls_bind (x : Changing α) (f : α → Changing β) (hosts : Hosts) :
    ((x >>= f).on hosts).calls = (x.on hosts).calls ++
      ((f (x.on hosts).value).on (hosts.after (x.on hosts).calls.length)).calls := rfl

@[simp] theorem value_bind_always (x : Changing α) (f : α → Changing β) :
    ((x >>= f).on (.always host)).value =
      ((f (x.on (.always host)).value).on (.always host)).value := rfl

@[simp] theorem calls_bind_always (x : Changing α) (f : α → Changing β) :
    ((x >>= f).on (.always host)).calls = (x.on (.always host)).calls ++
      ((f (x.on (.always host)).value).on (.always host)).calls := rfl

@[simp] theorem value_now (hosts : Hosts) : (now.on hosts).value = hosts 0 := rfl

@[simp] theorem value_find (pattern : Text) (hosts : Hosts) :
    ((find pattern).on hosts).value = (hosts 0).find pattern := rfl

@[simp] theorem calls_find (pattern : Text) (hosts : Hosts) :
    ((find pattern).on hosts).calls = [.find pattern] := rfl

@[simp] theorem value_load (path : Text) (hosts : Hosts) :
    ((load path).on hosts).value = (hosts 0).load path := rfl

@[simp] theorem calls_load (path : Text) (hosts : Hosts) :
    ((load path).on hosts).calls = [.load path] := rfl

theorem on_now_bind (f : Host → Changing β) (hosts : Hosts) :
    (now >>= f).on hosts = (f (hosts 0)).on hosts := by
  have same : (f (hosts 0)).on (hosts.after 0) = (f (hosts 0)).on hosts := by rw [Hosts.after_zero]
  exact same

theorem calls_find_bind (pattern : Text) (f : List Text → Changing β) (hosts : Hosts) :
    ((find pattern >>= f).on hosts).calls =
      .find pattern :: ((f ((hosts 0).find pattern)).on (hosts.after 1)).calls := rfl

theorem value_find_bind (pattern : Text) (f : List Text → Changing β) (hosts : Hosts) :
    ((find pattern >>= f).on hosts).value =
      ((f ((hosts 0).find pattern)).on (hosts.after 1)).value := rfl

theorem calls_load_bind (path : Text) (f : Except ResourceError Text → Changing β) (hosts : Hosts) :
    ((load path >>= f).on hosts).calls =
      .load path :: ((f ((hosts 0).load path)).on (hosts.after 1)).calls := rfl

@[simp] theorem value_withView_always (x : Changing α) :
    ((withView x).on (.always host)).value = (x.on (.always host)).value := rfl

@[simp] theorem calls_withView (x : Changing α) (hosts : Hosts) :
    ((withView x).on hosts).calls = .openView :: ((x.on (hosts.after 1)).calls ++ [.closeView]) := rfl

end Changing
end SchemeCheck
