import SchemeCheck.Text.Basic
set_option autoImplicit false

namespace SchemeCheck

/-- A call that changes the host or costs it something: a search, a read, and the life of a view. -/
inductive HostCall where
  | find (pattern : Text)
  | load (path : Text)
  | openView
  | closeView
  deriving DecidableEq

structure Traced (α : Type) where
  value : α
  calls : List HostCall

namespace Traced
variable {α β : Type}

instance : Monad Traced where
  pure a := ⟨a, []⟩
  bind x f := ⟨(f x.value).value, x.calls ++ (f x.value).calls⟩

@[simp] theorem value_pure (a : α) : (pure a : Traced α).value = a := rfl

@[simp] theorem calls_pure (a : α) : (pure a : Traced α).calls = [] := rfl

@[simp] theorem value_bind (x : Traced α) (f : α → Traced β) : (x >>= f).value = (f x.value).value :=
  rfl

@[simp] theorem calls_bind (x : Traced α) (f : α → Traced β) :
    (x >>= f).calls = x.calls ++ (f x.value).calls := rfl

def call (c : HostCall) : Traced Unit := ⟨(), [c]⟩

end Traced
end SchemeCheck
