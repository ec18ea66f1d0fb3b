import SchemeCheck.Theme.Resolver
set_option autoImplicit false

namespace SchemeCheck

def Theme.styleAt (view : View) (score : Scorer) (theme : Theme) (row column : Nat) : Style :=
  theme.resolve view score (Text.trim (view.scopeName (view.textPoint row column)))

namespace Resolver

/-- Every remembered style is the one that its path has without memory. -/
def Faithful (view : View) (score : Scorer) (r : Resolver) : Prop :=
  ∀ path style, r.known.lookup path = some style → style = r.theme.resolve view score path

variable {view : View} {score : Scorer} {r : Resolver}

theorem atScope_known {scopePath : Text} {style : Style}
    (h : r.known.lookup (Text.trim scopePath) = some style) :
    r.atScope view score scopePath = ⟨style, r, []⟩ := by
  simp only [atScope, h]

theorem atScope_fresh {scopePath : Text} (h : r.known.lookup (Text.trim scopePath) = none) :
    r.atScope view score scopePath =
      ⟨r.theme.resolve view score (Text.trim scopePath),
        { r with
          known :=
            (Text.trim scopePath, r.theme.resolve view score (Text.trim scopePath)) :: r.known },
        r.theme.queries (Text.trim scopePath)⟩ := by
  simp only [atScope, h]

theorem faithful_new (theme : Theme) : Faithful view score (new theme) := by
  intro path style h
  simp [new] at h

@[simp] theorem theme_next_atScope (scopePath : Text) :
    (r.atScope view score scopePath).next.theme = r.theme := by
  simp only [atScope]
  split <;> rfl

theorem Faithful.style_atScope (h : Faithful view score r) (scopePath : Text) :
    (r.atScope view score scopePath).style = r.theme.resolve view score (Text.trim scopePath) := by
  simp only [atScope]
  split
  · next style known => exact h _ _ known
  · rfl

theorem Faithful.next_atScope (h : Faithful view score r) (scopePath : Text) :
    Faithful view score (r.atScope view score scopePath).next := by
  simp only [atScope]
  split
  · exact h
  · intro path style known
    simp only [List.lookup_cons] at known
    split at known
    · next same =>
      rw [← Option.some.inj known, beq_iff_eq.1 same]
    · exact h path style known

@[simp] theorem theme_next_atPoint (point : Nat) :
    (r.atPoint view score point).next.theme = r.theme := theme_next_atScope _

theorem Faithful.style_atPoint (h : Faithful view score r) (row column : Nat) :
    (r.atPoint view score (view.textPoint row column)).style = r.theme.styleAt view score row column :=
  h.style_atScope _

theorem Faithful.next_atPoint (h : Faithful view score r) (point : Nat) :
    Faithful view score (r.atPoint view score point).next := h.next_atScope _

end Resolver
end SchemeCheck
