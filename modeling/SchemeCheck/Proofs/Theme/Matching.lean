import SchemeCheck.Theme.Matching
set_option autoImplicit false

namespace SchemeCheck

theorem Style.get?_merge (base : Style) (upper : List Style) (key : Text) :
    (base.merge upper).get? key = (upper.reverse.findSome? (·.get? key)).or (base.get? key) := by
  induction upper generalizing base with
  | nil => rfl
  | cons style upper ih =>
    have first : base.merge (style :: upper) = Style.merge (base.extend style) upper := rfl
    rw [first, ih, Dict.get?_extend, List.reverse_cons, List.findSome?_append,
      List.findSome?_singleton, Option.or_assoc]

theorem Style.get?_merge_origin {base : Style} {upper : List Style} {key value : Text}
    (h : (base.merge upper).get? key = some value) :
    (∃ style ∈ upper, style.get? key = some value) ∨ base.get? key = some value := by
  rw [get?_merge, Option.or_eq_some_iff] at h
  rcases h with found | ⟨-, below⟩
  · obtain ⟨style, hstyle, hvalue⟩ := List.exists_of_findSome?_eq_some found
    exact .inl ⟨style, List.mem_reverse.1 hstyle, hvalue⟩
  · exact .inr below

/-- In a sorted list the last element with a value is a greatest one, and of the greatest the one
that was last before. -/
theorem findSome?_reverse_mergeSort {α β : Type} {le : α → α → Bool}
    (trans : ∀ a b c, le a b → le b c → le a c) (total : ∀ a b, le a b || le b a)
    {f : α → Option β} {before after : List α} {x : α} {v : β} (hx : f x = some v)
    (earlier : ∀ b ∈ before, (f b).isSome → le b x)
    (later : ∀ a ∈ after, (f a).isSome → le x a = false) :
    ((before ++ x :: after).mergeSort le).reverse.findSome? f = some v := by
  -- Sorting puts the head among the sorted tail, so what stands before `x` is taken off in turn.
  induction before with
  | nil =>
    obtain ⟨low, high, sorted, rest, -⟩ := List.mergeSort_cons trans total x after
    have above : ∀ a ∈ high, le x a := by
      have pairs := List.pairwise_mergeSort trans total (x :: after)
      rw [sorted] at pairs
      exact (List.pairwise_cons.1 (List.pairwise_append.1 pairs).2.1).1
    have without : high.reverse.findSome? f = none := by
      refine List.findSome?_eq_none_iff.2 fun a ha => ?_
      have ha := List.mem_reverse.1 ha
      have inside : a ∈ after.mergeSort le := by
        rw [rest]
        exact List.mem_append_right _ ha
      cases ha' : f a with
      | none => rfl
      | some w =>
        have below := later a (List.mem_mergeSort.1 inside) (by rw [ha']; rfl)
        rw [above a ha] at below
        contradiction
    rw [List.nil_append, sorted, List.reverse_append, List.reverse_cons, List.append_assoc,
      List.findSome?_append, without, Option.none_or, List.singleton_append, List.findSome?_cons, hx]
  | cons y before ih =>
    have known := ih fun b hb => earlier b (List.mem_cons_of_mem _ hb)
    obtain ⟨low, high, sorted, rest, below⟩ := List.mergeSort_cons trans total y (before ++ x :: after)
    rw [rest, List.reverse_append, List.findSome?_append] at known
    rw [List.cons_append, sorted, List.reverse_append, List.reverse_cons, List.append_assoc,
      List.findSome?_append, List.singleton_append, List.findSome?_cons]
    cases hy : f y with
    | none => exact known
    | some w =>
      -- `x` is not below `y`, so it stands above it and is found first.
      have least : le y x := earlier y List.mem_cons_self (by rw [hy]; rfl)
      have inside : x ∈ low ++ high := by
        rw [← rest, List.mem_mergeSort]
        exact List.mem_append_right _ List.mem_cons_self
      have above : x ∈ high.reverse := by
        rcases List.mem_append.1 inside with hlow | hhigh
        · have := below x hlow
          rw [least] at this
          contradiction
        · exact List.mem_reverse.2 hhigh
      cases hhigh : high.reverse.findSome? f with
      | none =>
        rw [List.findSome?_eq_none_iff.1 hhigh x above] at hx
        contradiction
      | some u =>
        rw [hhigh, Option.some_or] at known
        rw [Option.some_or, known]

namespace Rule

/-- The rule matches the path with the score `s` and gives `key` this value. -/
structure Sets (score : Scorer) (path key : Text) (rule : Rule) (s : Score) (value : Text) :
    Prop where
  scored : ∃ selector, rule.selector = some selector ∧ score path selector = s
  isMatch : s.isMatch = true
  value_eq : rule.style.get? key = some value

/-- The value that the topmost of the rules gives `key`: the rules before it that set `key` score at
most as high, and those after it lower. -/
def Topmost (score : Scorer) (path key : Text) (rules : List Rule) (value : Text) : Prop :=
  ∃ before rule after s, rules = before ++ rule :: after ∧ rule.Sets score path key s value ∧
    (∀ other ∈ before, ∀ s' v, other.Sets score path key s' v → s'.bits ≤ s.bits) ∧
    (∀ other ∈ after, ∀ s' v, other.Sets score path key s' v → s'.bits < s.bits)

def Unset (score : Scorer) (path key : Text) (rules : List Rule) : Prop :=
  ∀ rule ∈ rules, ∀ s value, ¬ rule.Sets score path key s value

variable {score : Scorer} {path key value : Text} {rule : Rule} {rules : List Rule} {s : Score}

theorem scored?_eq_some_iff {e : Score × Rule} :
    rule.scored? score path = some e ↔
      e.2 = rule ∧ (∃ selector, rule.selector = some selector ∧ score path selector = e.1) ∧
        e.1.isMatch = true := by
  obtain ⟨s, r⟩ := e
  rw [scored?]
  cases rule.selector with
  | none => simp
  | some selector =>
    simp only [Option.ite_none_right_eq_some, Option.some.injEq, Prod.mk.injEq]
    constructor
    · rintro ⟨positive, rfl, rfl⟩
      exact ⟨rfl, ⟨selector, rfl, rfl⟩, positive⟩
    · rintro ⟨rfl, ⟨_, rfl, rfl⟩, positive⟩
      exact ⟨positive, rfl, rfl⟩

theorem Sets.score_unique {s' : Score} {value' : Text} (h : rule.Sets score path key s value)
    (h' : rule.Sets score path key s' value') : s' = s := by
  obtain ⟨selector, hselector, rfl⟩ := h.scored
  obtain ⟨selector', hselector', rfl⟩ := h'.scored
  rw [hselector, Option.some_inj] at hselector'
  rw [hselector']

theorem Sets.scored?_eq (h : rule.Sets score path key s value) :
    rule.scored? score path = some (s, rule) := scored?_eq_some_iff.2 ⟨rfl, h.scored, h.isMatch⟩

theorem exists_sets {e : Score × Rule} (he : e ∈ rules.filterMap (scored? score path))
    (hvalue : (e.2.style.get? key).isSome) :
    ∃ value, e.2 ∈ rules ∧ e.2.Sets score path key e.1 value := by
  obtain ⟨rule, hrule, hscored⟩ := List.mem_filterMap.1 he
  obtain ⟨rfl, hscored, isMatch⟩ := scored?_eq_some_iff.1 hscored
  obtain ⟨value, hvalue⟩ := Option.isSome_iff_exists.1 hvalue
  exact ⟨value, hrule, hscored, isMatch, hvalue⟩

end Rule

theorem get?_accumulate (score : Scorer) (path : Text) (rules : List Rule) (base : Style)
    (key : Text) :
    (accumulate score path rules base).get? key =
      ((rankedRules score path rules).reverse.findSome? (·.2.style.get? key)).or (base.get? key) := by
  rw [accumulate, Style.get?_merge, ← List.map_reverse, List.findSome?_map]
  rfl

section
variable {score : Scorer} {path key value : Text} {rules : List Rule}

theorem get?_accumulate_of_topmost (h : Rule.Topmost score path key rules value) (base : Style) :
    (accumulate score path rules base).get? key = some value := by
  obtain ⟨before, rule, after, s, rfl, sets, earlier, later⟩ := h
  have found : (rankedRules score path (before ++ rule :: after)).reverse.findSome?
      (·.2.style.get? key) = some value := by
    rw [rankedRules, List.filterMap_append, List.filterMap_cons, sets.scored?_eq]
    refine findSome?_reverse_mergeSort ?_ ?_ sets.value_eq (fun e he hvalue => ?_)
      fun e he hvalue => ?_
    · intro a b c hab hbc
      exact decide_eq_true (UInt64.le_trans (of_decide_eq_true hab) (of_decide_eq_true hbc))
    · intro a b
      simpa [Score.atMost] using UInt64.le_total a.1.bits b.1.bits
    · obtain ⟨v, hrule, hsets⟩ := Rule.exists_sets he hvalue
      exact decide_eq_true (earlier _ hrule _ _ hsets)
    · obtain ⟨v, hrule, hsets⟩ := Rule.exists_sets he hvalue
      exact decide_eq_false (UInt64.not_le.2 (later _ hrule _ _ hsets))
  rw [get?_accumulate, found, Option.some_or]

theorem get?_accumulate_of_unset (h : Rule.Unset score path key rules) (base : Style) :
    (accumulate score path rules base).get? key = base.get? key := by
  have found : (rankedRules score path rules).reverse.findSome? (·.2.style.get? key) = none := by
    refine List.findSome?_eq_none_iff.2 fun e he => Option.not_isSome_iff_eq_none.1 fun hvalue => ?_
    obtain ⟨v, hrule, hsets⟩ :=
      Rule.exists_sets (List.mem_mergeSort.1 (List.mem_reverse.1 he)) hvalue
    exact h _ hrule _ _ hsets
  rw [get?_accumulate, found, Option.none_or]

theorem get?_accumulate_origin {base : Style}
    (h : (accumulate score path rules base).get? key = some value) :
    (∃ rule ∈ rules, rule.style.get? key = some value) ∨ base.get? key = some value := by
  refine (Style.get?_merge_origin h).imp_left fun ⟨style, hstyle, hvalue⟩ => ?_
  obtain ⟨e, he, rfl⟩ := List.mem_map.1 hstyle
  obtain ⟨rule, hrule, hscored⟩ := List.mem_filterMap.1 (List.mem_mergeSort.1 he)
  obtain ⟨rfl, -, -⟩ := Rule.scored?_eq_some_iff.1 hscored
  exact ⟨_, hrule, hvalue⟩

theorem Rule.topmost_or_unset (score : Scorer) (path key : Text) (rules : List Rule) :
    (∃ value, Topmost score path key rules value) ∨ Unset score path key rules := by
  induction rules with
  | nil => exact .inr fun rule h => absurd h List.not_mem_nil
  | cons rule rules ih =>
    rcases ih with ⟨top, before, r, after, s, rfl, hsets, earlier, later⟩ | unset
    · by_cases low : ∀ s' v, rule.Sets score path key s' v → s'.bits ≤ s.bits
      · refine .inl ⟨top, rule :: before, r, after, s, rfl, hsets, fun other hother => ?_, later⟩
        rcases List.mem_cons.1 hother with rfl | hother
        · exact low
        · exact earlier other hother
      · simp only [Classical.not_forall] at low
        obtain ⟨s', value, sets, above⟩ := low
        have above := UInt64.not_le.1 above
        refine .inl ⟨value, [], rule, before ++ r :: after, s', rfl, sets, by simp, ?_⟩
        intro other hother s'' v hv
        rcases List.mem_append.1 hother with hother | hother
        · exact UInt64.lt_of_le_of_lt (earlier _ hother _ _ hv) above
        · rcases List.mem_cons.1 hother with rfl | hother
          · rwa [hsets.score_unique hv]
          · exact UInt64.lt_trans (later _ hother _ _ hv) above
    · by_cases here : ∃ s value, rule.Sets score path key s value
      · obtain ⟨s, value, sets⟩ := here
        exact .inl ⟨value, [], rule, rules, s, rfl, sets, by simp,
          fun other hother s' v hv => absurd hv (unset other hother s' v)⟩
      · refine .inr fun other hother s v hv => ?_
        rcases List.mem_cons.1 hother with rfl | hother
        · exact here ⟨s, v, hv⟩
        · exact unset other hother s v hv

end
end SchemeCheck
