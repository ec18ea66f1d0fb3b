import Mathlib.Data.ENat.Lattice
import Mathlib.Data.List.Perm.Subperm
import SchemeCheck.Proofs.Dict
import SchemeCheck.Proofs.Text.Cut
import SchemeCheck.Theme.Variable
set_option autoImplicit false

/-!
Chains of references. A value that refers to a known variable is followed by what the variable holds,
and resolving stops at the end of the chain or after eight of its steps. Without a cycle the chain
passes no variable twice, so that of eight variables at most it reaches its end.
-/

namespace SchemeCheck
namespace Variable

def Refers (value name : Text) : Prop :=
  ∃ inner, value = "var(".toList ++ (inner ++ [')']) ∧ name = Text.trim inner

def Follows (vars : Style) (value next : Text) : Prop :=
  ∃ name stored, Refers value name ∧ vars.get? name = some stored ∧ next = Text.trim stored

/-- The chain of a value: the element with index `i` is `v`. -/
inductive Chain (vars : Style) (value : Text) : (i : Nat) → (v : Text) → Prop where
  | start : Chain vars value 0 (Text.trim value)
  | next {i : Nat} {v w : Text} : Chain vars value i v → Follows vars v w → Chain vars value (i + 1) w

/-- The chain of the value has this many hops, maybe infinitely many. -/
def ChainLength (vars : Style) (value : Text) (hops : ℕ∞) : Prop :=
  ∀ i : Nat, (∃ v, Chain vars value i v) ↔ i ≤ hops

def Resolved (vars : Style) (value : Text) : Prop := ∀ name, Refers value name → vars.get? name = none

def RefersTo (vars : Style) (a b : Text) : Prop :=
  ∃ stored, vars.get? a = some stored ∧ Refers (Text.trim stored) b

def Acyclic (vars : Style) : Prop := ∀ name, ¬ Relation.TransGen (RefersTo vars) name name

variable {vars : Style} {value v w name : Text} {i : Nat}

theorem reference?_eq_some_iff : reference? value = some name ↔ Refers value name := by
  simp only [reference?, Option.map_eq_some_iff, Option.bind_eq_some_iff, Text.after?_eq_some_iff,
    Text.before?_eq_some_iff]
  constructor
  · rintro ⟨inner, ⟨_, rfl, rfl⟩, rfl⟩
    exact ⟨inner, rfl, rfl⟩
  · rintro ⟨inner, rfl, rfl⟩
    exact ⟨inner, ⟨_, rfl, rfl⟩, rfl⟩

theorem follow?_eq_some_iff : follow? vars v = some w ↔ Follows vars v w := by
  simp only [follow?, Option.map_eq_some_iff, Option.bind_eq_some_iff, reference?_eq_some_iff]
  constructor
  · rintro ⟨stored, ⟨name, refers, known⟩, rfl⟩
    exact ⟨name, stored, refers, known, rfl⟩
  · rintro ⟨name, stored, refers, known, rfl⟩
    exact ⟨stored, ⟨name, refers, known⟩, rfl⟩

theorem follow?_eq_none_iff : follow? vars v = none ↔ Resolved vars v := by
  constructor
  · intro h name refers
    rw [Option.eq_none_iff_forall_ne_some]
    intro stored known
    rw [follow?_eq_some_iff.2 ⟨name, stored, refers, known, rfl⟩] at h
    contradiction
  · intro resolved
    rw [Option.eq_none_iff_forall_ne_some]
    intro w h
    obtain ⟨name, stored, refers, known, -⟩ := follow?_eq_some_iff.1 h
    rw [resolved name refers] at known
    contradiction

namespace Chain

theorem unique (h : Chain vars value i v) (h' : Chain vars value i w) : v = w := by
  induction h generalizing w with
  | start =>
    cases h'
    rfl
  | next _ follows ih =>
    cases h' with
    | next before follows' =>
      cases ih before
      exact Option.some.inj ((follow?_eq_some_iff.2 follows).symm.trans (follow?_eq_some_iff.2 follows'))

theorem exists_of_le (h : Chain vars value i v) {j : Nat} (le : j ≤ i) : ∃ u, Chain vars value j u := by
  induction h with
  | start =>
    obtain rfl := Nat.le_zero.1 le
    exact ⟨_, .start⟩
  | @next i v w before follows ih =>
    rcases Nat.lt_or_eq_of_le le with less | rfl
    · exact ih (Nat.le_of_lt_succ less)
    · exact ⟨w, .next before follows⟩

theorem trim_eq (h : Chain vars value i v) : Text.trim v = v := by
  cases h with
  | start => exact Text.trim_trim _
  | next _ follows =>
    obtain ⟨_, _, -, -, rfl⟩ := follows
    exact Text.trim_trim _

theorem not_of_resolved (h : Chain vars value i v) (resolved : Resolved vars v) {j : Nat}
    (beyond : i < j) : ¬ Chain vars value j w := by
  intro later
  obtain ⟨u, hu⟩ := later.exists_of_le beyond
  cases hu with
  | next before follows =>
    cases before.unique h
    rw [← follow?_eq_some_iff, follow?_eq_none_iff.2 resolved] at follows
    contradiction

theorem followUpTo (h : Chain vars value i v) (hops : Nat) :
    ∃ j ≤ hops, Chain vars value (i + j) (Variable.followUpTo vars hops v) ∧
      (j = hops ∨ Resolved vars (Variable.followUpTo vars hops v)) := by
  induction hops generalizing i v with
  | zero => exact ⟨0, Nat.le_refl 0, h, .inl rfl⟩
  | succ hops ih =>
    rw [Variable.followUpTo]
    cases hf : follow? vars v with
    | none => exact ⟨0, Nat.zero_le _, h, .inr (follow?_eq_none_iff.1 hf)⟩
    | some next =>
      obtain ⟨j, le, chain, ends⟩ := ih (h.next (follow?_eq_some_iff.1 hf))
      refine ⟨j + 1, Nat.succ_le_succ le, ?_, ends.imp_left (congrArg (· + 1))⟩
      rwa [Nat.add_right_comm] at chain

/-- The variables that a chain has passed, the latest first: each leads to all before it, and all of
them lead to what the chain refers to next. -/
theorem exists_names (h : Chain vars value i v) : ∃ names : List Text, names.length = i ∧
    names ⊆ vars.keys ∧
    names.Pairwise (fun later earlier => Relation.TransGen (RefersTo vars) earlier later) ∧
    ∀ name ∈ names, ∀ b, Refers v b → Relation.TransGen (RefersTo vars) name b := by
  induction h with
  | start => exact ⟨[], rfl, List.nil_subset _, .nil, by simp⟩
  | next _ follows ih =>
    obtain ⟨names, length, known, leads, refers⟩ := ih
    obtain ⟨name, stored, hname, hstored, rfl⟩ := follows
    have here : ∀ b, Refers (Text.trim stored) b → RefersTo vars name b :=
      fun b hb => ⟨stored, hstored, hb⟩
    refine ⟨name :: names, by rw [List.length_cons, length], ?_, ?_, ?_⟩
    · have entry := (Dict.mem_entries_iff vars name stored).2 hstored
      exact List.cons_subset.2 ⟨List.mem_map.2 ⟨_, entry, rfl⟩, known⟩
    · exact List.pairwise_cons.2 ⟨fun earlier hearlier => refers earlier hearlier name hname, leads⟩
    · intro passed hpassed b hb
      rcases List.mem_cons.1 hpassed with rfl | hpassed
      · exact .single (here b hb)
      · exact (refers passed hpassed name hname).tail (here b hb)

/-- Without cycles a chain has no more hops than there are variables. -/
theorem le_length (acyclic : Acyclic vars) (h : Chain vars value i v) : i ≤ vars.entries.length := by
  obtain ⟨names, rfl, known, leads, -⟩ := h.exists_names
  have nodup : names.Nodup := leads.imp fun {later earlier} path same => by
    subst same
    exact acyclic _ path
  have bound := (nodup.subperm known).length_le
  rwa [Dict.keys, List.length_map] at bound

end Chain

theorem exists_chainLength (vars : Style) (value : Text) : ∃ hops, ChainLength vars value hops := by
  -- A chain that is not endless has its last element before the first index without one.
  by_cases endless : ∀ i, ∃ v, Chain vars value i v
  · exact ⟨⊤, fun i => ⟨fun _ => le_top, fun _ => endless i⟩⟩
  · have stops : ∃ i, ¬ ∃ v, Chain vars value i v := Classical.not_forall.1 endless
    classical
    obtain ⟨last, hlast⟩ : ∃ last, Nat.find stops = last + 1 := Nat.exists_eq_succ_of_ne_zero
      fun none => Nat.find_spec stops (none ▸ ⟨_, .start⟩)
    refine ⟨last, fun i => ?_⟩
    rw [Nat.cast_le]
    constructor
    · rintro ⟨v, chain⟩
      by_contra beyond
      exact Nat.find_spec stops (chain.exists_of_le (by omega))
    · intro le
      exact Classical.not_not.1 (Nat.find_min stops (by omega))

theorem ChainLength.unique {hops hops' : ℕ∞} (h : ChainLength vars value hops)
    (h' : ChainLength vars value hops') : hops = hops' :=
  ENat.eq_of_forall_natCast_le_iff fun i => (h i).symm.trans (h' i)

theorem chain_resolve {hops : ℕ∞} (h : ChainLength vars value hops) :
    Chain vars value (min 8 hops).toNat (resolve vars value) := by
  obtain ⟨j, le, chain, ends⟩ :=
    (Chain.start : Chain vars value 0 (Text.trim value)).followUpTo maxHops
  rw [Nat.zero_add] at chain
  have reached : (j : ℕ∞) ≤ hops := (h j).1 ⟨_, chain⟩
  have place : min 8 hops = j := by
    rcases ends with rfl | resolved
    · exact min_eq_left reached
    · have last : hops ≤ j := by
        by_contra beyond
        obtain ⟨w, later⟩ := (h (j + 1)).2 (by
          rw [Nat.cast_add, Nat.cast_one]
          exact Order.add_one_le_of_lt (not_le.1 beyond))
        exact chain.not_of_resolved resolved (Nat.lt_succ_self j) later
      rw [le_antisymm last reached]
      exact min_eq_right (Nat.cast_le.2 le)
  rw [place]
  exact chain

theorem resolve_of_resolved (trimmed : Text.trim v = v) (resolved : Resolved vars v) :
    resolve vars v = v := by
  rw [resolve, trimmed, maxHops, followUpTo, follow?_eq_none_iff.2 resolved]

theorem resolved_resolve (acyclic : Acyclic vars) (few : vars.entries.length ≤ 8) (value : Text) :
    Resolved vars (resolve vars value) := by
  obtain ⟨j, -, chain, rfl | resolved⟩ :=
    (Chain.start : Chain vars value 0 (Text.trim value)).followUpTo maxHops
  · -- After eight hops a ninth would pass more variables than there are.
    refine follow?_eq_none_iff.1 (Option.eq_none_iff_forall_ne_some.2 fun w next => ?_)
    have ninth := (chain.next (follow?_eq_some_iff.1 next)).le_length acyclic
    rw [maxHops] at ninth
    omega
  · exact resolved

/-- Resolving a value goes along its chain for eight hops at most, and resolving a style does so for
each of its attributes. Of eight variables at most and without cycles nothing is left to follow. -/
theorem resolve_along_chain (vars : Style) :
    (∀ value, (∃! hops, ChainLength vars value hops) ∧ ∀ hops, ChainLength vars value hops →
      ∀ v, Chain vars value (min 8 hops).toNat v ↔ resolve vars value = v) ∧
    (∀ style key, (resolveAll vars style).get? key = (style.get? key).map (resolve vars)) ∧
    (Acyclic vars → vars.entries.length ≤ 8 →
      (∀ value, Resolved vars (resolve vars value) ∧
        resolve vars (resolve vars value) = resolve vars value) ∧
      ∀ style, (∀ key value, (resolveAll vars style).get? key = some value → Resolved vars value) ∧
        resolveAll vars (resolveAll vars style) = resolveAll vars style) := by
  refine ⟨fun value => ?_, fun style => Dict.get?_mapValues _ style, fun acyclic few => ?_⟩
  · obtain ⟨hops, h⟩ := exists_chainLength vars value
    refine ⟨⟨hops, h, fun hops' h' => h'.unique h⟩, fun hops' h' v => ⟨(chain_resolve h').unique, ?_⟩⟩
    rintro rfl
    exact chain_resolve h'
  · have complete := resolved_resolve acyclic few
    have again : ∀ value, resolve vars (resolve vars value) = resolve vars value := by
      intro value
      obtain ⟨hops, h⟩ := exists_chainLength vars value
      exact resolve_of_resolved (chain_resolve h).trim_eq (complete value)
    refine ⟨fun value => ⟨complete value, again value⟩, fun style => ⟨fun key value h => ?_, ?_⟩⟩
    · rw [resolveAll, Dict.get?_mapValues] at h
      obtain ⟨source, -, rfl⟩ := Option.map_eq_some_iff.1 h
      exact complete source
    · refine Dict.ext_get? fun key => ?_
      simp only [resolveAll, Dict.get?_mapValues, Option.map_map]
      exact congrArg (Option.map · (style.get? key)) (funext again)

end Variable

namespace Sample

def ladder : Style := Dict.ofList
  [(['a'], "var(b)".toList), (['b'], " var(c)".toList), (['c'], "var( d )".toList),
    (['d'], "var(e)".toList), (['e'], "var(f)".toList), (['f'], "var(g)".toList),
    (['g'], "var(h) ".toList), (['h'], "#fff".toList)]

theorem lt_of_refersTo_ladder {a b : Text} (h : Variable.RefersTo ladder a b) : a < b := by
  obtain ⟨stored, hstored, refers⟩ := h
  have next := Variable.reference?_eq_some_iff.2 refers
  have climbs : ∀ e ∈ ladder.entries, ∀ b ∈ Variable.reference? (Text.trim e.2), e.1 < b := by
    decide +kernel
  exact climbs _ ((Dict.mem_entries_iff _ _ _).2 hstored) b next

theorem acyclic_ladder : Variable.Acyclic ladder := by
  have climbs : ∀ {a b : Text}, Relation.TransGen (Variable.RefersTo ladder) a b → a < b := by
    intro a b path
    induction path with
    | single step => exact lt_of_refersTo_ladder step
    | tail _ step ih => exact List.lt_trans ih (lt_of_refersTo_ladder step)
  exact fun name path => List.lt_irrefl name (climbs path)

end Sample

theorem Variable.resolve_along_chain_sample :
    Acyclic Sample.ladder ∧ Sample.ladder.entries.length ≤ 8 ∧
      resolve Sample.ladder "var(a)".toList = "#fff".toList ∧
      Resolved Sample.ladder "#fff".toList := by
  have few : Sample.ladder.entries.length ≤ 8 := by decide +kernel
  have last : resolve Sample.ladder "var(a)".toList = "#fff".toList := by decide +kernel
  obtain ⟨-, -, complete⟩ := resolve_along_chain Sample.ladder
  obtain ⟨resolved, -⟩ := (complete Sample.acyclic_ladder few).1 "var(a)".toList
  exact ⟨Sample.acyclic_ladder, few, last, last ▸ resolved⟩

end SchemeCheck
