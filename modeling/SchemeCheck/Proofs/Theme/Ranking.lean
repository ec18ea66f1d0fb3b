import SchemeCheck.Proofs.Dict
import SchemeCheck.Proofs.Score
import SchemeCheck.Proofs.Theme.Matching
set_option autoImplicit false

/-!
The ranking of rules by the numbers their scores stand for. Among the rules with a selector, a score
above zero and a value for an attribute, the highest number wins the attribute, and of equal numbers
the later rule; other rules might as well not be there.
-/

namespace SchemeCheck

namespace Rule

def Scores (score : Scorer) (path : Text) (rule : Rule) (n : WithBot (WithTop Int)) : Prop :=
  ∃ selector, rule.selector = some selector ∧ (score path selector).number? = some n ∧ 0 < n

inductive Silent (score : Scorer) (path : Text) (rule : Rule) : Prop where
  | noSelector : rule.selector = none → Silent score path rule
  | notANumber {selector : Text} : rule.selector = some selector →
      (score path selector).number? = none → Silent score path rule
  | notPositive {selector : Text} {n : WithBot (WithTop Int)} : rule.selector = some selector →
      (score path selector).number? = some n → n ≤ 0 → Silent score path rule

/-- The value that the rule which ranks highest gives `key`, by score and then by position. -/
def Highest (score : Scorer) (path key : Text) (rules : List Rule) (value : Text) : Prop :=
  ∃ (i : Nat) (rule : Rule) (n : WithBot (WithTop Int)), rules[i]? = some rule ∧
    rule.Scores score path n ∧ rule.style.get? key = some value ∧
    ∀ (j : Nat) (other : Rule) (m : WithBot (WithTop Int)), rules[j]? = some other →
      other.Scores score path m → other.style.contains key = true → m < n ∨ m = n ∧ j ≤ i

variable {score : Scorer} {path key value : Text} {rule : Rule} {rules : List Rule}
  {n : WithBot (WithTop Int)}

theorem Silent.scored?_eq_none (h : rule.Silent score path) : rule.scored? score path = none := by
  have mismatch : ∀ {s : Score}, (∀ n, s.number? = some n → ¬ 0 < n) → ¬ s.isMatch = true := by
    intro s none isMatch
    obtain ⟨n, hn, pos⟩ := s.isMatch_iff.1 isMatch
    exact none n hn pos
  unfold scored?
  cases h with
  | noSelector hselector => rw [hselector]
  | notANumber hselector nan =>
    rw [hselector]
    refine if_neg (mismatch fun n hn => ?_)
    rw [nan] at hn
    contradiction
  | notPositive hselector hn low =>
    rw [hselector]
    refine if_neg (mismatch fun m hm => ?_)
    rw [hn, Option.some_inj] at hm
    exact hm ▸ not_lt.2 low

theorem Scores.exists_sets (h : rule.Scores score path n) (hvalue : rule.style.get? key = some value) :
    ∃ s, s.number? = some n ∧ rule.Sets score path key s value := by
  obtain ⟨selector, hselector, hn, pos⟩ := h
  exact ⟨_, hn, ⟨selector, hselector, rfl⟩, (Score.isMatch_iff _).2 ⟨n, hn, pos⟩, hvalue⟩

theorem Sets.exists_scores {s : Score} (h : rule.Sets score path key s value) :
    ∃ n, s.number? = some n ∧ rule.Scores score path n := by
  obtain ⟨selector, hselector, rfl⟩ := h.scored
  obtain ⟨n, hn, pos⟩ := (Score.isMatch_iff _).1 h.isMatch
  exact ⟨n, hn, selector, hselector, hn, pos⟩

theorem unset_iff : Unset score path key rules ↔
    ∀ rule ∈ rules, ∀ n, rule.Scores score path n → rule.style.get? key = none := by
  constructor
  · intro unset rule hrule n scores
    rw [Option.eq_none_iff_forall_ne_some]
    intro value hvalue
    obtain ⟨s, -, sets⟩ := scores.exists_sets hvalue
    exact unset rule hrule s value sets
  · intro none rule hrule s value sets
    obtain ⟨n, -, scores⟩ := sets.exists_scores
    have absent := none rule hrule n scores
    rw [sets.value_eq] at absent
    contradiction

theorem Sets.le_iff {other : Rule} {s s' : Score} {v v' : Text} {m : WithBot (WithTop Int)}
    (h : rule.Sets score path key s v) (h' : other.Sets score path key s' v')
    (hn : s.number? = some n) (hm : s'.number? = some m) : s'.bits ≤ s.bits ↔ m ≤ n :=
  Score.bits_le_iff h'.isMatch h.isMatch hm hn

theorem topmost_of_highest (h : Highest score path key rules value) :
    Topmost score path key rules value := by
  obtain ⟨i, rule, n, hi, scores, hvalue, above⟩ := h
  obtain ⟨inside, hrule⟩ := List.getElem?_eq_some_iff.1 hi
  obtain ⟨s, hs, sets⟩ := scores.exists_sets hvalue
  have split : rules = rules.take i ++ rule :: rules.drop (i + 1) := by
    rw [← hrule, List.getElem_cons_drop, List.take_append_drop]
  have ranked : ∀ j other s' v, rules[j]? = some other → other.Sets score path key s' v →
      ∃ m, s'.number? = some m ∧ (m < n ∨ m = n ∧ j ≤ i) := by
    intro j other s' v hj hother
    obtain ⟨m, hm, scores'⟩ := hother.exists_scores
    exact ⟨m, hm, above j other m hj scores' ((Dict.contains_iff _ _).2 ⟨v, hother.value_eq⟩)⟩
  refine ⟨_, rule, _, s, split, sets, fun other hother s' v hv => ?_, fun other hother s' v hv => ?_⟩
  · obtain ⟨j, hj, rfl⟩ := List.mem_take_iff_getElem.1 hother
    obtain ⟨m, hm, rank⟩ := ranked _ _ s' v (List.getElem?_eq_getElem _) hv
    exact (sets.le_iff hv hs hm).2 (rank.elim le_of_lt fun same => le_of_eq same.1)
  · obtain ⟨j, hj, rfl⟩ := List.mem_drop_iff_getElem.1 hother
    obtain ⟨m, hm, rank⟩ := ranked _ _ s' v (List.getElem?_eq_getElem _) hv
    have less : m < n := rank.resolve_right fun same => by omega
    exact UInt64.not_le.1 fun le => not_le.2 less ((hv.le_iff sets hm hs).1 le)

theorem highest_of_topmost (h : Topmost score path key rules value) :
    Highest score path key rules value := by
  obtain ⟨before, rule, after, s, rfl, sets, earlier, later⟩ := h
  obtain ⟨n, hs, scores⟩ := sets.exists_scores
  refine ⟨before.length, rule, n, by simp, scores, sets.value_eq, fun j other m hj scores' hother => ?_⟩
  obtain ⟨v, hv⟩ := (Dict.contains_iff _ _).1 hother
  obtain ⟨s', hs', sets'⟩ := scores'.exists_sets hv
  rcases Nat.lt_trichotomy j before.length with first | rfl | last
  · have inside : other ∈ before := by
      rw [List.getElem?_append_left first] at hj
      exact List.mem_of_getElem? hj
    have le := (sets.le_iff sets' hs hs').1 (earlier other inside s' v sets')
    exact (lt_or_eq_of_le le).imp_right fun same => ⟨same, Nat.le_of_lt first⟩
  · have same : other = rule := by simpa using hj.symm
    subst same
    rw [sets.score_unique sets', hs, Option.some_inj] at hs'
    exact .inr ⟨hs'.symm, Nat.le_refl _⟩
  · have inside : other ∈ after := by
      obtain ⟨k, hk⟩ := Nat.exists_eq_add_of_lt last
      rw [hk, List.getElem?_append_right (by omega)] at hj
      have place : before.length + k + 1 - before.length = k + 1 := by omega
      rw [place, List.getElem?_cons_succ] at hj
      exact List.mem_of_getElem? hj
    have less := later other inside s' v sets'
    exact .inl (not_le.1 fun le => UInt64.not_le.2 less ((sets'.le_iff sets hs' hs).2 le))

end Rule

/-- Each attribute of the result is that of the rule which ranks highest, or else of the style below,
and rules that are silent make no difference. -/
theorem accumulate_ranked (score : Scorer) (path : Text) (rules : List Rule) (base : Style) :
    (∀ key,
      (∀ value, Rule.Highest score path key rules value →
        (accumulate score path rules base).get? key = some value) ∧
      ((∀ rule ∈ rules, ∀ n, rule.Scores score path n → rule.style.get? key = none) →
        (accumulate score path rules base).get? key = base.get? key) ∧
      ((∃ value, Rule.Highest score path key rules value) ∨
        ∀ rule ∈ rules, ∀ n, rule.Scores score path n → rule.style.get? key = none) ∧
      ((accumulate score path rules base).contains key = true ↔
        (∃ value, Rule.Highest score path key rules value) ∨ base.contains key = true)) ∧
    ∀ before rule after, rules = before ++ rule :: after → rule.Silent score path →
      accumulate score path rules base = accumulate score path (before ++ after) base := by
  refine ⟨fun key => ?_, fun before rule after split silent => ?_⟩
  · have highest : ∀ value, Rule.Highest score path key rules value →
        (accumulate score path rules base).get? key = some value :=
      fun value h => get?_accumulate_of_topmost (Rule.topmost_of_highest h) base
    have unset : (∀ rule ∈ rules, ∀ n, rule.Scores score path n → rule.style.get? key = none) →
        (accumulate score path rules base).get? key = base.get? key :=
      fun none => get?_accumulate_of_unset (Rule.unset_iff.2 none) base
    have ways : (∃ value, Rule.Highest score path key rules value) ∨
        ∀ rule ∈ rules, ∀ n, rule.Scores score path n → rule.style.get? key = none :=
      (Rule.topmost_or_unset score path key rules).imp
        (fun ⟨value, top⟩ => ⟨value, Rule.highest_of_topmost top⟩) Rule.unset_iff.1
    refine ⟨highest, unset, ways, ?_⟩
    rw [Dict.contains_iff, Dict.contains_iff]
    constructor
    · rintro ⟨value, hvalue⟩
      exact ways.imp_right fun none => ⟨value, unset none ▸ hvalue⟩
    · rintro (⟨value, h⟩ | ⟨value, hbase⟩)
      · exact ⟨value, highest value h⟩
      · rcases ways with ⟨value', h⟩ | none
        · exact ⟨value', highest value' h⟩
        · exact ⟨value, (unset none).trans hbase⟩
  · have same : rankedRules score path rules = rankedRules score path (before ++ after) := by
      rw [rankedRules, rankedRules, split, List.filterMap_append, List.filterMap_cons,
        silent.scored?_eq_none, List.filterMap_append]
    rw [accumulate, accumulate, same]

namespace Sample

def setting (selector : Option Text) (value : Char) : Rule :=
  ⟨selector, Dict.empty.insert ['k'] [value]⟩

def contenders : List Rule :=
  [setting (some ['n']) '1', setting (some ['a']) '2', setting (some ['b']) '3', setting none '4',
    setting (some ['m']) '5', setting (some ['z']) '6']

def contenderScore : Scorer := fun _ selector =>
  if selector = ['n'] then ⟨0x7FF8000000000000⟩
  else if selector = ['m'] then ⟨0xBFF0000000000000⟩
  else if selector = ['z'] then ⟨0x8000000000000000⟩
  else ⟨0x3FF0000000000000⟩

theorem highest_contenders :
    Rule.Highest contenderScore ['s'] ['k'] contenders ['3'] := by
  refine Rule.highest_of_topmost ⟨[setting (some ['n']) '1', setting (some ['a']) '2'],
    setting (some ['b']) '3', [setting none '4', setting (some ['m']) '5', setting (some ['z']) '6'],
    ⟨0x3FF0000000000000⟩, rfl, ⟨⟨['b'], rfl, by decide⟩, by decide, by decide +kernel⟩, ?_, ?_⟩
  · simp only [List.mem_cons, List.not_mem_nil, or_false, forall_eq_or_imp, forall_eq]
    refine ⟨fun s v h => ?_, fun s v h => ?_⟩
    · have isMatch := h.isMatch
      obtain ⟨_, hselector, rfl⟩ := h.scored
      cases hselector
      exact absurd isMatch (by decide)
    · obtain ⟨_, hselector, rfl⟩ := h.scored
      cases hselector
      decide
  · simp only [List.mem_cons, List.not_mem_nil, or_false, forall_eq_or_imp, forall_eq]
    refine ⟨fun s v h => ?_, fun s v h => ?_, fun s v h => ?_⟩ <;>
      obtain ⟨_, hselector, rfl⟩ := h.scored <;> cases hselector
    · exact absurd h.isMatch (by decide)
    · exact absurd h.isMatch (by decide)

end Sample

theorem accumulate_ranked_sample :
    Rule.Highest Sample.contenderScore ['s'] ['k'] Sample.contenders ['3'] ∧
      (accumulate Sample.contenderScore ['s'] Sample.contenders Dict.empty).get? ['k'] = some ['3'] ∧
      (Sample.setting (some ['n']) '1').Silent Sample.contenderScore ['s'] ∧
      accumulate Sample.contenderScore ['s'] Sample.contenders Dict.empty =
        accumulate Sample.contenderScore ['s'] Sample.contenders.tail Dict.empty := by
  have nan : (Sample.setting (some ['n']) '1').Silent Sample.contenderScore ['s'] :=
    .notANumber rfl (by decide)
  obtain ⟨values, silent⟩ :=
    accumulate_ranked Sample.contenderScore ['s'] Sample.contenders Dict.empty
  exact ⟨Sample.highest_contenders, (values ['k']).1 _ Sample.highest_contenders, nan,
    silent [] _ _ rfl nan⟩

end SchemeCheck
