import Mathlib.Data.List.Sort
import Mathlib.Data.List.Nodup
import Mathlib.Data.Prod.Lex
import Mathlib.Algebra.Order.Ring.Int

/-!
# The best of the matching rules

Rules with a priority and an identity are sorted by falling priority and then by identity. Those of
the highest priority among the ones that match are the first and all that share its priority.
`choose_sole` and `choose_tied` say without a sort what there is to choose from;
`sortedBy_perm` and `filter_sortedBy_cons` say what the sort does not depend on.
-/

namespace DpostV2

section
variable {ρ κ : Type} [LinearOrder κ]

/-- What rules are sorted by. -/
structure Ranking (ρ κ : Type) where
  priority : ρ → Int
  ident : ρ → κ

variable (ranking : Ranking ρ κ)

def Ranking.key (rule : ρ) : Int ×ₗ κ := toLex (-ranking.priority rule, ranking.ident rule)

def sortedBy (rules : List ρ) : List ρ :=
  rules.mergeSort fun rule rule' => decide (ranking.key rule ≤ ranking.key rule')

/-- The first of sorted rules and all that share its priority. -/
def topOf : List ρ → List ρ
  | [] => []
  | first :: rest =>
    (first :: rest).filter fun rule => ranking.priority rule = ranking.priority first

inductive Choice (ρ : Type) where
  | nothing
  | sole (rule : ρ)
  | tied

def choose (matching : List ρ) : Choice ρ :=
  match topOf ranking matching with
  | [] => .nothing
  | [rule] => .sole rule
  | _ => .tied

/-- No other rule has the priority of this one, and none a higher one. -/
def Sole (matching : List ρ) (rule : ρ) : Prop :=
  rule ∈ matching ∧ ∀ rule' ∈ matching, rule' ≠ rule →
    ranking.priority rule' < ranking.priority rule

/-- Two rules share the highest priority. -/
def Tied (matching : List ρ) : Prop :=
  ∃ rule ∈ matching, ∃ rule' ∈ matching, rule ≠ rule' ∧
    ranking.priority rule = ranking.priority rule' ∧
      ∀ other ∈ matching, ranking.priority other ≤ ranking.priority rule

variable {ranking}

theorem Ranking.priority_of_key {rule rule' : ρ} (h : ranking.key rule ≤ ranking.key rule') :
    ranking.priority rule' ≤ ranking.priority rule := by
  rcases Prod.Lex.toLex_le_toLex.mp h with hlt | ⟨heq, -⟩
  · exact (neg_lt_neg_iff.mp hlt).le
  · exact (neg_injective heq).ge

omit [LinearOrder κ] in
theorem Ranking.ident_of_key {rule rule' : ρ} (h : ranking.key rule = ranking.key rule') :
    ranking.ident rule = ranking.ident rule' :=
  congrArg (fun key => (ofLex key).2) h

theorem sortedBy_pairwise (rules : List ρ) :
    (sortedBy ranking rules).Pairwise fun rule rule' => ranking.key rule ≤ ranking.key rule' := by
  refine (List.pairwise_mergeSort (fun a b c hab hbc => ?_) (fun a b => ?_) rules).imp
    fun h => of_decide_eq_true h
  · simp only [decide_eq_true_eq] at *
    exact hab.trans hbc
  · simpa using le_total _ _

theorem sortedBy_perm_self (rules : List ρ) : (sortedBy ranking rules).Perm rules :=
  List.mergeSort_perm _ _

-- ---------------------------------------------------------------------------
-- What the sort does not depend on
-- ---------------------------------------------------------------------------

omit [LinearOrder κ] in
theorem key_injOn {rules : List ρ} (h : (rules.map ranking.ident).Nodup) {rule rule' : ρ}
    (hrule : rule ∈ rules) (hrule' : rule' ∈ rules) (hkey : ranking.key rule = ranking.key rule') :
    rule = rule' :=
  List.inj_on_of_nodup_map h hrule hrule' (ranking.ident_of_key hkey)

/-- Sorted lists of the same rules are equal. -/
theorem eq_of_sorted {rules sorted sorted' : List ρ} (h : (rules.map ranking.ident).Nodup)
    (hmem : ∀ rule ∈ sorted, rule ∈ rules) (hperm : sorted.Perm sorted')
    (hsorted : sorted.Pairwise fun rule rule' => ranking.key rule ≤ ranking.key rule')
    (hsorted' : sorted'.Pairwise fun rule rule' => ranking.key rule ≤ ranking.key rule') :
    sorted = sorted' := by
  refine hperm.eq_of_pairwise (fun rule rule' hrule hrule' hle hge => ?_) hsorted hsorted'
  exact key_injOn h (hmem _ hrule) (hmem _ (hperm.mem_iff.mpr hrule')) (le_antisymm hle hge)

theorem sortedBy_perm {rules rules' : List ρ} (h : (rules.map ranking.ident).Nodup)
    (hperm : rules.Perm rules') : sortedBy ranking rules = sortedBy ranking rules' := by
  refine eq_of_sorted h (fun rule hrule => (sortedBy_perm_self rules).mem_iff.mp hrule) ?_
    (sortedBy_pairwise rules) (sortedBy_pairwise rules')
  exact ((sortedBy_perm_self rules).trans hperm).trans (sortedBy_perm_self rules').symm

/-- A rule that does not match makes no difference to those that do. -/
theorem filter_sortedBy_cons {rules : List ρ} {rule : ρ} {matched : ρ → Bool}
    (h : ((rule :: rules).map ranking.ident).Nodup) (hrule : matched rule = false) :
    (sortedBy ranking (rule :: rules)).filter matched =
      (sortedBy ranking rules).filter matched := by
  refine eq_of_sorted h (fun r hr => ?_) ?_ ((sortedBy_pairwise _).filter _)
    ((sortedBy_pairwise _).filter _)
  · exact (sortedBy_perm_self _).mem_iff.mp (List.mem_of_mem_filter hr)
  · refine ((sortedBy_perm_self (rule :: rules)).filter matched).trans ?_
    rw [List.filter_cons_of_neg (by simp [hrule])]
    exact ((sortedBy_perm_self rules).filter matched).symm

-- ---------------------------------------------------------------------------
-- The choice
-- ---------------------------------------------------------------------------

omit [LinearOrder κ] in
theorem topOf_sublist (ranking : Ranking ρ κ) (matching : List ρ) :
    (topOf ranking matching).Sublist matching := by
  cases matching with
  | nil => exact List.Sublist.refl _
  | cons first rest => exact List.filter_sublist

omit [LinearOrder κ] in
theorem topOf_eq_nil {matching : List ρ} : topOf ranking matching = [] ↔ matching = [] := by
  cases matching with
  | nil => simp [topOf]
  | cons first rest => simp [topOf]

section
variable {matching : List ρ}
  (hsorted : matching.Pairwise fun rule rule' => ranking.key rule ≤ ranking.key rule')
include hsorted

theorem mem_topOf (rule : ρ) :
    rule ∈ topOf ranking matching ↔ rule ∈ matching ∧
      ∀ other ∈ matching, ranking.priority other ≤ ranking.priority rule := by
  cases matching with
  | nil => simp [topOf]
  | cons first rest =>
    have hfirst : ∀ other ∈ first :: rest, ranking.priority other ≤ ranking.priority first := by
      intro other hother
      rcases List.mem_cons.mp hother with rfl | hother
      · exact le_rfl
      · exact ranking.priority_of_key ((List.pairwise_cons.mp hsorted).1 other hother)
    simp only [topOf, List.mem_filter, decide_eq_true_eq]
    refine and_congr_right fun hrule => ⟨fun heq other hother => heq ▸ hfirst other hother, ?_⟩
    exact fun h => le_antisymm (hfirst rule hrule) (h first List.mem_cons_self)

theorem topOf_eq_singleton (hnodup : matching.Nodup) (rule : ρ) :
    topOf ranking matching = [rule] ↔ Sole ranking matching rule := by
  have hmem := mem_topOf hsorted
  constructor
  · intro h
    simp only [h, List.mem_singleton] at hmem
    obtain ⟨hrule, hmax⟩ := (hmem rule).mp rfl
    refine ⟨hrule, fun other hother hne => (hmax other hother).lt_of_ne fun heq => hne ?_⟩
    exact (hmem other).mpr ⟨hother, fun r hr => heq ▸ hmax r hr⟩
  · intro ⟨hrule, hless⟩
    have hnodup' := hnodup.sublist (topOf_sublist ranking matching)
    refine List.perm_singleton.mp
      ((List.perm_ext_iff_of_nodup hnodup' (List.nodup_singleton rule)).mpr fun other => ?_)
    rw [hmem, List.mem_singleton]
    constructor
    · intro ⟨hother, hmax⟩
      by_contra hne
      exact absurd (hmax rule hrule) (hless other hother hne).not_ge
    · rintro rfl
      refine ⟨hrule, fun r hr => ?_⟩
      by_cases heq : r = other
      · exact heq ▸ le_rfl
      · exact (hless r hr heq).le

theorem topOf_tied (hnodup : matching.Nodup) :
    (∃ rule rule' rest, topOf ranking matching = rule :: rule' :: rest) ↔
      Tied ranking matching := by
  have hmem := mem_topOf hsorted
  constructor
  · rintro ⟨rule, rule', rest, h⟩
    have hrule := (hmem rule).mp (by simp [h])
    have hrule' := (hmem rule').mp (by simp [h])
    have hnodup' := hnodup.sublist (topOf_sublist ranking matching)
    have hne : rule ≠ rule' := by
      rw [h] at hnodup'
      exact fun heq => (List.nodup_cons.mp hnodup').1 (heq ▸ List.mem_cons_self)
    exact ⟨rule, hrule.1, rule', hrule'.1, hne,
      le_antisymm (hrule'.2 rule hrule.1) (hrule.2 rule' hrule'.1), hrule.2⟩
  · rintro ⟨rule, hrule, rule', hrule', hne, heq, hmax⟩
    have hin := (hmem rule).mpr ⟨hrule, hmax⟩
    have hin' := (hmem rule').mpr ⟨hrule', fun r hr => heq ▸ hmax r hr⟩
    match htop : topOf ranking matching with
    | [] => rw [htop] at hin; exact absurd hin List.not_mem_nil
    | [only] =>
      rw [htop, List.mem_singleton] at hin hin'
      exact absurd (hin.trans hin'.symm) hne
    | first :: second :: rest => exact ⟨first, second, rest, rfl⟩

omit hsorted [LinearOrder κ] in
theorem choose_nothing : choose ranking matching = .nothing ↔ matching = [] := by
  rw [← @topOf_eq_nil ρ κ ranking matching, choose]
  split <;> simp_all

theorem choose_sole (hnodup : matching.Nodup) (rule : ρ) :
    choose ranking matching = .sole rule ↔ Sole ranking matching rule := by
  rw [← topOf_eq_singleton hsorted hnodup, choose]
  split <;> simp_all

theorem choose_tied (hnodup : matching.Nodup) :
    choose ranking matching = .tied ↔ Tied ranking matching := by
  rw [← topOf_tied hsorted hnodup, choose]
  split
  · next h => simp [h]
  · next h => simp [h]
  · next hnil hone =>
    refine iff_of_true rfl ?_
    match h : topOf ranking matching with
    | [] => exact absurd h hnil
    | [rule] => exact absurd h (hone rule)
    | rule :: rule' :: rest => exact ⟨rule, rule', rest, rfl⟩

end

section
variable {matching matching' : List ρ} (h : ∀ rule, rule ∈ matching ↔ rule ∈ matching')
include h

omit [LinearOrder κ]

theorem sole_congr (rule : ρ) : Sole ranking matching rule ↔ Sole ranking matching' rule := by
  simp only [Sole, h]

theorem tied_congr : Tied ranking matching ↔ Tied ranking matching' := by
  simp only [Tied, h]

end

end

end DpostV2
