import HermesToken.Payment.Withdrawal
import Mathlib.Data.List.Sort
import Mathlib.Data.Prod.Lex

/-!
# The fee rules of withdrawals

`model/user_withdrawal_setting.go`: which lists of rules are accepted, and the
smallest amount that is advertised for them. A rule covers the amounts above
its minimum up to its maximum; a maximum of zero is none.
-/

namespace HermesToken.Payment

open Lib List

variable {a b rule : WithdrawalFeeRule} {rules normalized : List WithdrawalFeeRule}
  {amount x : ℚ}

/-! ## Accepted rules -/

/-- The type that a text of the configuration names. -/
def WithdrawalFeeType.ofString (name : String) : WithdrawalFeeType :=
  if name = "fixed" then .fixed else if name = "ratio" then .ratio else .other name

/-- The type that the text names without the space around it. -/
def WithdrawalFeeType.trimmed : WithdrawalFeeType → WithdrawalFeeType
  | .fixed => .fixed
  | .ratio => .ratio
  | .other name => .ofString (trimSpace name)

def checkWithdrawalFeeRule (rule : WithdrawalFeeRule) : Except String Unit := do
  require (0 ≤ rule.minAmount) "invalid withdrawal fee rule min amount"
  require (0 ≤ rule.maxAmount) "invalid withdrawal fee rule max amount"
  require (¬ (rule.maxAmount > 0 ∧ rule.maxAmount ≤ rule.minAmount))
    "invalid withdrawal fee rule range"
  require (rule.feeType.trimmed = .fixed ∨ rule.feeType.trimmed = .ratio)
    "invalid withdrawal fee type"
  require (0 ≤ rule.feeValue) "invalid withdrawal fee value"
  require (¬ (rule.feeType.trimmed = .ratio ∧ rule.feeValue > 100))
    "invalid withdrawal ratio fee value"
  require (0 ≤ rule.minFee ∧ 0 ≤ rule.maxFee) "invalid withdrawal fee clamp"

def withdrawalFeeRuleLess (a b : WithdrawalFeeRule) : Bool :=
  if a.sortOrder = b.sortOrder then
    if a.minAmount = b.minAmount then a.maxAmount < b.maxAmount else a.minAmount < b.minAmount
  else a.sortOrder < b.sortOrder

/-- The comparison of neighbours after the sort. -/
def checkOverlap : List WithdrawalFeeRule → Except String Unit
  | prev :: current :: rest => do
    require (prev.maxAmount ≠ 0) "withdrawal fee rules overlap"
    require (prev.maxAmount ≤ current.minAmount) "withdrawal fee rules overlap"
    checkOverlap (current :: rest)
  | _ => .ok ()

def normalizeWithdrawalFeeRules (rules : List WithdrawalFeeRule) :
    Except String (List WithdrawalFeeRule) := do
  let enabled := rules.filter (·.enabled)
  forM enabled checkWithdrawalFeeRule
  let normalized := enabled.insertionSort fun a b => !withdrawalFeeRuleLess b a
  checkOverlap normalized
  return normalized

/-- `unmarshal` decodes the JSON of the option. -/
def parseWithdrawalFeeRules (unmarshal : String → Except String (List WithdrawalFeeRule))
    (raw : String) : Except String (List WithdrawalFeeRule) := do
  let trimmed := trimSpace raw
  if trimmed = "" then return []
  let rules ← unmarshal trimmed
  normalizeWithdrawalFeeRules rules

/-- What the checks establish of a rule. -/
structure SaneRule (rule : WithdrawalFeeRule) : Prop where
  minAmount : 0 ≤ rule.minAmount
  range : 0 < rule.maxAmount → rule.minAmount < rule.maxAmount
  maxAmount : 0 ≤ rule.maxAmount
  feeType : rule.feeType.trimmed = .fixed ∨ rule.feeType.trimmed = .ratio
  feeValue : 0 ≤ rule.feeValue

theorem checkWithdrawalFeeRule_ok (h : checkWithdrawalFeeRule rule = .ok ()) : SaneRule rule := by
  obtain ⟨hmin, h⟩ := require_seq_ok.mp h
  obtain ⟨hmax, h⟩ := require_seq_ok.mp h
  obtain ⟨hrng, h⟩ := require_seq_ok.mp h
  obtain ⟨htype, h⟩ := require_seq_ok.mp h
  obtain ⟨hval, h⟩ := require_seq_ok.mp h
  exact ⟨hmin, fun hpos => not_le.mp fun hle => hrng ⟨hpos, hle⟩, hmax, htype, hval⟩

theorem forM_ok_iff {f : WithdrawalFeeRule → Except String Unit} :
    forM rules f = .ok () ↔ ∀ rule ∈ rules, f rule = .ok () := by
  induction rules with
  | nil => simp [pure, Except.pure]
  | cons _ _ ih =>
    rw [forM_cons, seq_ok, forall_mem_cons, ← ih]
    exact ⟨fun ⟨_, hrule, h⟩ => ⟨hrule, h⟩, fun ⟨hrule, h⟩ => ⟨_, hrule, h⟩⟩

/-- All amounts of `a` are below those of `b`. -/
structure Precedes (a b : WithdrawalFeeRule) : Prop where
  left : SaneRule a
  right : SaneRule b
  bounded : a.maxAmount ≠ 0
  le : a.maxAmount ≤ b.minAmount

theorem SaneRule.minAmount_lt (h : SaneRule rule) (hne : rule.maxAmount ≠ 0) :
    rule.minAmount < rule.maxAmount :=
  h.range (lt_of_le_of_ne h.maxAmount hne.symm)

instance : IsTrans WithdrawalFeeRule Precedes where
  trans _ _ _ hab hbc :=
    ⟨hab.left, hbc.right, hab.bounded,
      hab.le.trans ((hbc.left.minAmount_lt hbc.bounded).le.trans hbc.le)⟩

/-- The neighbours that were compared put all rules in order. -/
theorem checkOverlap_ok (hsane : ∀ rule ∈ rules, SaneRule rule)
    (h : checkOverlap rules = .ok ()) : rules.Pairwise Precedes := by
  refine isChain_iff_pairwise.mp ?_
  induction rules with
  | nil => exact .nil
  | cons prev rules ih =>
  cases rules with
  | nil => exact .singleton prev
  | cons current rest =>
    obtain ⟨hne, h⟩ := require_seq_ok.mp h
    obtain ⟨hle, h⟩ := require_seq_ok.mp h
    have hrest := fun rule hmem => hsane rule (mem_cons_of_mem _ hmem)
    exact .cons_cons ⟨hsane prev (by simp), hrest current (by simp), hne, hle⟩ (ih hrest h)

theorem matchesRule_iff : withdrawalAmountMatchesRule x rule ↔
    rule.minAmount < x ∧ (0 < rule.maxAmount → x ≤ rule.maxAmount) := by
  simp [withdrawalAmountMatchesRule, or_iff_not_imp_left]

def WithdrawalFeeRule.key (rule : WithdrawalFeeRule) : ℤ ×ₗ ℚ ×ₗ ℚ :=
  toLex (rule.sortOrder, toLex (rule.minAmount, rule.maxAmount))

theorem not_withdrawalFeeRuleLess : (!withdrawalFeeRuleLess b a) ↔ a.key ≤ b.key := by
  rw [← not_lt, WithdrawalFeeRule.key, WithdrawalFeeRule.key, Prod.Lex.toLex_lt_toLex,
    Prod.Lex.toLex_lt_toLex, withdrawalFeeRuleLess]
  grind

/-- The list that is accepted: sorted, the amounts of its rules in order. -/
structure Normalized (rules normalized : List WithdrawalFeeRule) : Prop where
  perm : normalized.Perm (rules.filter (·.enabled))
  checked : ∀ rule ∈ normalized, checkWithdrawalFeeRule rule = .ok ()
  sorted : normalized.Pairwise fun a b => a.key ≤ b.key
  overlap : checkOverlap normalized = .ok ()
  apart : normalized.Pairwise Precedes

theorem insertionSort_sorted :
    (rules.insertionSort fun a b => !withdrawalFeeRuleLess b a).Pairwise
      fun a b => a.key ≤ b.key := by
  have htotal : Std.Total fun a b => (!withdrawalFeeRuleLess b a) :=
    ⟨fun a b => (le_total a.key b.key).imp not_withdrawalFeeRuleLess.mpr
      not_withdrawalFeeRuleLess.mpr⟩
  have htrans : IsTrans _ fun a b => (!withdrawalFeeRuleLess b a) :=
    ⟨fun a b c hab hbc => not_withdrawalFeeRuleLess.mpr
      ((not_withdrawalFeeRuleLess.mp hab).trans (not_withdrawalFeeRuleLess.mp hbc))⟩
  exact (pairwise_insertionSort _ rules).imp not_withdrawalFeeRuleLess.mp

theorem normalizeRules_ok (h : normalizeWithdrawalFeeRules rules = .ok normalized) :
    Normalized rules normalized := by
  obtain ⟨_, hcheck, h⟩ := seq_ok.mp h
  obtain ⟨_, hlap, h⟩ := seq_ok.mp h
  obtain rfl := return_ok.mp h
  have hperm := perm_insertionSort (fun a b => !withdrawalFeeRuleLess b a)
    (rules.filter (·.enabled))
  have hchk := fun rule hrule => forM_ok_iff.mp hcheck rule (hperm.mem_iff.mp hrule)
  exact ⟨hperm, hchk, insertionSort_sorted, hlap,
    checkOverlap_ok (fun rule hrule => checkWithdrawalFeeRule_ok (hchk rule hrule)) hlap⟩

namespace Normalized

variable (h : Normalized rules normalized)

include h

theorem sane (hrule : rule ∈ normalized) : SaneRule rule :=
  checkWithdrawalFeeRule_ok (h.checked rule hrule)

theorem eq_of_key_eq (ha : a ∈ normalized) (hb : b ∈ normalized) (hkey : a.key = b.key) :
    a = b := by
  by_contra hne
  have hkeys : a.minAmount = b.minAmount := congrArg (fun k => (ofLex (ofLex k).2).1) hkey
  have hsymm : Std.Symm fun a b => Precedes a b ∨ Precedes b a := ⟨fun _ _ => Or.symm⟩
  have hapart := h.apart.imp (S := fun a b => Precedes a b ∨ Precedes b a) .inl
  obtain hab | hba := hapart.forall ha hb hne
  · exact absurd hab.le (by rw [← hkeys]; exact not_le.mpr (hab.left.minAmount_lt hab.bounded))
  · exact absurd hba.le (by rw [hkeys]; exact not_le.mpr (hba.left.minAmount_lt hba.bounded))

theorem of_perm (hperm : rules'.Perm rules) :
    normalizeWithdrawalFeeRules rules' = .ok normalized := by
  have hfilter := h.perm.trans (hperm.symm.filter _)
  have hsort := perm_insertionSort (fun a b => !withdrawalFeeRuleLess b a)
    (rules'.filter (·.enabled))
  have heq : (rules'.filter (·.enabled)).insertionSort _ = normalized :=
    (hsort.trans hfilter.symm).eq_of_pairwise (fun a b ha hb hab hba =>
      h.eq_of_key_eq ((hsort.trans hfilter.symm).mem_iff.mp ha) hb (le_antisymm hab hba))
      insertionSort_sorted h.sorted
  refine seq_ok.mpr ⟨(), forM_ok_iff.mpr fun rule hrule =>
    h.checked rule (hfilter.mem_iff.mpr hrule), ?_⟩
  simp only [heq]
  exact seq_ok.mpr ⟨(), h.overlap, rfl⟩

theorem matching_length (amount : ℚ) :
    (normalized.filter (withdrawalAmountMatchesRule amount)).length ≤ 1 := by
  have hapart := h.apart.filter (withdrawalAmountMatchesRule amount)
  match hl : normalized.filter (withdrawalAmountMatchesRule amount) with
  | [] | [_] => simp
  | a :: b :: rest =>
    rw [hl] at hapart
    have hab : Precedes a b := (pairwise_cons.mp hapart).1 b (by simp)
    have ha := of_mem_filter (hl ▸ mem_cons_self : a ∈ _)
    have hb := of_mem_filter (hl ▸ mem_cons_of_mem _ mem_cons_self : b ∈ _)
    have hpos := lt_of_le_of_ne hab.left.maxAmount hab.bounded.symm
    rw [matchesRule_iff] at ha hb
    exact absurd hb.1 (not_lt.mpr ((ha.2 hpos).trans hab.le))

end Normalized

theorem calculateFee_filter :
    calculateWithdrawalFeeAmount amount (rules.filter (withdrawalAmountMatchesRule amount))
      = calculateWithdrawalFeeAmount amount rules := by
  induction rules with
  | nil => rfl
  | cons rule _ ih =>
    by_cases hm : withdrawalAmountMatchesRule amount rule
    · simp only [filter_cons_of_pos hm, calculateWithdrawalFeeAmount, hm, if_true]
    · rw [filter_cons_of_neg hm, ih, calculateWithdrawalFeeAmount, if_neg hm]

theorem Normalized.calculate_perm (h : Normalized rules normalized)
    (hperm : listed.Perm normalized) (amount : ℚ) :
    calculateWithdrawalFeeAmount amount listed
      = calculateWithdrawalFeeAmount amount normalized := by
  have hfilter := hperm.filter (withdrawalAmountMatchesRule amount)
  have heq : listed.filter (withdrawalAmountMatchesRule amount)
      = normalized.filter (withdrawalAmountMatchesRule amount) := by
    have hlen := h.matching_length amount
    match hl : normalized.filter (withdrawalAmountMatchesRule amount) with
    | [] => exact (hl ▸ hfilter).eq_nil
    | [rule] => exact perm_singleton.mp (hl ▸ hfilter)
    | _ :: _ :: _ => simp [hl] at hlen
  rw [← calculateFee_filter, heq, calculateFee_filter]

/-- Of the rules that are accepted at most one matches an amount. In any other
order they are accepted as the same list, and the enabled ones give the same
fee as they stand. -/
theorem fee_rules_unambiguous (h : normalizeWithdrawalFeeRules rules = .ok normalized)
    (amount : ℚ) :
    (rules.filter fun rule =>
      rule.enabled && withdrawalAmountMatchesRule amount rule).length ≤ 1 ∧
    ∀ configured : List WithdrawalFeeRule, configured.Perm rules →
      normalizeWithdrawalFeeRules configured = .ok normalized ∧
      calculateWithdrawalFeeAmount amount (configured.filter (·.enabled))
        = calculateWithdrawalFeeAmount amount normalized := by
  have hn := normalizeRules_ok h
  constructor
  · have hlen := (hn.perm.filter (withdrawalAmountMatchesRule amount)).length_eq
    rw [filter_filter] at hlen
    have hle := hn.matching_length amount
    simp only [Bool.and_comm] at hlen ⊢
    exact hlen ▸ hle
  · intro configured hperm
    exact ⟨hn.of_perm hperm, hn.calculate_perm ((hperm.filter _).trans hn.perm.symm) amount⟩

def sampleFeeRule : WithdrawalFeeRule where
  minAmount := 0
  maxAmount := 100
  feeType := .ratio
  feeValue := 10
  minFee := 2
  maxFee := 5
  enabled := true

/-- The amounts above those of `sampleFeeRule`. -/
def upperFeeRule : WithdrawalFeeRule :=
  { sampleFeeRule with minAmount := 100, maxAmount := 0, feeType := .fixed }

theorem fee_rules_unambiguous_sample : ([upperFeeRule, sampleFeeRule].filter fun rule =>
      rule.enabled && withdrawalAmountMatchesRule 50 rule).length ≤ 1 ∧
    ∀ configured : List WithdrawalFeeRule, configured.Perm [upperFeeRule, sampleFeeRule] →
      normalizeWithdrawalFeeRules configured = .ok [sampleFeeRule, upperFeeRule] ∧
      calculateWithdrawalFeeAmount 50 (configured.filter (·.enabled))
        = calculateWithdrawalFeeAmount 50 [sampleFeeRule, upperFeeRule] :=
  fee_rules_unambiguous (by decide +kernel) 50

/-! ## The fee of an accepted rule -/

/-- The largest fee is applied last: of clamps in the wrong order it wins. -/
theorem ratioFee_clamped :
    (0 < rule.minFee → rule.minFee ≤ ratioFee amount rule ∨
      0 < rule.maxFee ∧ ratioFee amount rule = rule.maxFee) ∧
    (0 < rule.maxFee → ratioFee amount rule ≤ rule.maxFee) := by
  unfold ratioFee
  grind

theorem SaneRule.ratioFee_nonneg (h : SaneRule rule) (hamount : 0 ≤ amount) :
    0 ≤ ratioFee amount rule := by
  have hfee : 0 ≤ divDecimal (amount * rule.feeValue) 100 :=
    roundTo_nonneg (div_nonneg (mul_nonneg hamount h.feeValue) (by norm_num)) 16
  unfold ratioFee
  grind

theorem parseWithdrawalFeeRules_ok (h : parseWithdrawalFeeRules unmarshal raw = .ok normalized) :
    ∃ rules, Normalized rules normalized := by
  unfold parseWithdrawalFeeRules at h
  dsimp only at h
  split at h
  · obtain rfl := return_ok.mp h
    exact ⟨[], normalizeRules_ok rfl⟩
  · obtain ⟨rules, _, h⟩ := seq_ok.mp h
    exact ⟨rules, normalizeRules_ok h⟩

theorem Normalized.calculate_eq (h : Normalized rules normalized) (hrule : rule ∈ normalized)
    (hm : withdrawalAmountMatchesRule amount rule) :
    calculateWithdrawalFeeAmount amount normalized
      = calculateWithdrawalFeeAmount amount [rule] := by
  have hmem := mem_filter.mpr ⟨hrule, hm⟩
  have hlen := h.matching_length amount
  rw [← calculateFee_filter]
  match hl : normalized.filter (withdrawalAmountMatchesRule amount) with
  | [] => simp [hl] at hmem
  | [other] => rw [hl, mem_singleton] at hmem; rw [hmem]
  | _ :: _ :: _ => simp [hl] at hlen

/-- **The rule that matches an amount gives a fee within its clamps** exactly when
its type is written without space around it and its clamps, in cents, are in
order. -/
theorem fee_within_clamps (unmarshal : String → Except String (List WithdrawalFeeRule))
    (raw : String) (h : parseWithdrawalFeeRules unmarshal raw = .ok normalized)
    (hrule : rule ∈ normalized) (hm : withdrawalAmountMatchesRule amount rule) :
    (∃ fee, calculateWithdrawalFeeAmount amount normalized = .ok (some (rule, fee)) ∧
      (rule.feeType = .ratio → 0 < rule.minFee → roundTo rule.minFee 2 ≤ fee) ∧
      (rule.feeType = .ratio → 0 < rule.maxFee → fee ≤ roundTo rule.maxFee 2)) ↔
    rule.feeType = .fixed ∨ rule.feeType = .ratio ∧
      (0 < rule.minFee → 0 < rule.maxFee → roundTo rule.minFee 2 ≤ roundTo rule.maxFee 2) := by
  obtain ⟨rules, hn⟩ := parseWithdrawalFeeRules_ok h
  have hsane := hn.sane hrule
  rw [hn.calculate_eq hrule hm, calculateWithdrawalFeeAmount, if_pos hm]
  cases hf : rule.feeType with
  | fixed => exact ⟨fun _ => .inl rfl, fun _ => ⟨_, rfl, nofun, nofun⟩⟩
  | other => exact ⟨nofun, nofun⟩
  | ratio =>
    have hfee := hsane.ratioFee_nonneg (hsane.minAmount.trans (matchesRule_iff.mp hm).1.le)
    obtain ⟨hlow, hhigh⟩ := @ratioFee_clamped rule amount
    constructor
    · rintro ⟨fee, -, hlow, hhigh⟩
      exact .inr ⟨rfl, fun hmin hmax => (hlow rfl hmin).trans (hhigh rfl hmax)⟩
    · rintro (hfixed | ⟨-, hclamp⟩)
      · cases hfixed
      refine ⟨_, rfl, fun _ hmin => ?_, fun _ hmax => roundTo_mono hfee (hhigh hmax) 2⟩
      obtain hle | ⟨hmax, heq⟩ := hlow hmin
      · exact roundTo_mono hmin.le hle 2
      · exact heq ▸ hclamp hmin hmax

theorem fee_within_clamps_sample :
    (∃ fee, calculateWithdrawalFeeAmount 50 [sampleFeeRule, upperFeeRule]
        = .ok (some (sampleFeeRule, fee)) ∧
      (sampleFeeRule.feeType = .ratio → 0 < sampleFeeRule.minFee →
        roundTo sampleFeeRule.minFee 2 ≤ fee) ∧
      (sampleFeeRule.feeType = .ratio → 0 < sampleFeeRule.maxFee →
        fee ≤ roundTo sampleFeeRule.maxFee 2)) :=
  (fee_within_clamps (fun _ => .ok [upperFeeRule, sampleFeeRule]) "[...]" (by decide +kernel)
    mem_cons_self (by decide +kernel)).mpr (.inr ⟨rfl, by decide +kernel⟩)

/-- A type with space around it is accepted and then fails; a smallest fee above
the largest is accepted and then not met. -/
theorem accepted_rules_fail :
    parseWithdrawalFeeRules (fun _ => .ok [{ sampleFeeRule with feeType := .other " ratio " }]) "[]"
      = .ok [{ sampleFeeRule with feeType := .other " ratio " }] ∧
    calculateWithdrawalFeeAmount 50 [{ sampleFeeRule with feeType := .other " ratio " }]
      = .error "invalid withdrawal fee type" ∧
    parseWithdrawalFeeRules (fun _ => .ok [{ sampleFeeRule with minFee := 8 }]) "[]"
      = .ok [{ sampleFeeRule with minFee := 8 }] ∧
    calculateWithdrawalFeeAmount 50 [{ sampleFeeRule with minFee := 8 }]
      = .ok (some ({ sampleFeeRule with minFee := 8 }, 5)) := by
  decide +kernel

/-! ## The advertised minimum -/

/-- The smallest amount that the loop takes for a rule. -/
def candidateAmount (baseAmount : ℚ) (rule : WithdrawalFeeRule) : ℚ :=
  let ruleMinAmount := roundTo rule.minAmount 2
  if baseAmount > ruleMinAmount then baseAmount else ruleMinAmount + 1 / 100

/-- A round of the loop. -/
def improveCandidate (baseAmount : ℚ) (best : Option ℚ) (rule : WithdrawalFeeRule) : Option ℚ :=
  let candidate := candidateAmount baseAmount rule
  if withdrawalAmountMatchesRule candidate rule then
    match best with
    | none => some candidate
    | some bestCandidate => if candidate < bestCandidate then some candidate else best
  else best

/-- No rule leaves no candidate. -/
def normalizeWithdrawalMinAmount (minAmount : ℚ) (rules : List WithdrawalFeeRule) : ℚ :=
  let baseAmount := roundTo minAmount 2
  match rules.foldl (improveCandidate baseAmount) none with
  | none => baseAmount
  | some bestCandidate => roundTo bestCandidate 2

/-- The loop finds the least of the candidates that match their rule. -/
theorem foldl_improveCandidate (base : ℚ) (rules : List WithdrawalFeeRule) (best : Option ℚ) :
    rules.foldl (improveCandidate base) best = (best.toList ++
      (rules.filter fun rule => withdrawalAmountMatchesRule (candidateAmount base rule) rule).map
        (candidateAmount base)).min? := by
  induction rules generalizing best with
  | nil => cases best <;> simp
  | cons rule _ ih =>
  rw [foldl_cons, ih]
  by_cases hm : withdrawalAmountMatchesRule (candidateAmount base rule) rule
  · cases best with
    | none => simp [improveCandidate, hm]
    | some best =>
      have hmin : improveCandidate base (some best) rule
          = some (min best (candidateAmount base rule)) := by
        rw [min_comm, min_def_lt, apply_ite some]
        simp [improveCandidate, hm]
      simp only [hmin, filter_cons, hm, if_true]
      rfl
  · simp [improveCandidate, hm]

/-- The amounts in whole cents from `base` on that match one of the rules. -/
def payableAmounts (base : ℚ) (rules : List WithdrawalFeeRule) : Set ℚ :=
  { x | (∃ k : Nat, x = k / 100) ∧ base ≤ x ∧
    ∃ rule ∈ rules, withdrawalAmountMatchesRule x rule }

/-- The minimum of the rule is rounded up to an amount that can be withdrawn. The
candidate, one cent above it, is then too high. -/
def RoundedUp (base : ℚ) (rule : WithdrawalFeeRule) : Prop :=
  base ≤ roundTo rule.minAmount 2 ∧ withdrawalAmountMatchesRule (roundTo rule.minAmount 2) rule

instance : Decidable (RoundedUp base rule) := inferInstanceAs (Decidable (_ ∧ _))

/-- The candidate is an amount in whole cents, above the minimum of the rule. -/
theorem candidateAmount_cents (hmin : 0 ≤ rule.minAmount) (j : Nat) :
    (∃ k : Nat, candidateAmount (j / 100) rule = k / 100) ∧
      j / 100 ≤ candidateAmount (j / 100) rule ∧
      rule.minAmount < candidateAmount (j / 100) rule := by
  obtain ⟨i, hi⟩ := roundTo_eq_natCast_div hmin 2
  have hlt := lt_roundTo_add hmin 2
  unfold candidateAmount
  rw [hi] at hlt ⊢
  norm_num at hlt ⊢
  split
  · rename_i hbase
    have hij : (i : ℚ) + 1 ≤ j := by
      have : (i : ℚ) < j := by linarith
      exact_mod_cast (by exact_mod_cast this : i < j)
    exact ⟨⟨j, rfl⟩, le_refl _, by linarith⟩
  · exact ⟨⟨i + 1, by push_cast; ring⟩, by linarith, hlt⟩

/-- An amount that matches the rule is not below the candidate, or it is the
minimum that was rounded up. -/
theorem candidateAmount_le (hmin : 0 ≤ rule.minAmount) {j k : Nat} (hbase : (j : ℚ) / 100 ≤ k / 100)
    (hm : withdrawalAmountMatchesRule (k / 100) rule) :
    candidateAmount (j / 100) rule ≤ k / 100 ∨
      RoundedUp (j / 100) rule ∧ roundTo rule.minAmount 2 ≤ k / 100 := by
  obtain ⟨i, hi⟩ := roundTo_eq_natCast_div hmin 2
  norm_num at hi
  by_cases hlow : (j : ℚ) / 100 > roundTo rule.minAmount 2
  · exact .inl (by rwa [candidateAmount, if_pos hlow])
  rw [candidateAmount, if_neg hlow]
  rw [matchesRule_iff] at hm
  obtain hlt | hge := lt_or_ge rule.minAmount (roundTo rule.minAmount 2)
  -- a rounded value is half a cent off, and so is the next one below it
  · have hik : roundTo rule.minAmount 2 ≤ k / 100 := by
      have hhalf := roundTo_le_add_half hmin 2
      rw [hi] at hhalf ⊢
      norm_num at hhalf
      have : (i : ℚ) < k + 1 := by linarith [hm.1]
      have : i < k + 1 := by exact_mod_cast this
      gcongr
      omega
    exact .inr ⟨⟨not_lt.mp hlow, matchesRule_iff.mpr ⟨hlt, fun h => hik.trans (hm.2 h)⟩⟩, hik⟩
  · rw [hi] at hge ⊢
    have : (i : ℚ) < k := by linarith [hm.1]
    have : (i : ℚ) + 1 ≤ k := by exact_mod_cast (by exact_mod_cast this : i < k)
    exact .inl (by linarith)

theorem Normalized.rule_unique (h : Normalized rules normalized) (ha : a ∈ normalized)
    (hb : b ∈ normalized) (hma : withdrawalAmountMatchesRule x a)
    (hmb : withdrawalAmountMatchesRule x b) : a = b := by
  have hlen := h.matching_length x
  have ha := mem_filter.mpr ⟨ha, hma⟩
  have hb := mem_filter.mpr ⟨hb, hmb⟩
  match hl : normalized.filter (withdrawalAmountMatchesRule x) with
  | [] => simp [hl] at ha
  | [rule] => rw [hl, mem_singleton] at ha hb; rw [ha, hb]
  | _ :: _ :: _ => simp [hl] at hlen

theorem payableAmounts_exists_least (h : (payableAmounts base rules).Nonempty) :
    ∃ k : Nat, IsLeast (payableAmounts base rules) (k / 100) := by
  classical
  have hex : ∃ k : Nat, (k / 100 : ℚ) ∈ payableAmounts base rules := by
    obtain ⟨x, hx⟩ := h
    obtain ⟨k, rfl⟩ := hx.1
    exact ⟨k, hx⟩
  refine ⟨Nat.find hex, Nat.find_spec hex, fun x hx => ?_⟩
  obtain ⟨k, rfl⟩ := hx.1
  have := Nat.find_min' hex hx
  gcongr

/-- The loop has no candidate, or it finds the least one that matches its rule. -/
theorem normalizeMinAmount_cases (hn : Normalized rules normalized) {j : Nat}
    (hj : roundTo minAmount 2 = j / 100) :
    (normalizeWithdrawalMinAmount minAmount normalized = j / 100 ∧
      ∀ rule ∈ normalized, ¬ withdrawalAmountMatchesRule (candidateAmount (j / 100) rule) rule) ∨
    ∃ rule ∈ normalized, withdrawalAmountMatchesRule (candidateAmount (j / 100) rule) rule ∧
      normalizeWithdrawalMinAmount minAmount normalized = candidateAmount (j / 100) rule ∧
      ∀ other ∈ normalized, withdrawalAmountMatchesRule (candidateAmount (j / 100) other) other →
        candidateAmount (j / 100) rule ≤ candidateAmount (j / 100) other := by
  have hfold := foldl_improveCandidate (j / 100) normalized none
  unfold normalizeWithdrawalMinAmount
  dsimp only
  rw [hj]
  cases hbest : normalized.foldl (improveCandidate (j / 100)) none with
  | none =>
    rw [hbest] at hfold
    obtain ⟨-, hnil⟩ := append_eq_nil_iff.mp (min?_eq_none_iff.mp hfold.symm)
    refine .inl ⟨rfl, fun rule hrule hm => ?_⟩
    simp [filter_eq_nil_iff.mp (map_eq_nil_iff.mp hnil) rule hrule] at hm
  | some =>
    rw [hbest] at hfold
    obtain ⟨hmem, hle⟩ := min?_eq_some_iff.mp hfold.symm
    obtain ⟨rule, hrule, rfl⟩ := mem_map.mp hmem
    obtain ⟨hrule, hm⟩ := mem_filter.mp hrule
    obtain ⟨⟨k, hk⟩, -, -⟩ := candidateAmount_cents (hn.sane hrule).minAmount j
    have hcents := roundTo_natCast_div k 2
    norm_num at hcents
    refine .inr ⟨rule, hrule, hm, by simp only [hk, hcents], fun other hother hmo => ?_⟩
    exact hle _ (mem_map_of_mem (mem_filter.mpr ⟨hother, hmo⟩))

/-- **The advertised minimum is the least amount that can be withdrawn** exactly
when this holds of each rule whose minimum is rounded up to an amount that can
be withdrawn: a lower amount can be, too, or it is the configured minimum and no
rule has an amount one cent above its rounded minimum. -/
theorem advertised_minimum_least {minAmount : ℚ}
    (h : normalizeWithdrawalFeeRules rules = .ok normalized) (hmin : 0 ≤ minAmount)
    (hsome : (payableAmounts (roundTo minAmount 2) normalized).Nonempty) :
    let base := roundTo minAmount 2
    IsLeast (payableAmounts base normalized) (normalizeWithdrawalMinAmount minAmount normalized) ↔
      ∀ rule ∈ normalized, RoundedUp base rule →
        (∃ x ∈ payableAmounts base normalized, x < roundTo rule.minAmount 2) ∨
        base = roundTo rule.minAmount 2 ∧ ∀ other ∈ normalized,
          base ≤ roundTo other.minAmount 2 →
            ¬ withdrawalAmountMatchesRule (roundTo other.minAmount 2 + 1 / 100) other := by
  intro base
  have hn := normalizeRules_ok h
  obtain ⟨j, hj⟩ := roundTo_eq_natCast_div hmin 2
  norm_num at hj
  simp only [base, hj] at hsome ⊢
  have hcases := normalizeMinAmount_cases hn hj
  constructor
  · intro hleast rule hrule hup
    by_contra! hcon
    obtain ⟨hlow, hcorner⟩ := hcon
    obtain ⟨i, hi⟩ := roundTo_eq_natCast_div (hn.sane hrule).minAmount 2
    norm_num at hi
    -- the rounded minimum is the least amount itself
    have heq := le_antisymm (hleast.2 ⟨⟨i, hi⟩, hup.1, rule, hrule, hup.2⟩) (hlow _ hleast.1)
    obtain ⟨hbase, hnone⟩ | ⟨found, hfound, hm, hval, -⟩ := hcases
    · obtain ⟨other, hother, hle, hmo⟩ := hcorner (hbase.symm.trans heq)
      refine hnone other hother ?_
      rwa [candidateAmount, if_neg (not_lt.mpr hle)]
    · rw [hval] at heq
      obtain rfl := hn.rule_unique hfound hrule hm (heq ▸ hup.2)
      rw [candidateAmount, if_neg (not_lt.mpr hup.1)] at heq
      linarith
  · intro hcond
    obtain ⟨k, hk⟩ := payableAmounts_exists_least hsome
    obtain ⟨-, hbase, rule, hrule, hm⟩ := hk.1
    obtain hle | ⟨hup, hge⟩ := candidateAmount_le (hn.sane hrule).minAmount hbase hm
    · have hmc : withdrawalAmountMatchesRule (candidateAmount (j / 100) rule) rule :=
        matchesRule_iff.mpr ⟨(candidateAmount_cents (hn.sane hrule).minAmount j).2.2,
          fun h => hle.trans ((matchesRule_iff.mp hm).2 h)⟩
      obtain ⟨-, hnone⟩ | ⟨found, hfound, hmf, hval, hleast⟩ := hcases
      · exact absurd hmc (hnone rule hrule)
      · obtain ⟨hcents, hlow, -⟩ := candidateAmount_cents (hn.sane hfound).minAmount j
        rw [hval]
        exact ⟨⟨hcents, hlow, found, hfound, hmf⟩,
          fun x hx => ((hleast rule hrule hmc).trans hle).trans (hk.2 hx)⟩
    obtain ⟨x, hx, hlt⟩ | ⟨heq, hcorner⟩ := hcond rule hrule hup
    · linarith [hk.2 hx]
    -- the configured minimum is the least amount, and the loop finds no candidate
    have hval : (k : ℚ) / 100 = j / 100 :=
      le_antisymm (hk.2 ⟨⟨j, rfl⟩, le_refl _, rule, hrule, heq ▸ hup.2⟩) hbase
    obtain ⟨hbest, -⟩ | ⟨found, hfound, hmf, -, -⟩ := hcases
    · rw [hbest]
      exact hval ▸ hk
    simp only [candidateAmount] at hmf
    split at hmf
    · obtain rfl := hn.rule_unique hfound hrule hmf (heq ▸ hup.2)
      linarith
    · rename_i hlow
      exact absurd hmf (hcorner found hfound (not_lt.mp hlow))

theorem advertised_minimum_least_sample :
    IsLeast (payableAmounts (roundTo 1 2) [sampleFeeRule, upperFeeRule])
      (normalizeWithdrawalMinAmount 1 [sampleFeeRule, upperFeeRule]) := by
  have h : normalizeWithdrawalFeeRules [upperFeeRule, sampleFeeRule] =
    .ok [sampleFeeRule, upperFeeRule] := by decide +kernel
  have hnone : ∀ rule ∈ [sampleFeeRule, upperFeeRule], ¬ RoundedUp (roundTo 1 2) rule := by
    decide +kernel
  exact (advertised_minimum_least h (by decide) ⟨1, ⟨100, by norm_num⟩, by decide +kernel, _,
    mem_cons_self, by decide +kernel⟩).mpr fun rule hrule hup => absurd hup (hnone rule hrule)

/-- A minimum of 10.006 is rounded to 10.01, and 10.02 is advertised where 10.01
can be withdrawn. -/
theorem advertised_minimum_too_high :
    normalizeWithdrawalFeeRules [{ sampleFeeRule with minAmount := 10006 / 1000 }]
      = .ok [{ sampleFeeRule with minAmount := 10006 / 1000 }] ∧
    1001 / 100 ∈ payableAmounts (roundTo 1 2) [{ sampleFeeRule with minAmount := 10006 / 1000 }] ∧
    normalizeWithdrawalMinAmount 1 [{ sampleFeeRule with minAmount := 10006 / 1000 }]
      = 1002 / 100 :=
  ⟨by decide +kernel, ⟨⟨1001, by norm_num⟩, by decide +kernel, _, mem_cons_self,
    by decide +kernel⟩, by decide +kernel⟩

end HermesToken.Payment
