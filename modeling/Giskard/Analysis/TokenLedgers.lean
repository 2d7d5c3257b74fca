import Mathlib
import Giskard.Foundation.Buckets
import Giskard.Model.TokenLedgers

/-!
# Token ledgers balance

A call adds its usage to the total, to the bucket of its day and either to the bucket of its model
or to the usage without one. While the counts of the calls fit in 64 bits, no addition wraps, so
each aggregate has the counts of the calls. The tables by month regroup the days.
-/

set_option autoImplicit false

namespace Giskard

open Foundation Foundation.Buckets

/-- The three counts of a usage. -/
inductive TokenKind where
  | input
  | output
  | total

/-- A count of a usage. -/
def TokenUsage.count (kind : TokenKind) (usage : TokenUsage) : ℕ :=
  match kind with
  | .input => usage.input.toNat
  | .output => usage.output.toNat
  | .total => usage.total.toNat

namespace Analysis

variable {kind : TokenKind} {usage other : TokenUsage} {calls : List UsageCall}

/-! ## Adding usage -/

@[simp] theorem count_zero : TokenUsage.zero.count kind = 0 := by
  cases kind <;> rfl

theorem count_add (fits : usage.count kind + other.count kind < 2 ^ 64) :
    (usage.add other).count kind = usage.count kind + other.count kind := by
  cases kind
  · exact (UInt64.toNat_add _ _).trans (Nat.mod_eq_of_lt fits)
  · exact (UInt64.toNat_add _ _).trans (Nat.mod_eq_of_lt fits)
  · exact (UInt64.toNat_add _ _).trans (Nat.mod_eq_of_lt fits)

theorem usage_add_right_comm (usage one two : TokenUsage) :
    (usage.add one).add two = (usage.add two).add one := by
  have swap (a b c : UInt64) : a + b + c = a + c + b := by
    rw [UInt64.add_assoc, UInt64.add_comm b, ← UInt64.add_assoc]
  unfold TokenUsage.add
  dsimp only
  rw [swap usage.input, swap usage.output, swap usage.total]

/-! ## Tables -/

/-- The sum of a count over a table. -/
def tableCount (kind : TokenKind) (table : UsageTable) : ℕ :=
  weigh (TokenUsage.count kind) .zero table

/-- The sum of a count over the models. -/
def modelCount (kind : TokenKind) (byModel : ByModel) : ℕ := weigh (tableCount kind) ∅ byModel

theorem bump_eq (table : UsageTable) (key : String) :
    UsageTable.bump table key usage = modify table .zero key fun old => old.add usage := rfl

theorem record_eq (byModel : ByModel) (provider model : String) :
    ByModel.record byModel provider model usage =
      modify byModel ∅ provider fun models => UsageTable.bump models model usage := rfl

theorem tableCount_bump {table : UsageTable} {key : String}
    (fits : tableCount kind table + usage.count kind < 2 ^ 64) :
    tableCount kind (UsageTable.bump table key usage) =
      tableCount kind table + usage.count kind := by
  unfold tableCount at fits ⊢
  rw [bump_eq]
  apply weigh_modify count_zero
  apply count_add
  have one := @weight_le_weigh _ _ _ table .zero (TokenUsage.count kind) count_zero key
  omega

theorem modelCount_record {byModel : ByModel} {provider model : String}
    (fits : modelCount kind byModel + usage.count kind < 2 ^ 64) :
    modelCount kind (ByModel.record byModel provider model usage) =
      modelCount kind byModel + usage.count kind := by
  have blank : tableCount kind ∅ = 0 := weigh_empty
  unfold modelCount at fits ⊢
  rw [record_eq]
  apply weigh_modify blank
  apply tableCount_bump
  have one := @weight_le_weigh _ _ _ byModel ∅ (tableCount kind) blank provider
  omega

theorem bump_comm (table : UsageTable) (key key' : String) :
    UsageTable.bump (UsageTable.bump table key usage) key' other =
      UsageTable.bump (UsageTable.bump table key' other) key usage := by
  rw [bump_eq, bump_eq, bump_eq, bump_eq]
  exact modify_comm fun value => usage_add_right_comm value other usage

theorem record_comm (byModel : ByModel) (provider model provider' model' : String) :
    ByModel.record (ByModel.record byModel provider model usage) provider' model' other =
      ByModel.record (ByModel.record byModel provider' model' other) provider model usage := by
  rw [record_eq, record_eq, record_eq, record_eq]
  exact modify_comm fun models => bump_comm models model' model

/-! ## Sequences of calls -/

/-- The ledger after calls. -/
def ledgerOf (calls : List UsageCall) : TokenLedger := calls.foldl TokenLedger.apply .empty

/-- The daily ledger after calls. -/
def dailyLedgerOf (calls : List UsageCall) : DailyTokenLedger :=
  calls.foldl DailyTokenLedger.apply .empty

/-- The sum of a count over calls. -/
def callCount (kind : TokenKind) (calls : List UsageCall) : ℕ :=
  (calls.map fun call => call.usage.count kind).sum

theorem callCount_concat (call : UsageCall) :
    callCount kind (calls ++ [call]) = callCount kind calls + call.usage.count kind := by
  unfold callCount
  rw [List.map_append, List.sum_append, List.map_singleton, List.sum_singleton]

/-- Each aggregate of the ledger has the counts of the calls. -/
theorem count_ledgerOf (fits : callCount kind calls < 2 ^ 64) :
    (ledgerOf calls).total.count kind = callCount kind calls ∧
      modelCount kind (ledgerOf calls).byModel + (ledgerOf calls).unattributed.count kind =
        callCount kind calls := by
  induction calls using List.reverseRecOn with
  | nil =>
    have blank : modelCount kind ∅ = 0 := weigh_empty
    refine ⟨count_zero, ?_⟩
    change modelCount kind ∅ + TokenUsage.zero.count kind = 0
    rw [blank, count_zero]
  | append_singleton calls call ih =>
    rw [callCount_concat] at fits ⊢
    obtain ⟨total, parts⟩ := ih (by omega)
    have next : ledgerOf (calls ++ [call]) = (ledgerOf calls).apply call := List.foldl_concat ..
    rw [next]
    unfold TokenLedger.apply
    split
    · refine ⟨?_, ?_⟩
      · change ((ledgerOf calls).total.add call.usage).count kind = _
        rw [count_add (by omega), total]
      · change modelCount kind (ByModel.record (ledgerOf calls).byModel _ _ call.usage) +
          (ledgerOf calls).unattributed.count kind = _
        rw [modelCount_record (by omega)]
        omega
    · refine ⟨?_, ?_⟩
      · change ((ledgerOf calls).total.add call.usage).count kind = _
        rw [count_add (by omega), total]
      · change modelCount kind (ledgerOf calls).byModel +
          ((ledgerOf calls).unattributed.add call.usage).count kind = _
        rw [count_add (by omega)]
        omega

theorem dailyLedgerOf_ledger (calls : List UsageCall) :
    (dailyLedgerOf calls).total = (ledgerOf calls).total ∧
      (dailyLedgerOf calls).byModel = (ledgerOf calls).byModel ∧
      (dailyLedgerOf calls).unattributed = (ledgerOf calls).unattributed := by
  induction calls using List.reverseRecOn with
  | nil => exact ⟨rfl, rfl, rfl⟩
  | append_singleton calls call ih =>
    obtain ⟨total, byModel, unattributed⟩ := ih
    have next : ledgerOf (calls ++ [call]) = (ledgerOf calls).apply call := List.foldl_concat ..
    have next' : dailyLedgerOf (calls ++ [call]) = (dailyLedgerOf calls).apply call :=
      List.foldl_concat ..
    rw [next, next']
    unfold TokenLedger.apply DailyTokenLedger.apply
    split
    · unfold TokenLedger.record DailyTokenLedger.record
      dsimp only
      rw [total, byModel]
      exact ⟨rfl, rfl, unattributed⟩
    · unfold TokenLedger.recordUnattributed DailyTokenLedger.recordUnattributed
      dsimp only
      rw [total, unattributed]
      exact ⟨rfl, byModel, rfl⟩

theorem byDay_concat (call : UsageCall) :
    (dailyLedgerOf (calls ++ [call])).byDay =
      UsageTable.bump (dailyLedgerOf calls).byDay call.date call.usage := by
  have next : dailyLedgerOf (calls ++ [call]) = (dailyLedgerOf calls).apply call :=
    List.foldl_concat ..
  rw [next]
  unfold DailyTokenLedger.apply
  split <;> rfl

theorem count_byDay (fits : callCount kind calls < 2 ^ 64) :
    tableCount kind (dailyLedgerOf calls).byDay = callCount kind calls := by
  induction calls using List.reverseRecOn with
  | nil => exact weigh_empty
  | append_singleton calls call ih =>
    rw [callCount_concat] at fits ⊢
    have before := ih (by omega)
    rw [byDay_concat, tableCount_bump (by omega), before]

theorem apply_right_comm (ledger : TokenLedger) (one two : UsageCall) :
    (ledger.apply one).apply two = (ledger.apply two).apply one := by
  unfold TokenLedger.apply
  have total := usage_add_right_comm ledger.total one.usage two.usage
  cases one.model with
  | none =>
    cases two.model with
    | none =>
      dsimp only [TokenLedger.recordUnattributed]
      rw [total, usage_add_right_comm ledger.unattributed]
    | some _ =>
      dsimp only [TokenLedger.recordUnattributed, TokenLedger.record]
      rw [total]
  | some _ =>
    cases two.model with
    | none =>
      dsimp only [TokenLedger.recordUnattributed, TokenLedger.record]
      rw [total]
    | some _ =>
      dsimp only [TokenLedger.record]
      rw [total, record_comm ledger.byModel]

theorem ledgerOf_perm {calls' : List UsageCall} (same : calls.Perm calls') :
    ledgerOf calls = ledgerOf calls' :=
  same.foldl_eq' (fun one _ two _ ledger => apply_right_comm ledger one two) .empty

theorem byDay_perm {calls' : List UsageCall} (same : calls.Perm calls') :
    (dailyLedgerOf calls).byDay = (dailyLedgerOf calls').byDay := by
  have fold (calls : List UsageCall) : (dailyLedgerOf calls).byDay =
      calls.foldl (fun table call => UsageTable.bump table call.date call.usage) ∅ := by
    induction calls using List.reverseRecOn with
    | nil => rfl
    | append_singleton calls call ih => rw [byDay_concat, ih, List.foldl_concat]
  rw [fold, fold]
  exact same.foldl_eq' (fun one _ two _ table => bump_comm table one.date two.date) ∅

theorem dailyLedgerOf_perm {calls' : List UsageCall} (same : calls.Perm calls') :
    dailyLedgerOf calls = dailyLedgerOf calls' := by
  have ledger := ledgerOf_perm same
  have days := byDay_perm same
  obtain ⟨total, byModel, unattributed⟩ := dailyLedgerOf_ledger calls
  obtain ⟨total', byModel', unattributed'⟩ := dailyLedgerOf_ledger calls'
  rw [← ledger] at total' byModel' unattributed'
  cases one : dailyLedgerOf calls
  cases two : dailyLedgerOf calls'
  rw [one] at days total byModel unattributed
  rw [two] at days total' byModel' unattributed'
  dsimp only at days total byModel unattributed total' byModel' unattributed'
  rw [days, total, byModel, unattributed, total', byModel', unattributed']

/-! ## Months -/

/-- A date YYYY-MM-DD. -/
def WellFormedDate (date : String) : Prop :=
  ∃ y₁ y₂ y₃ y₄ m₁ m₂ d₁ d₂ : Char, (∀ c ∈ [y₁, y₂, y₃, y₄, m₁, m₂, d₁, d₂], c.isDigit = true) ∧
    date.toList = [y₁, y₂, y₃, y₄, '-', m₁, m₂, '-', d₁, d₂]

/-- A month YYYY-MM. -/
def WellFormedMonth (ym : String) : Prop :=
  ∃ y₁ y₂ y₃ y₄ m₁ m₂ : Char, (∀ c ∈ [y₁, y₂, y₃, y₄, m₁, m₂], c.isDigit = true) ∧
    ym.toList = [y₁, y₂, y₃, y₄, '-', m₁, m₂]

theorem utf8Size_of_isDigit {c : Char} (digit : c.isDigit = true) : c.utf8Size = 1 := by
  simp only [Char.isDigit, Bool.and_eq_true, decide_eq_true_eq] at digit
  have small : c.toNat ≤ 0x7f := (UInt32.le_iff_toNat_le.1 digit.2).trans (by decide)
  exact Char.utf8Size_eq_one_iff.2 (UInt32.le_iff_toNat_le.2 small)

/-- The first seven characters of a date. -/
def monthName (date : String) : String := String.ofList (date.toList.take 7)

theorem monthOf_wellFormed {date : String} (wellFormed : WellFormedDate date) :
    DailyTokenLedger.monthOf date = some (monthName date) := by
  obtain ⟨y₁, y₂, y₃, y₄, m₁, m₂, d₁, d₂, digits, same⟩ := wellFormed
  have digit (c : Char) (member : c ∈ [y₁, y₂, y₃, y₄, m₁, m₂, d₁, d₂]) : c.utf8Size = 1 :=
    utf8Size_of_isDigit (digits c member)
  have size : byteLen [y₁, y₂, y₃, y₄, '-', m₁, m₂] = 7 := by
    simp only [byteLen_cons, byteLen_nil, digit y₁ (by simp), digit y₂ (by simp),
      digit y₃ (by simp), digit y₄ (by simp), digit m₁ (by simp), digit m₂ (by simp)]
    rfl
  have split : date.toList = [y₁, y₂, y₃, y₄, '-', m₁, m₂] ++ ['-', d₁, d₂] := same
  have first : date.toList.take 7 = [y₁, y₂, y₃, y₄, '-', m₁, m₂] := by
    rw [same]
    rfl
  unfold DailyTokenLedger.monthOf monthName
  rw [first, split, ← size, if_pos (isCharBoundary_seam _ _), takeBytes_append_byteLen]

/-- The table of the months of days. -/
def monthTable (days : List (String × TokenUsage)) : UsageTable :=
  days.foldl (fun totals day => UsageTable.bump totals (monthName day.1) day.2) ∅

theorem regroup_months {days : List (String × TokenUsage)}
    (wellFormed : ∀ day ∈ days, WellFormedDate day.1) :
    DailyTokenLedger.regroup DailyTokenLedger.monthOf days = some (monthTable days) := by
  unfold DailyTokenLedger.regroup monthTable
  generalize (∅ : UsageTable) = totals
  induction days generalizing totals with
  | nil => rfl
  | cons day days ih =>
    rw [List.foldlM_cons, monthOf_wellFormed (wellFormed day List.mem_cons_self), List.foldl_cons]
    exact ih (fun day member => wellFormed day (List.mem_cons_of_mem _ member)) _

theorem monthTable_concat (days : List (String × TokenUsage)) (day : String × TokenUsage) :
    monthTable (days ++ [day]) = UsageTable.bump (monthTable days) (monthName day.1) day.2 :=
  List.foldl_concat ..

/-- The sum of a count over days. -/
def dayCount (kind : TokenKind) (days : List (String × TokenUsage)) : ℕ :=
  (days.map fun day => day.2.count kind).sum

theorem tableCount_monthTable {days : List (String × TokenUsage)}
    (fits : dayCount kind days < 2 ^ 64) : tableCount kind (monthTable days) = dayCount kind days := by
  induction days using List.reverseRecOn with
  | nil => exact weigh_empty
  | append_singleton days day ih =>
    have next : dayCount kind (days ++ [day]) = dayCount kind days + day.2.count kind := by
      unfold dayCount
      rw [List.map_append, List.sum_append, List.map_singleton, List.sum_singleton]
    rw [next] at fits ⊢
    have before := ih (by omega)
    rw [monthTable_concat, tableCount_bump (by omega), before]

/-- A month has in the table what its days add up to. -/
theorem lookup_monthTable (days : List (String × TokenUsage)) {ym : String}
    (wellFormed : WellFormedMonth ym) :
    ((monthTable days).lookup ym).getD .zero = days.foldl
      (fun total day => if ym.toList.isPrefixOf day.1.toList then total.add day.2 else total)
      .zero := by
  have length : ym.toList.length = 7 := by
    obtain ⟨_, _, _, _, _, _, -, same⟩ := wellFormed
    rw [same]
    rfl
  have named (date : String) : ym = monthName date ↔ ym.toList.isPrefixOf date.toList = true := by
    rw [List.isPrefixOf_iff_prefix, List.prefix_iff_eq_take, length]
    unfold monthName
    constructor
    · intro same
      rw [same, String.toList_ofList]
    · intro same
      rw [← same, String.ofList_toList]
  change bucket (monthTable days) .zero ym = _
  induction days using List.reverseRecOn with
  | nil => exact bucket_empty
  | append_singleton days day ih =>
    rw [monthTable_concat, bump_eq, bucket_modify, List.foldl_concat, ← ih]
    by_cases same : ym = monthName day.1
    · rw [if_pos same, if_pos ((named day.1).1 same), ← same]
    · rw [if_neg same, if_neg fun inside => same ((named day.1).2 inside)]

theorem mem_byDay_keys {date : String} (member : date ∈ (dailyLedgerOf calls).byDay.keys) :
    ∃ call ∈ calls, call.date = date := by
  induction calls using List.reverseRecOn with
  | nil => cases member
  | append_singleton calls call ih =>
    rw [byDay_concat, bump_eq, keys_modify, Finset.mem_insert] at member
    rcases member with rfl | member
    · exact ⟨call, List.mem_append_right _ List.mem_cons_self, rfl⟩
    · obtain ⟨earlier, there, same⟩ := ih member
      exact ⟨earlier, List.mem_append_left _ there, same⟩

theorem dayCount_days (ledger : DailyTokenLedger) :
    dayCount kind ledger.days = tableCount kind ledger.byDay := by
  unfold dayCount DailyTokenLedger.days tableCount weigh
  rw [List.map_map, Finset.sum_eq_multiset_sum, ← Finset.sort_eq ledger.byDay.keys (· ≤ ·),
    Multiset.map_coe, Multiset.sum_coe]
  rfl

/-! ## The ledgers balance -/

/-- After any calls whose sums fit in 64 bits, the total of a ledger is the sum of its models and of
the usage without one, and of its days; the order of the calls does not matter; and if the dates are
well-formed, the months add up to the total and agree with the total of each month. SOURCE:
token.rs:46-176. -/
theorem token_ledgers_balance (calls : List UsageCall)
    (fits : ∀ kind, callCount kind calls < 2 ^ 64) :
    (∀ kind, (ledgerOf calls).total.count kind =
      modelCount kind (ledgerOf calls).byModel + (ledgerOf calls).unattributed.count kind) ∧
    (∀ kind, (dailyLedgerOf calls).total.count kind =
        modelCount kind (dailyLedgerOf calls).byModel +
          (dailyLedgerOf calls).unattributed.count kind ∧
      (dailyLedgerOf calls).total.count kind = tableCount kind (dailyLedgerOf calls).byDay) ∧
    (∀ calls', calls.Perm calls' →
      ledgerOf calls = ledgerOf calls' ∧ dailyLedgerOf calls = dailyLedgerOf calls') ∧
    ((∀ call ∈ calls, WellFormedDate call.date) →
      ∃ months, (dailyLedgerOf calls).monthlyTotals = some months ∧
        (∀ kind, (dailyLedgerOf calls).total.count kind = tableCount kind months) ∧
        ∀ ym, WellFormedMonth ym →
          (months.lookup ym).getD .zero = (dailyLedgerOf calls).monthTotal ym) := by
  obtain ⟨total, byModel, unattributed⟩ := dailyLedgerOf_ledger calls
  have days (kind : TokenKind) : dayCount kind (dailyLedgerOf calls).days = callCount kind calls := by
    rw [dayCount_days, count_byDay (fits kind)]
  refine ⟨?_, ?_, ?_, ?_⟩
  · intro kind
    obtain ⟨all, parts⟩ := count_ledgerOf (fits kind)
    rw [all, parts]
  · intro kind
    obtain ⟨all, parts⟩ := count_ledgerOf (fits kind)
    rw [total, byModel, unattributed, all, parts, count_byDay (fits kind)]
    exact ⟨rfl, rfl⟩
  · exact fun calls' same => ⟨ledgerOf_perm same, dailyLedgerOf_perm same⟩
  · intro wellFormed
    have dated : ∀ day ∈ (dailyLedgerOf calls).days, WellFormedDate day.1 := by
      intro day member
      obtain ⟨date, there, rfl⟩ := List.mem_map.1 member
      obtain ⟨call, inside, rfl⟩ := mem_byDay_keys ((Finset.mem_sort _).1 there)
      exact wellFormed call inside
    refine ⟨monthTable (dailyLedgerOf calls).days, regroup_months dated, ?_, ?_⟩
    · intro kind
      obtain ⟨all, -⟩ := count_ledgerOf (fits kind)
      rw [total, all, tableCount_monthTable (by rw [days]; exact fits kind), days]
    · exact fun ym month => lookup_monthTable _ month

theorem token_ledgers_balance_sample :
    (ledgerOf [⟨"2026-08-26", some ("openai", "gpt-5"), ⟨12, 3, 15⟩⟩]).total.count .total =
      modelCount .total (ledgerOf [⟨"2026-08-26", some ("openai", "gpt-5"), ⟨12, 3, 15⟩⟩]).byModel +
        (ledgerOf [⟨"2026-08-26", some ("openai", "gpt-5"), ⟨12, 3, 15⟩⟩]).unattributed.count
          .total :=
  (token_ledgers_balance _ fun kind => by cases kind <;> decide).1 .total

end Analysis

end Giskard
