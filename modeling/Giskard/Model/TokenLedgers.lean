import Mathlib
import Giskard.Foundation.Text
import Giskard.Model.ThreadMetadata

/-!
# Daily token ledgers

Usage that turns report is added up per day and per model. Totals per month and per week are derived
from the days, in the order of their dates.

A slice of a date that does not end at a character boundary ends the program; `none` stands for
that. The week of a date is a parameter.

SOURCE: crates/giskard-core/src/token.rs:46-176.
-/

set_option autoImplicit false

namespace Giskard

open Foundation

/-- Usage by a text. -/
abbrev UsageTable := Finmap fun _ : String => TokenUsage

/-- Add usage to an entry (`entry(key).or_default().add(usage)`). -/
def UsageTable.bump (table : UsageTable) (key : String) (usage : TokenUsage) : UsageTable :=
  Finmap.insert key (((table.lookup key).getD .zero).add usage) table

/-- SOURCE: token.rs:99-110. -/
structure DailyTokenLedger where
  total : TokenUsage
  byDay : UsageTable
  byModel : ByModel
  unattributed : TokenUsage
  deriving DecidableEq

namespace DailyTokenLedger

/-- SOURCE: token.rs:99 `Default`. -/
def empty : DailyTokenLedger := ⟨.zero, ∅, ∅, .zero⟩

/-- SOURCE: token.rs:113-117. -/
def record (ledger : DailyTokenLedger) (date provider model : String) (usage : TokenUsage) :
    DailyTokenLedger :=
  { ledger with
    total := ledger.total.add usage
    byDay := UsageTable.bump ledger.byDay date usage
    byModel := ByModel.record ledger.byModel provider model usage }

/-- SOURCE: token.rs:119-123. -/
def recordUnattributed (ledger : DailyTokenLedger) (date : String) (usage : TokenUsage) :
    DailyTokenLedger :=
  { ledger with
    total := ledger.total.add usage
    byDay := UsageTable.bump ledger.byDay date usage
    unattributed := ledger.unattributed.add usage }

/-- The days in the order of their dates. -/
def days (ledger : DailyTokenLedger) : List (String × TokenUsage) :=
  (ledger.byDay.keys.sort (· ≤ ·)).map fun date => (date, (ledger.byDay.lookup date).getD .zero)

/-- The days added up by a key of their dates. -/
def regroup (key : String → Option String) (days : List (String × TokenUsage)) :
    Option UsageTable :=
  days.foldlM (fun totals day => (key day.1).map fun group => UsageTable.bump totals group day.2) ∅

/-- SOURCE: token.rs:129-138. -/
def weeklyTotals (weekKey : String → String) (ledger : DailyTokenLedger) : Option UsageTable :=
  regroup (fun date => some (weekKey date)) ledger.days

/-- The first seven bytes of a date (`&date[..7]`). -/
def monthOf (date : String) : Option String :=
  if isCharBoundary date.toList 7 then some (String.ofList (takeBytes date.toList 7)) else none

/-- SOURCE: token.rs:141-148. -/
def monthlyTotals (ledger : DailyTokenLedger) : Option UsageTable := regroup monthOf ledger.days

/-- SOURCE: token.rs:151-153. -/
def dayTotal (ledger : DailyTokenLedger) (date : String) : TokenUsage :=
  (ledger.byDay.lookup date).getD .zero

/-- SOURCE: token.rs:156-164. -/
def monthTotal (ledger : DailyTokenLedger) (ym : String) : TokenUsage :=
  ledger.days.foldl
    (fun total day => if ym.toList.isPrefixOf day.1.toList then total.add day.2 else total) .zero

end DailyTokenLedger

/-! ## Calls -/

/-- A call that records usage, of a model or without one. -/
structure UsageCall where
  date : String
  model : Option (String × String)
  usage : TokenUsage

def TokenLedger.apply (ledger : TokenLedger) (call : UsageCall) : TokenLedger :=
  match call.model with
  | some (provider, model) => ledger.record provider model call.usage
  | none => ledger.recordUnattributed call.usage

/-- SOURCE: ledger.rs:198-201, 223-226. -/
def DailyTokenLedger.apply (ledger : DailyTokenLedger) (call : UsageCall) : DailyTokenLedger :=
  match call.model with
  | some (provider, model) => ledger.record call.date provider model call.usage
  | none => ledger.recordUnattributed call.date call.usage

end Giskard
