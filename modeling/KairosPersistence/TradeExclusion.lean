import KairosPersistence.TradeInvariants

/-!
What no two trades share: a risk decision, the order that enters it, a client
identifier of an account and, while both are open, the symbol of an account.
-/

namespace KairosPersistence.TradeLifecycle

open Relation

section Rows

/-- Two rows as the indexes of the table keep them apart. -/
structure TradeRow.Apart (r r' : TradeRow) : Prop where
  decision : r.riskDecisionId ≠ r'.riskDecisionId
  entry : r.entryClientOrderId ≠ r'.entryClientOrderId
  symbol : r.Open → r'.Open → ¬r.SameSymbol r'.toTradeIdentity
  clients : r.environment = r'.environment → r.accountId = r'.accountId → r.exchange = r'.exchange →
    ∀ name ∈ clientIdentifiers, ∀ value ∈ r.identifiers name, r'.identifiers name ≠ some value

variable {r r' : TradeRow}

theorem TradeRow.Apart.symm (h : r.Apart r') : r'.Apart r where
  decision := h.decision.symm
  entry := h.entry.symm
  symbol hopen hopen' hsame := h.symbol hopen' hopen ⟨hsame.1.symm, hsame.2.1.symm, hsame.2.2.symm⟩
  clients henvironment haccount hexchange name hname value hvalue hother :=
    h.clients henvironment.symm haccount.symm hexchange.symm name hname value hother hvalue

theorem TradeRow.Apart.touched (h : r.Apart r') (lastReconciledAt : Option PythonText.Timestamp)
    (reconciliationDetail : Option String) (nextExecutionEventSeq : ℕ) :
    (r.touched lastReconciledAt reconciliationDetail nextExecutionEventSeq).Apart r' :=
  ⟨h.decision, h.entry, h.symbol, h.clients⟩

/-- A transition opens no trade, and takes no client identifier that is in use. -/
theorem TradeRow.Apart.advanced {request : TransitionRequest} {progress : TradeProgress} {t : TradeTables} (h : r.Apart r')
    (hprogresses : r.Progresses request progress) (hfree : t.ClientIdsFree (r.advanced request progress))
    (hr' : r' ∈ t.trades) (hne : r'.tradeId ≠ r.tradeId) : (r.advanced request progress).Apart r' where
  decision := h.decision
  entry := h.entry
  symbol _ hopen' := h.symbol (terminal_left hprogresses.allowed) hopen'
  clients henvironment haccount hexchange :=
    hfree r' hr' hne henvironment.symm haccount.symm hexchange.symm

end Rows

section Tables

/-- Any two trades are apart. -/
def TradeTables.Apart (t : TradeTables) : Prop :=
  ∀ r ∈ t.trades, ∀ r' ∈ t.trades, r.tradeId ≠ r'.tradeId → r.Apart r'

variable {contracts : ExecutionContracts} {legacy : Prop} {stored : ModelDump → Prop} {s t t' : TradeTables} {row : TradeRow}

theorem TradeTables.Apart.update (h : t.Apart) (hrow : ∀ r ∈ t.trades, r.tradeId ≠ row.tradeId → row.Apart r)
    (ht : t'.trades = (t.update row).trades) : t'.Apart := by
  intro r hr r' hr' hne
  rw [ht] at hr hr'
  rcases mem_update_cases hr with rfl | ⟨hmem, hother⟩
  · rcases mem_update_cases hr' with rfl | ⟨hmem', hother'⟩
    · exact absurd rfl hne
    · exact hrow r' hmem' hother'
  · rcases mem_update_cases hr' with rfl | ⟨hmem', -⟩
    · exact (hrow r hmem hother).symm
    · exact h r hmem r' hmem' hne

theorem TradeTables.Apart.touch (h : t.Apart) {r : TradeRow} (hr : t.trade r.tradeId = some r)
    (lastReconciledAt : Option PythonText.Timestamp) (reconciliationDetail : Option String) (nextExecutionEventSeq : ℕ)
    (ht : t'.trades = (t.update (r.touched lastReconciledAt reconciliationDetail nextExecutionEventSeq)).trades) :
    t'.Apart := by
  apply @TradeTables.Apart.update t t' (r.touched lastReconciledAt reconciliationDetail nextExecutionEventSeq) h _ ht
  intro r' hr' hne
  exact (h r (trade_mem hr).1 r' hr' hne.symm).touched lastReconciledAt reconciliationDetail nextExecutionEventSeq

theorem TradeTables.Apart.insert (h : t.Apart) (hrow : ∀ r ∈ t.trades, r.Apart row) (ht : t'.trades = row :: t.trades) :
    t'.Apart := by
  intro r hr r' hr' hne
  rw [ht] at hr hr'
  rcases List.mem_cons.mp hr with rfl | hmem
  · rcases List.mem_cons.mp hr' with rfl | hmem'
    · exact absurd rfl hne
    · exact (hrow r' hmem').symm
  · rcases List.mem_cons.mp hr' with rfl | hmem'
    · exact hrow r hmem
    · exact h r hmem r' hmem' hne

end Tables

end KairosPersistence.TradeLifecycle
