import IspBss.Db.Calls

/-! What a store call can do to the database.

    `tx_effect` inverts every transaction at once: a successful call either only read, or wrote one of
    the shapes `Effect` lists. Every invariant of the services is a case analysis on it; none opens a
    transaction again.

        op ──tx──▶ ok (a, s')        Effect op s s'
                                       ├─ read         s' = s
                                       ├─ row          one subscribers row, as `RowWrite` says
                                       ├─ create       one new subscribers row
                                       ├─ recharge     two ledger legs, a balance, a journal entry
                                       ├─ invoice, commission, enqueue -/

namespace IspBss

open Lib BillingStore Tx APIStore RevenueStore Prog List AList SubscriberRow

/-! ### One row -/

/-- How a call rewrites the subscriber row with this id. -/
inductive RowWrite : Op → ℤ → SubscriberRow → SubscriberRow → Prop where
  | balance (p r n) (hn : numeric12 p.newBalance = some n) :
      RowWrite (.recordRecharge p) p.subscriberID r { r with walletBalance := n }
  | dunning (id state status r) :
      RowWrite (.setSubscriberDunningState id state status) id r
        { r with dunningState := state, status := status }
  | expiry (id expiry r) : RowWrite (.setPlanExpiry id expiry) id r { r with planExpiry := some expiry }
  | portalExpiry (id expiry r) :
      RowWrite (.portalSetPlanExpiry id expiry) id r { r with planExpiry := some expiry }
  | activate (id expiry r) (hr : r.status = .pendingPayment) :
      RowWrite (.activateSubscriber id expiry) id r
        { r with status := .active, planExpiry := some expiry }
  | update (id planID status planExpiry r st)
      (hst : st = r.status ∧ status = none ∨ ∃ text ∈ status, SubStatus.ofText text = some st) :
      RowWrite (.updateSubscriber id planID status planExpiry) id r
        { r with planID := planID.getD r.planID, status := st,
                 planExpiry := planExpiry.or r.planExpiry }
  | plan (id newPlanID newExpiry r) :
      RowWrite (.setSubscriberPlan id newPlanID newExpiry) id r
        { r with planID := newPlanID, planExpiry := some newExpiry }
  | terminate (id r) : RowWrite (.terminateSubscriber id) id r { r with status := .terminated }

/-- The table with the row of `id` replaced. -/
def DB.setRow (s : DB) (id : ℤ) (r : Subscriber) : DB :=
  { s with subscribers := s.subscribers.insert id r }

variable {s : DB}

theorem updateWhereID_ok {id : ℤ} {f : SubscriberRow → SubscriberRow} {s' : DB} {hit : Bool}
    (h : updateWhereID id f s = .ok (hit, s')) :
    (hit = false ∧ s' = s ∧ s.subscribers.lookup id = none) ∨
    (hit = true ∧ ∃ r r', s.subscribers.lookup id = some r ∧
      r'.toSubscriberRow = f r.toSubscriberRow ∧ s' = s.setRow id r') := by
  unfold updateWhereID at h
  split at h
  · rename_i hnone
    cases h
    exact .inl ⟨rfl, rfl, hnone⟩
  · rename_i r hr
    split at h
    · cases h
    · rename_i r' hr'
      cases h
      exact .inr ⟨rfl, r, r', hr, check_ok hr', rfl⟩

/-! ### The ledgers -/

section
variable {p : RechargePosting} {s s' : DB} {i accountID : ℤ} {line : GlLine} {u : Unit}

/-- The two rows a posting appends, with the amounts as the columns hold them. -/
inductive Legs (p : RechargePosting) : List WalletLedger → Prop where
  | mk (i j d c bd bc : ℤ) (hd : numeric12 p.debit.amount = some d)
      (hc : numeric12 p.credit.amount = some c) :
      Legs p [BillingStore.ledgerRow p.debit none i d bd,
        BillingStore.ledgerRow p.credit p.credit.transactionToken j c bc]

/-- What a committed posting has done: two ledger rows, the balance of one row, a journal entry. -/
inductive Posted (p : RechargePosting) (s : DB) : DB → Prop where
  | mk (s₁ : DB) (n ledgers entry rows) (hn : numeric12 p.newBalance = some n) (hlegs : Legs p rows)
      (hrows : ledgers.rows = s.walletLedgers.rows ++ rows)
      (hsub : p.credit.subscriberID ∈ s.subscribers)
      (hrow : (s₁ = s ∧ s.subscribers.lookup p.subscriberID = none) ∨
        ∃ r r', s.subscribers.lookup p.subscriberID = some r ∧
          r'.toSubscriberRow = { r.toSubscriberRow with walletBalance := n } ∧
          s₁ = s.setRow p.subscriberID r') :
      Posted p s { s₁ with walletLedgers := ledgers, glJournal := s.glJournal ++ [entry] }

/-- What a posting can write. -/
theorem Posted.frame (h : Posted p s s') : ∃ subscribers ledgers journal, s' = { s with
      subscribers := subscribers, walletLedgers := ledgers, glJournal := journal } := by
  obtain ⟨s₁, n, ledgers, entry, rows, -, -, -, -, hrow⟩ := h
  rcases hrow with ⟨rfl, -⟩ | ⟨r, r', -, -, rfl⟩
  · exact ⟨_, _, _, rfl⟩
  · exact ⟨_, _, _, rfl⟩

theorem insertLeg_ok {e : WalletEntry} {token : Option String} {id : ℤ} (h : insertLeg e token s = .ok (id, s')) :
    ∃ amount bal ledgers, numeric12 e.amount = some amount ∧ numeric12 e.balanceAfter = some bal ∧
      e.subscriberID ∈ s.subscribers ∧
      s.walletLedgers.insert (ledgerRow e token id amount bal) = some ledgers ∧
      s' = { s with walletLedgers := ledgers } := by
  simp only [insertLeg, get_bind_ok, require_bind_ok, orThrow_bind_ok,
    set_bind_ok, pure_ok, Prod.mk.injEq] at h
  obtain ⟨hsub, -, amount, hamount, bal, hbal, -, -, ledgers, hins, rfl, rfl⟩ := h
  exact ⟨amount, bal, ledgers, hamount, hbal, hsub, hins, rfl⟩

/-- Both legs of a posting. -/
theorem insertLegs_ok {s₁ s₂ : DB} {j : ℤ} (h₁ : insertLeg p.debit none s = .ok (i, s₁))
    (h₂ : insertLeg p.credit p.credit.transactionToken s₁ = .ok (j, s₂)) :
    ∃ d bd c bc ledgers, numeric12 p.debit.amount = some d ∧ numeric12 p.credit.amount = some c ∧
      numeric12 p.credit.balanceAfter = some bc ∧ p.credit.subscriberID ∈ s.subscribers ∧
      ledgers.rows = s.walletLedgers.rows ++ [ledgerRow p.debit none i d bd,
         ledgerRow p.credit p.credit.transactionToken j c bc] ∧
      s₂ = { s with walletLedgers := ledgers } := by
  obtain ⟨d, bd, l₁, hd, -, -, hins₁, rfl⟩ := insertLeg_ok h₁
  obtain ⟨c, bc, l₂, hc, hbc, hsub, hins₂, rfl⟩ := insertLeg_ok h₂
  refine ⟨d, bd, c, bc, l₂, hd, hc, hbc, hsub, ?_, rfl⟩
  rw [Indexed.rows_of_insert hins₂, Indexed.rows_of_insert hins₁, append_assoc]
  rfl

theorem glLine_ok {d c : Decimal} (h : glLine accountID d c s = .ok (line, s')) : s' = s := by
  simp only [glLine, orThrow_bind_ok, dite_throw_ok, pure_ok] at h
  obtain ⟨_, -, _, -, _, h⟩ := h
  cases h
  rfl

theorem legLine_ok {leg : GlLeg} (h : legLine accountID leg s = .ok (line, s')) : s' = s := by
  obtain ⟨code, ty, amount⟩ := leg
  cases ty with
  | debit => exact glLine_ok h
  | credit => exact glLine_ok h

theorem glLines_ok : ∀ {legs : List GlLeg} {lines : List GlLine} {s s' : DB},
    glLines legs s = .ok (lines, s') → s' = s
  | [], _, _, _, h => by
      simp only [glLines, pure_ok, Prod.mk.injEq] at h
      exact h.2
  | leg :: legs, lines, s, s', h => by
      simp only [glLines, bind_ok, glAccountID, ↓get_bind_ok, orThrow_ok, pure_ok] at h
      obtain ⟨_, s₁, ⟨-, rfl⟩, line, s₂, hline, rest, s₃, hrest, hr⟩ := h
      cases hr
      exact (glLines_ok hrest).trans (legLine_ok hline)

theorem postJournal_ok {d t c : String} {lines : List GlLine} (h : postJournal d t i c lines s = .ok (u, s')) :
    ∃ entry : GlJournalEntry, entry.lines = lines ∧ s' = { s with glJournal := s.glJournal ++ [entry] } := by
  simp only [postJournal, get_bind_ok, dite_throw_ok, set_ok, Prod.mk.injEq] at h
  obtain ⟨_, -, rfl⟩ := h
  exact ⟨_, rfl, rfl⟩

theorem postWalletGLEntry_ok (h : postWalletGLEntry p i s = .ok (u, s')) :
    ∃ entry, s' = { s with glJournal := s.glJournal ++ [entry] } := by
  rw [postWalletGLEntry, lift_bind_ok] at h
  obtain ⟨legs, -, h⟩ := h
  obtain ⟨lines, _, hlines, hpost⟩ := bind_ok.mp h
  cases glLines_ok hlines
  obtain ⟨entry, -, hentry⟩ := postJournal_ok hpost
  exact ⟨entry, hentry⟩

end

/-! ### All calls -/

section
variable {s s' : DB} {id i : ℤ} {t : Time} {u : Unit} {planID : Option ℤ} {planExpiry : Option Time}
  {q : Option Subscriber} {e : LCOCommissionEntry} {status : Option String} {inv : Invoice}

/-- What a successful call has done. -/
inductive Effect : Op → DB → DB → Prop where
  | read (op s) : Effect op s s
  | row (op s id r r') (hr : s.subscribers.lookup id = some r)
      (hw : RowWrite op id r.toSubscriberRow r'.toSubscriberRow) : Effect op s (s.setRow id r')
  | create (row sub s) (hrow : sub.toSubscriberRow = row) :
      Effect (.createSubscriber row) s (s.setRow (nextID s.subscribers) sub)
  | recharge (p s s') (h : Posted p s s') : Effect (.recordRecharge p) s s'
  | invoice (inv s row) (hsub : row.subscriberID = inv.subscriberID)
      (htotal : numeric12 inv.totalAmount = some row.totalAmount) :
      Effect (.createInvoice inv) s { s with invoices := s.invoices ++ [row] }
  | commission (e s ledger journal) :
      Effect (.storeLCOCommission e) s { s with lcoLedger := ledger, glJournal := journal }
  | enqueue (t s tasks) : Effect (.enqueue t) s { s with tasks := tasks }

theorem RecordRecharge_ok {p : RechargePosting} {tx : Transaction}
    (h : RecordRecharge p s = .ok (tx, s')) : Posted p s s' := by
  simp only [RecordRecharge, bind_ok, ↓orThrow_bind_ok, pure_ok] at h
  obtain ⟨i, s₁, h₁, j, s₂, h₂, n, hn, hit, s₃, hupd, u, s₄, hgl, hr⟩ := h
  cases hr
  obtain ⟨d, bd, c, bc, l₂, hd, hc, -, hsub, hrows, rfl⟩ := insertLegs_ok h₁ h₂
  obtain ⟨entry, rfl⟩ := postWalletGLEntry_ok hgl
  have hlegs := Legs.mk i j d c bd bc hd hc
  rcases updateWhereID_ok hupd with ⟨-, rfl, hnone⟩ | ⟨-, r, r', hr, hr', rfl⟩
  · exact Posted.mk s n l₂ entry _ hn hlegs hrows hsub (.inl ⟨rfl, hnone⟩)
  · exact Posted.mk (s.setRow p.subscriberID r') n l₂ entry _ hn hlegs hrows hsub
      (.inr ⟨r, r', hr, hr', rfl⟩)

/-- An update of one row by a call that rewrites it as `RowWrite` says. -/
theorem updateWhereID_effect {op : Op} {f : SubscriberRow → SubscriberRow}
    {hit : Bool} (h : updateWhereID id f s = .ok (hit, s'))
    (hw : ∀ r, s.subscribers.lookup id = some r →
      RowWrite op id r.toSubscriberRow (f r.toSubscriberRow)) : Effect op s s' := by
  rcases updateWhereID_ok h with ⟨-, rfl, -⟩ | ⟨-, r, r', hr, hr', rfl⟩
  · exact Effect.read op s'
  · exact Effect.row op s id r r' hr (hr' ▸ hw r hr)

theorem ActivateSubscriber_ok (h : ActivateSubscriber id t s = .ok (u, s')) :
    ∃ r hit, s.subscribers.lookup id = some r ∧ r.status = .pendingPayment ∧
      updateWhereID id (fun r => { r with status := .active, planExpiry := some t }) s =
        .ok (hit, s') := by
  simp only [ActivateSubscriber, subscriberRow, bind_ok, ↓get_bind_ok, orThrow_ok,
    ↓require_bind_ok, pure_ok] at h
  obtain ⟨r, _, ⟨hr, rfl⟩, hst, hit, _, hupd, hr'⟩ := h
  cases hr'
  exact ⟨r, hit, hr, hst, hupd⟩

theorem ActivateSubscriber_effect (h : ActivateSubscriber id t s = .ok (u, s')) :
    Effect (.activateSubscriber id t) s s' := by
  obtain ⟨r, hit, hr, hst, hupd⟩ := ActivateSubscriber_ok h
  refine updateWhereID_effect hupd fun r₁ hr₁ => ?_
  cases hr.symm.trans hr₁
  exact RowWrite.activate id t _ hst

/-- A partial update that succeeds: nobody has the id and nothing happens, or the row is rewritten, with
    the status asked for if one is, which the column accepts. -/
theorem UpdateSubscriber_ok (h : UpdateSubscriber id planID status planExpiry s = .ok (q, s')) :
    (s.subscribers.lookup id = none ∧ s' = s) ∨
    ∃ (r r' : Subscriber) (st : SubStatus), s.subscribers.lookup id = some r ∧
      r'.toSubscriberRow = { r.toSubscriberRow with
        planID := planID.getD r.planID, status := st, planExpiry := planExpiry.or r.planExpiry } ∧
      (st = r.status ∧ status = none ∨ ∃ text ∈ status, SubStatus.ofText text = some st) ∧
      s' = s.setRow id r' := by
  rw [UpdateSubscriber, get_bind_ok] at h
  cases hl : s.subscribers.lookup id with
  | none =>
    simp only [hl, pure_ok] at h
    cases h
    exact .inl ⟨rfl, rfl⟩
  | some r =>
    simp only [hl, lift_bind_ok, require_bind_ok] at h
    obtain ⟨st, hst, -, h⟩ := h
    obtain ⟨hit, s₁, hupd, hr⟩ := bind_ok.mp h
    cases hr
    rcases updateWhereID_ok hupd with ⟨-, -, hnone⟩ | ⟨-, r₁, r', hr₁, hr', rfl⟩
    · rw [hl] at hnone
      cases hnone
    cases hl.symm.trans hr₁
    refine .inr ⟨r, r', st.getD r.status, rfl, hr', ?_, rfl⟩
    cases status with
    | none =>
      cases hst
      exact .inl ⟨rfl, rfl⟩
    | some text =>
      simp only [statusParam] at hst
      split at hst
      · rename_i st' hst'
        cases hst
        exact .inr ⟨text, rfl, hst'⟩
      · cases hst

theorem UpdateSubscriber_effect (h : UpdateSubscriber id planID status planExpiry s = .ok (q, s')) :
    Effect (.updateSubscriber id planID status planExpiry) s s' := by
  rcases UpdateSubscriber_ok h with ⟨-, rfl⟩ | ⟨r, r', st, hr, hr', hst, rfl⟩
  · exact Effect.read _ s'
  · exact Effect.row _ s id r r' hr (hr' ▸ RowWrite.update id planID status planExpiry _ st hst)

theorem SetSubscriberPlan_effect {newPlanID : ℤ} (h : SetSubscriberPlan id newPlanID t s = .ok (q, s')) :
    Effect (.setSubscriberPlan id newPlanID t) s s' := by
  rw [SetSubscriberPlan, get_bind_ok] at h
  cases hl : s.subscribers.lookup id with
  | none =>
    simp only [hl, pure_ok] at h
    cases h
    exact Effect.read _ s
  | some _ =>
    simp only [hl, require_bind_ok] at h
    obtain ⟨hit, s₁, hupd, hr⟩ := bind_ok.mp h.2
    cases hr
    exact updateWhereID_effect hupd fun r _ => RowWrite.plan id newPlanID t _

/-- The columns of a stored invoice. -/
structure Invoice.StoredAs (inv : Invoice) (row : InvoiceRow) : Prop where
  subscriber : row.subscriberID = inv.subscriberID
  base : numeric12 inv.baseAmount = some row.baseAmount
  cgst : numeric12 inv.cgstAmount = some row.cgstAmount
  sgst : numeric12 inv.sgstAmount = some row.sgstAmount
  igst : numeric12 inv.igstAmount = some row.igstAmount
  total : numeric12 inv.totalAmount = some row.totalAmount

theorem CreateInvoice_ok (h : CreateInvoice inv s = .ok (i, s')) :
    ∃ row, inv.StoredAs row ∧ s' = { s with invoices := s.invoices ++ [row] } := by
  simp only [CreateInvoice, get_bind_ok, require_bind_ok, orThrow_bind_ok,
    dite_throw_ok, set_bind_ok, pure_ok] at h
  obtain ⟨-, -, base, hbase, cgst, hcgst, sgst, hsgst, igst, higst, total, htotal, gb, -, hg, hr⟩ := h
  cases hr
  exact ⟨_, ⟨rfl, hbase, hcgst, hsgst, higst, htotal⟩, rfl⟩

theorem CreateInvoice_effect (h : CreateInvoice inv s = .ok (i, s')) : Effect (.createInvoice inv) s s' := by
  obtain ⟨row, hrow, rfl⟩ := CreateInvoice_ok h
  exact Effect.invoice inv s row hrow.subscriber hrow.total

/-- A stored commission: its reference is taken and nothing happens, or its row is added. -/
theorem CalculateAndStoreLCOCommission_ok (h : CalculateAndStoreLCOCommission e s = .ok (u, s')) :
    ∃ row : LcoLedger, row.transactionRef = nullIfEmpty e.transactionRef ∧
      (row.franchiseID = e.franchiseID ∧ row.subscriberID = e.subscriberID ∧
        numeric12 e.rechargeAmount = some row.rechargeAmount) ∧
      ((s.lcoLedger.insert row = none ∧ s' = s) ∨
        ∃ ledger journal, s.lcoLedger.insert row = some ledger ∧
          s' = { s with lcoLedger := ledger, glJournal := journal }) := by
  simp only [CalculateAndStoreLCOCommission, get_bind_ok, require_bind_ok,
    orThrow_bind_ok] at h
  obtain ⟨-, -, recharge, hrecharge, amount, -, -, h⟩ := h
  cases hl : s.lcoLedger.insert ⟨(s.lcoLedger.rows.length : ℤ) + 1, e.franchiseID, e.subscriberID,
      recharge, amount, nullIfEmpty e.transactionRef⟩ with
  | none =>
    -- the payment was already settled
    simp only [hl, pure_ok] at h
    cases h
    exact ⟨_, rfl, ⟨rfl, rfl, hrecharge⟩, .inl ⟨hl, rfl⟩⟩
  | some ledger =>
    simp only [hl, set_bind_ok, ite_ok, pure_ok] at h
    obtain ⟨-, hr⟩ | ⟨-, h⟩ := h
    · -- a zero commission has its ledger row and no journal entry
      cases hr
      exact ⟨_, rfl, ⟨rfl, rfl, hrecharge⟩, .inr ⟨ledger, s.glJournal, hl, rfl⟩⟩
    · simp only [glAccountID, bind_ok, ↓get_bind_ok, orThrow_ok] at h
      obtain ⟨_, _, ⟨-, rfl⟩, _, _, ⟨-, rfl⟩, _, _, hl₁, _, _, hl₂, hj⟩ := h
      cases glLine_ok hl₁
      cases glLine_ok hl₂
      obtain ⟨entry, -, rfl⟩ := postJournal_ok hj
      exact ⟨_, rfl, ⟨rfl, rfl, hrecharge⟩, .inr ⟨ledger, _, hl, rfl⟩⟩

theorem CalculateAndStoreLCOCommission_effect (h : CalculateAndStoreLCOCommission e s = .ok (u, s')) :
    Effect (.storeLCOCommission e) s s' := by
  obtain ⟨row, -, -, ⟨-, rfl⟩ | ⟨ledger, journal, -, rfl⟩⟩ := CalculateAndStoreLCOCommission_ok h
  · exact Effect.read _ s'
  · exact Effect.commission e s ledger journal

end

/-! ### What the reads return -/

section Reads

variable {id : ℤ} {now : Time} {s s' : DB} {q : GstRate}

theorem subscriberRow_ok {r : Subscriber} (h : subscriberRow id s = .ok (r, s')) :
    s.subscribers.lookup id = some r ∧ s' = s := by
  rw [subscriberRow, get_bind_ok, orThrow_ok] at h
  exact h

theorem subscriberPlan_ok {q : Subscriber × Plan} (h : subscriberPlan id s = .ok (q, s')) :
    s.subscribers.lookup id = some q.1 ∧ s.plans.lookup q.1.planID = some q.2 ∧ s' = s := by
  simp only [subscriberPlan, bind_ok, ↓get_bind_ok, ↓orThrow_bind_ok, pure_ok] at h
  obtain ⟨r, _, hr, p, hp, hq⟩ := h
  obtain ⟨hr, rfl⟩ := subscriberRow_ok hr
  cases hq
  exact ⟨hr, hp, rfl⟩

/-- A call that returns something of the row. -/
theorem ofRow_ok {α : Type} {f : Subscriber → α} {a : α}
    (h : (subscriberRow id >>= fun r => pure (f r)) s = .ok (a, s')) :
    (∃ r, s.subscribers.lookup id = some r ∧ a = f r) ∧ s' = s := by
  simp only [bind_ok, pure_ok] at h
  obtain ⟨r, _, hr, ha⟩ := h
  obtain ⟨hr, rfl⟩ := subscriberRow_ok hr
  cases ha
  exact ⟨⟨r, hr, rfl⟩, rfl⟩

theorem GetSubscriberBalance_ok {b : Decimal} (h : GetSubscriberBalance id s = .ok (b, s')) :
    (∃ r, s.subscribers.lookup id = some r ∧ b = paise r.walletBalance) ∧ s' = s := ofRow_ok h

theorem GetTransactionByToken_ok {token : String} {q : Option Transaction}
    (h : GetTransactionByToken token s = .ok (q, s')) :
    s' = s ∧ (token ≠ "" → q.isSome = (s.walletLedgers.find? token).isSome) := by
  simp only [GetTransactionByToken, get_bind_ok, ite_ok, pure_ok] at h
  obtain ⟨htoken, hr⟩ | ⟨-, hr⟩ := h
  · cases hr
    exact ⟨rfl, fun hne => absurd htoken hne⟩
  · cases hr
    exact ⟨rfl, fun _ => Option.isSome_map⟩

theorem GetSubscriberDunningState_ok {q : DunningState × Time}
    (h : GetSubscriberDunningState now id s = .ok (q, s')) :
    (∃ r, s.subscribers.lookup id = some r ∧ q.1 = r.dunningState) ∧ s' = s := by
  obtain ⟨⟨r, hr, rfl⟩, hs⟩ := ofRow_ok h
  exact ⟨⟨r, hr, rfl⟩, hs⟩

theorem ListDunningCandidates_ok {cs : List DunningCandidate} (h : ListDunningCandidates now s = .ok (cs, s')) :
    cs.Perm (s.subscribers.entries.filterMap fun x => dunningCandidate? now x.1 x.2) ∧ s' = s := by
  cases h
  exact ⟨perm_insertionSort _ _, rfl⟩

theorem ListRenewalCandidates_ok {cs : List RenewalCandidate} (h : ListRenewalCandidates now s = .ok (cs, s')) :
    cs = (s.subscribers.entries.filterMap fun x =>
      renewalCandidate? now s.plans x.1 x.2) ∧
      s' = s := by
  cases h
  exact ⟨rfl, rfl⟩

theorem GetInvoiceInputs_ok {q : String × ℤ} (h : GetInvoiceInputs id s = .ok (q, s')) :
    (∃ r, s.subscribers.lookup id = some r ∧ q.1 = r.registeredState) ∧ s' = s := by
  simp only [GetInvoiceInputs, bind_ok, pure_ok] at h
  obtain ⟨rp, _, hrp, hq⟩ := h
  obtain ⟨hr, -, rfl⟩ := subscriberPlan_ok hrp
  cases hq
  exact ⟨⟨rp.1, hr, rfl⟩, rfl⟩

theorem GetActiveGstRate_ok (h : GetActiveGstRate now s = .ok (q, s')) : s' = s := by
  simp only [GetActiveGstRate, get_bind_ok, orThrow_bind_ok, pure_ok] at h
  obtain ⟨_, -, hr⟩ := h
  cases hr
  rfl

/-- The active rate depends on the rate table only. -/
theorem GetActiveGstRate_congr {s₁ : DB} (hrates : s₁.gstRates = s.gstRates)
    (h : GetActiveGstRate now s = .ok (q, s')) : GetActiveGstRate now s₁ = .ok (q, s₁) := by
  simp only [GetActiveGstRate, get_bind_ok, orThrow_bind_ok, pure_ok] at h ⊢
  obtain ⟨r, hr, hq⟩ := h
  cases hq
  rw [hrates]
  exact ⟨r, hr, rfl⟩

theorem GetPlanRenewalInfo_ok {q : ℤ × Option Time} (h : PortalStore.GetPlanRenewalInfo id s = .ok (q, s')) :
    (∃ r p, s.subscribers.lookup id = some r ∧ s.plans.lookup r.planID = some p ∧
      q = (p.validityDays, r.planExpiry)) ∧ s' = s := by
  simp only [PortalStore.GetPlanRenewalInfo, bind_ok, pure_ok] at h
  obtain ⟨rp, _, hrp, hq⟩ := h
  obtain ⟨hr, hp, rfl⟩ := subscriberPlan_ok hrp
  cases hq
  exact ⟨⟨rp.1, rp.2, hr, hp, rfl⟩, rfl⟩

theorem GetSubscriberFranchiseID_ok {q : Option ℤ} (h : GetSubscriberFranchiseID id s = .ok (q, s')) :
    (∃ r, s.subscribers.lookup id = some r ∧ q = r.franchiseID) ∧ s' = s := ofRow_ok h

theorem GetFranchiseByID_ok {q : Franchise} (h : GetFranchiseByID id s = .ok (q, s')) :
    s.franchises.lookup id = some q ∧ s' = s := by
  rw [GetFranchiseByID, get_bind_ok, orThrow_ok] at h
  exact h

theorem GetSubscriberByID_ok {q : Option Subscriber}
    (h : GetSubscriberByID id s = .ok (q, s')) : q = s.subscribers.lookup id ∧ s' = s := by
  cases h
  exact ⟨rfl, rfl⟩

theorem GetPlanChangeInfo_ok {newPlanID : ℤ} {q : Option PlanChangeInfo}
    (h : GetPlanChangeInfo id newPlanID s = .ok (q, s')) : s' = s := by
  rw [GetPlanChangeInfo, get_bind_ok] at h
  cases hl : s.subscribers.lookup id with
  | none =>
    simp only [hl, pure_ok] at h
    cases h
    rfl
  | some r =>
    cases hp : s.plans.lookup r.planID with
    | none =>
      simp only [hl, hp, pure_ok] at h
      cases h
      rfl
    | some old =>
      simp only [hl, hp, orThrow_bind_ok, pure_ok] at h
      obtain ⟨_, -, hr⟩ := h
      cases hr
      rfl

end Reads

/-! ### The inversion -/

section
variable {id : ℤ} {state : DunningState} {s s' : DB} {u : Unit} {op : Op} {status : SubStatus} {t : Task}

/-- A dunning write that succeeds has found the row and rewritten it. -/
theorem SetSubscriberDunningState_ok (h : SetSubscriberDunningState id state status s = .ok (u, s')) :
    ∃ r r' : Subscriber, s.subscribers.lookup id = some r ∧
      r'.toSubscriberRow = { r.toSubscriberRow with dunningState := state, status := status } ∧
      s' = s.setRow id r' := by
  simp only [SetSubscriberDunningState, bind_ok, require_ok] at h
  obtain ⟨hit, _, hupd, hhit, hr⟩ := h
  cases hr
  rcases updateWhereID_ok hupd with ⟨hfalse, -, -⟩ | ⟨-, h⟩
  · rw [hhit] at hfalse
    cases hfalse
  · exact h

theorem SetSubscriberDunningState_effect (h : SetSubscriberDunningState id state status s = .ok (u, s')) :
    Effect (.setSubscriberDunningState id state status) s s' := by
  obtain ⟨r, r', hr, hr', rfl⟩ := SetSubscriberDunningState_ok h
  exact Effect.row _ s id r r' hr (hr' ▸ RowWrite.dunning id state status _)

theorem SetPlanExpiry_effect {t : Time} (h : SetPlanExpiry id t s = .ok (u, s'))
    (hw : ∀ r, RowWrite op id r { r with planExpiry := some t }) : Effect op s s' := by
  simp only [SetPlanExpiry, bind_ok, pure_ok] at h
  obtain ⟨_, _, hupd, hr⟩ := h
  cases hr
  exact updateWhereID_effect hupd fun r _ => hw _

theorem CreateSubscriber_effect {r : SubscriberRow} {q : ℤ × Subscriber}
    (h : CreateSubscriber r s = .ok (q, s')) : Effect (.createSubscriber r) s s' := by
  simp only [CreateSubscriber, get_bind_ok, require_bind_ok, lift_bind_ok,
    set_bind_ok, pure_ok] at h
  obtain ⟨-, -, -, -, -, -, -, -, sub, hsub, hr⟩ := h
  cases hr
  exact Effect.create r sub _ (check_ok hsub)

theorem TerminateSubscriber_effect {q : Option Subscriber} (h : TerminateSubscriber id s = .ok (q, s')) :
    Effect (.terminateSubscriber id) s s' := by
  simp only [TerminateSubscriber, bind_ok, ↓get_bind_ok, pure_ok] at h
  obtain ⟨_, _, hupd, hr⟩ := h
  cases hr
  exact updateWhereID_effect hupd fun r _ => RowWrite.terminate id _

theorem EnqueueContext_iff {r : Unit × DB} : Jobqueue.EnqueueContext t s = .ok r ↔
      ∃ tasks, s.tasks.insert t = some tasks ∧ r = ((), { s with tasks := tasks }) := by
  simp only [Jobqueue.EnqueueContext, get_bind_ok, orThrow_bind_ok, set_ok]

theorem EnqueueContext_effect (h : Jobqueue.EnqueueContext t s = .ok (u, s')) : Effect (.enqueue t) s s' := by
  obtain ⟨tasks, -, hr⟩ := EnqueueContext_iff.mp h
  cases hr
  exact Effect.enqueue t _ tasks

/-- A call that reads. -/
theorem read_effect (h : s' = s) : Effect op s s' := h ▸ Effect.read op s

/-- Every successful call has one of the listed effects. -/
theorem tx_effect {now : Time} : ∀ {op : Op} {a : op.Result},
    op.tx now s = .ok (a, s') → Effect op s s'
  | .getSubscriberBalance _, _, h => read_effect (GetSubscriberBalance_ok h).2
  | .getTransactionByToken _, _, h => read_effect (GetTransactionByToken_ok h).1
  | .recordRecharge _, _, h => Effect.recharge _ _ _ (RecordRecharge_ok h)
  | .getSubscriberDunningState _, _, h => read_effect (GetSubscriberDunningState_ok h).2
  | .listDunningCandidates, _, h => read_effect (ListDunningCandidates_ok h).2
  | .setSubscriberDunningState _ _ _, _, h => SetSubscriberDunningState_effect h
  | .listRenewalCandidates, _, h => read_effect (ListRenewalCandidates_ok h).2
  | .setPlanExpiry id t, _, h => SetPlanExpiry_effect h (RowWrite.expiry id t)
  | .activateSubscriber _ _, _, h => ActivateSubscriber_effect h
  | .getInvoiceInputs _, _, h => read_effect (GetInvoiceInputs_ok h).2
  | .createInvoice _, _, h => CreateInvoice_effect h
  | .getActiveGstRate, _, h => read_effect (GetActiveGstRate_ok h)
  | .getPlanRenewalInfo _, _, h => read_effect (GetPlanRenewalInfo_ok h).2
  | .portalSetPlanExpiry id t, _, h => SetPlanExpiry_effect h (RowWrite.portalExpiry id t)
  | .getSubscriberFranchiseID _, _, h => read_effect (GetSubscriberFranchiseID_ok h).2
  | .getFranchiseByID _, _, h => read_effect (GetFranchiseByID_ok h).2
  | .storeLCOCommission _, _, h => CalculateAndStoreLCOCommission_effect h
  | .createSubscriber _, _, h => CreateSubscriber_effect h
  | .getSubscriberByID _, _, h => read_effect (GetSubscriberByID_ok h).2
  | .updateSubscriber _ _ _ _, _, h => UpdateSubscriber_effect h
  | .getPlanChangeInfo _ _, _, h => read_effect (GetPlanChangeInfo_ok h)
  | .setSubscriberPlan _ _ _, _, h => SetSubscriberPlan_effect h
  | .terminateSubscriber _, _, h => TerminateSubscriber_effect h
  | .enqueue _, _, h => EnqueueContext_effect h

/-- A call of the store fails and changes nothing, or succeeds with one of the effects. -/
theorem exec_db_cases (e : Env) (op : Op) (s : DB) :
    (∃ err, exec e (.db op) s = (.error err, s)) ∨
    ∃ a s', op.tx e.now s = .ok (a, s') ∧ exec e (.db op) s = (.ok a, s') ∧ Effect op s s' := by
  by_cases hf : e.fails op = true
  · exact .inl ⟨.unavailable, if_pos hf⟩
  · have hx : exec e (.db op) s = (op.tx e.now).commit s := if_neg hf
    rcases commit_cases (op.tx e.now) s with ⟨a, s', h, hc⟩ | ⟨err, hc⟩
    · exact .inr ⟨a, s', h, hx.trans hc, tx_effect h⟩
    · exact .inl ⟨err, hx.trans hc⟩

/-- A call reads the clock, or is one of the store. -/
theorem exec_cases (e : Env) (c : Call) (s : DB) :
    (c = .timeNow ∧ (exec e c s).2 = s) ∨
    (∃ op err, c = .db op ∧ exec e (.db op) s = (.error err, s)) ∨
    ∃ op a s', c = .db op ∧ op.tx e.now s = .ok (a, s') ∧
      exec e (.db op) s = (.ok a, s') ∧ Effect op s s' := by
  cases c with
  | timeNow => exact .inl ⟨rfl, rfl⟩
  | db op =>
    rcases exec_db_cases e op s with ⟨err, h⟩ | ⟨a, s', h⟩
    · exact .inr (.inl ⟨op, err, rfl, h⟩)
    · exact .inr (.inr ⟨op, a, s', rfl, h⟩)

end

/-! ### One subscriber across a call -/

section
variable {id : ℤ} {op : Op} {s s' : DB} {r : Subscriber}

@[simp] theorem DB.lookup_setRow (s : DB) (id : ℤ) (r : Subscriber) :
    (s.setRow id r).subscribers.lookup id = some r := lookup_insert _

theorem DB.lookup_setRow_ne (s : DB) {id' : ℤ} (r : Subscriber) (h : id ≠ id') :
    (s.setRow id' r).subscribers.lookup id = s.subscribers.lookup id := lookup_insert_ne h

/-- A new row never takes the id of an existing one. -/
theorem lookup_nextID {α : Type} (t : Table α) : t.lookup (nextID t) = none := by
  rw [lookup_eq_none]
  intro h
  have := le_max_of_le' 0 (mem_keys.mp h) le_rfl
  unfold nextID at this
  omega

/-- What a call does to the subscribers: nothing, one row as `RowWrite` says, or one more row. -/
theorem Effect.subscribers (h : Effect op s s') :
    s'.subscribers = s.subscribers ∨
    (∃ id r r', s.subscribers.lookup id = some r ∧ RowWrite op id r.toSubscriberRow r'.toSubscriberRow ∧
      s'.subscribers = s.subscribers.insert id r') ∨
    ∃ sub, op = .createSubscriber sub.toSubscriberRow ∧
      s'.subscribers = s.subscribers.insert (nextID s.subscribers) sub := by
  cases h with
  | row _ _ id r r' hr hw => exact .inr (.inl ⟨id, r, r', hr, hw, rfl⟩)
  | create row sub _ hrow => exact .inr (.inr ⟨sub, by rw [hrow], rfl⟩)
  | recharge p _ _ h =>
    obtain ⟨s₁, n, ledgers, entry, rows, hn, -, -, -, ⟨rfl, -⟩ | ⟨r, r', hr, hr', rfl⟩⟩ := h
    · exact .inl rfl
    · exact .inr (.inl ⟨_, r, r', hr, hr' ▸ RowWrite.balance p _ n hn, rfl⟩)
  | _ => exact .inl rfl

/-- A subscriber that exists still exists after a call, and its row is as it was or as the call
    rewrites it. -/
theorem Effect.lookup (h : Effect op s s')
    (hr : s.subscribers.lookup id = some r) : ∃ r', s'.subscribers.lookup id = some r' ∧
      (r' = r ∨ RowWrite op id r.toSubscriberRow r'.toSubscriberRow) := by
  rcases h.subscribers with hs | ⟨id', r₁, r', hr₁, hw, hs⟩ | ⟨sub, -, hs⟩ <;> rw [hs]
  · exact ⟨r, hr, .inl rfl⟩
  · by_cases hid : id = id'
    · subst hid
      cases hr.symm.trans hr₁
      exact ⟨r', lookup_insert _, .inr hw⟩
    · exact ⟨r, (lookup_insert_ne hid).trans hr, .inl rfl⟩
  · have hid : id ≠ nextID s.subscribers := by
      rintro rfl
      cases hr.symm.trans (lookup_nextID s.subscribers)
    exact ⟨r, (lookup_insert_ne hid).trans hr, .inl rfl⟩

/-- A subscriber that does not exist before a call and does after it is the one the call has created. -/
theorem Effect.lookup_new (h : Effect op s s') {r' : Subscriber}
    (hnone : s.subscribers.lookup id = none) (hr' : s'.subscribers.lookup id = some r') :
    op = .createSubscriber r'.toSubscriberRow := by
  rcases h.subscribers with hs | ⟨id', r, r₁, hr, -, hs⟩ | ⟨sub, hop, hs⟩ <;> rw [hs] at hr'
  · cases hnone.symm.trans hr'
  · have hid : id ≠ id' := by
      rintro rfl
      cases hnone.symm.trans hr
    cases hnone.symm.trans ((lookup_insert_ne hid).symm.trans hr')
  · by_cases hid : id = nextID s.subscribers
    · rw [hid, lookup_insert] at hr'
      cases hr'
      exact hop
    · cases hnone.symm.trans ((lookup_insert_ne hid).symm.trans hr')

/-- No call of a service writes the catalogue. -/
theorem Effect.plans (h : Effect op s s') : s'.plans = s.plans := by
  cases h with
  | recharge p _ _ h =>
    obtain ⟨_, _, _, rfl⟩ := h.frame
    rfl
  | _ => rfl

/-- Only a posting writes the wallet ledger. -/
theorem Effect.walletLedgers (h : Effect op s s')
    (hop : ∀ p, op ≠ .recordRecharge p) : s'.walletLedgers = s.walletLedgers := by
  cases h with
  | recharge p => exact absurd rfl (hop p)
  | _ => rfl

/-- Only a posting and a commission write the journal. -/
theorem Effect.glJournal (h : Effect op s s') (hop : ∀ p, op ≠ .recordRecharge p)
    (hop' : ∀ c, op ≠ .storeLCOCommission c) : s'.glJournal = s.glJournal := by
  cases h with
  | recharge p => exact absurd rfl (hop p)
  | commission c => exact absurd rfl (hop' c)
  | _ => rfl

/-- Only an invoice writes the invoices. -/
theorem Effect.invoices (h : Effect op s s') (hop : ∀ inv, op ≠ .createInvoice inv) : s'.invoices = s.invoices := by
  cases h with
  | invoice inv => exact absurd rfl (hop inv)
  | recharge p _ _ h =>
    obtain ⟨_, _, _, rfl⟩ := h.frame
    rfl
  | _ => rfl

/-- The same about a call in any environment, failed ones included. -/
theorem exec_lookup (e : Env) (c : Call) (hr : s.subscribers.lookup id = some r) :
    ∃ r', (exec e c s).2.subscribers.lookup id = some r' ∧
      (r' = r ∨ ∃ op a, c = .db op ∧ exec e (.db op) s = (.ok a, (exec e (.db op) s).2) ∧
        RowWrite op id r.toSubscriberRow r'.toSubscriberRow) := by
  rcases exec_cases e c s with ⟨rfl, hs⟩ | ⟨op, err, rfl, hs⟩ | ⟨op, a, s', rfl, -, hs, heff⟩
  · exact ⟨r, by rw [hs]; exact hr, .inl rfl⟩
  · exact ⟨r, by rw [hs]; exact hr, .inl rfl⟩
  · obtain ⟨r', hr', hw⟩ := heff.lookup hr
    refine ⟨r', by rw [hs]; exact hr', ?_⟩
    rcases hw with rfl | hw
    · exact .inl rfl
    · exact .inr ⟨op, a, rfl, by rw [hs], hw⟩

theorem exec_plans (e : Env) (c : Call) (s : DB) : (exec e c s).2.plans = s.plans := by
  rcases exec_cases e c s with ⟨rfl, hs⟩ | ⟨op, err, rfl, hs⟩ | ⟨op, a, s', rfl, -, hs, heff⟩
  · rw [hs]
  · rw [hs]
  · rw [hs]; exact heff.plans

/-- The methods that only read. -/
def Op.isRead : Op → Bool
  | getSubscriberBalance _ | getTransactionByToken _ | getSubscriberDunningState _
  | listDunningCandidates | listRenewalCandidates | getInvoiceInputs _ | getActiveGstRate
  | getPlanRenewalInfo _ | getSubscriberFranchiseID _ | getFranchiseByID _ | getSubscriberByID _
  | getPlanChangeInfo _ _ => true
  | _ => false

theorem RowWrite.not_read {r r' : SubscriberRow} (h : RowWrite op id r r') : op.isRead = false := by
  cases h <;> rfl

theorem exec_read (e : Env) (h : op.isRead = true) (s : DB) : (exec e (.db op) s).2 = s := by
  rcases exec_db_cases e op s with ⟨err, hs⟩ | ⟨a, s', -, hs, heff⟩
  · rw [hs]
  · rw [hs]
    cases heff with
    | read => rfl
    | row _ _ id r r' _ hw => cases h.symm.trans hw.not_read
    | _ => cases h

end

/-! ### The candidate queries -/

variable {β : Type}

theorem sublist_map_filterMap {α γ : Type} {f : α → Option β} {g : α → γ} {k : β → γ}
    (h : ∀ a b, f a = some b → k b = g a) :
    ∀ l : List α, ((l.filterMap f).map k).Sublist (l.map g)
  | [] => by simp
  | a :: l => by
      cases hf : f a with
      | none =>
        rw [filterMap_cons_none hf]
        exact (sublist_map_filterMap h l).cons _
      | some b =>
        rw [filterMap_cons_some hf, map_cons, h a b hf]
        exact (sublist_map_filterMap h l).cons_cons _

variable {t : Table Subscriber}

theorem nodup_candidates {f : ℤ → Subscriber → Option β} {k : β → ℤ} (h : ∀ id r b, f id r = some b → k b = id) :
    ((t.entries.filterMap fun x => f x.1 x.2).map k).Nodup :=
  (sublist_map_filterMap (fun x b hx => h x.1 x.2 b hx) t.entries).nodup t.nodupKeys

theorem mem_candidates {f : ℤ → Subscriber → Option β} {b : β} :
    b ∈ t.entries.filterMap (fun x => f x.1 x.2) ↔ ∃ id r, t.lookup id = some r ∧ f id r = some b := by
  rw [mem_filterMap]
  constructor
  · rintro ⟨⟨id, r⟩, hx, hb⟩
    exact ⟨id, r, mem_lookup_iff.mpr hx, hb⟩
  · rintro ⟨id, r, hr, hb⟩
    exact ⟨⟨id, r⟩, mem_lookup_iff.mp hr, hb⟩

/-- What the renewal query says of a row it selects. -/
structure RenewalOf (now : Time) (s : DB) (c : RenewalCandidate) (r : Subscriber) (p : Plan) :
    Prop where
  row : s.subscribers.lookup c.subscriberID = some r
  plan : s.plans.lookup r.planID = some p
  expiry : c.planExpiry = r.planExpiry
  status : c.status = r.status
  validity : c.planValidityDays = p.validityDays
  price : c.planPrice = paise p.price
  due : (∃ x ∈ r.planExpiry, x ≤ now) ∨ (r.planExpiry = none ∧ r.status = .pendingPayment)
  funded : p.price ≤ r.walletBalance
  alive : r.status ≠ .terminated

theorem renewalCandidate?_some {now : Time} {id : ℤ} {r : Subscriber} {c : RenewalCandidate}
    (hr : s.subscribers.lookup id = some r) (h : renewalCandidate? now s.plans id r = some c) :
    c.subscriberID = id ∧ ∃ p, RenewalOf now s c r p := by
  unfold renewalCandidate? at h
  split at h
  · rename_i p hp
    split at h
    · rename_i hsel
      cases h
      exact ⟨rfl, p, ⟨hr, hp, rfl, rfl, rfl, rfl, hsel.2.2, hsel.2.1, hsel.1⟩⟩
    · cases h
  · cases h

theorem ListRenewalCandidates_spec {now : Time} {s' : DB} {cs : List RenewalCandidate}
    (h : ListRenewalCandidates now s = .ok (cs, s')) :
    (cs.map RenewalCandidate.subscriberID).Nodup ∧ ∀ c ∈ cs, ∃ r p, RenewalOf now s c r p := by
  obtain ⟨rfl, -⟩ := ListRenewalCandidates_ok h
  refine ⟨?_, fun c hc => ?_⟩
  · refine nodup_candidates fun id r c hc => ?_
    unfold renewalCandidate? at hc
    split at hc
    · split at hc
      · cases hc; rfl
      · cases hc
    · cases hc
  · obtain ⟨id, r, hr, hc⟩ := mem_candidates.mp hc
    obtain ⟨-, p, hp⟩ := renewalCandidate?_some hr hc
    exact ⟨r, p, hp⟩

/-! ### Writes that no constraint refuses -/

section
variable {id : ℤ} {s : DB} {r : Subscriber} {t : Time}

/-- The row with a new expiry. -/
def Subscriber.withExpiry (r : Subscriber) (t : Time) : Subscriber :=
  { r with planExpiry := some t, billable := .inr (.inr (.inr rfl)) }

/-- The row as a first cycle leaves it. -/
def Subscriber.activated (r : Subscriber) (t : Time) : Subscriber :=
  { r with status := .active, planExpiry := some t, billable := .inr (.inr (.inr rfl)) }

theorem Subscriber.check_self (r : Subscriber) : r.toSubscriberRow.check = .ok r := by
  unfold check
  rw [dif_pos r.balance_nonneg, dif_pos r.billable]

theorem updateWhereID_eq {f : SubscriberRow → SubscriberRow}
    (r' : Subscriber) (hr : s.subscribers.lookup id = some r) (hf : f r.toSubscriberRow = r'.toSubscriberRow) :
    updateWhereID id f s = .ok (true, s.setRow id r') := by
  unfold updateWhereID
  simp only [hr, hf, Subscriber.check_self]
  rfl

theorem SetPlanExpiry_eq (hr : s.subscribers.lookup id = some r) :
    SetPlanExpiry id t s = .ok ((), s.setRow id (r.withExpiry t)) := by
  simp only [SetPlanExpiry, bind_ok]
  exact ⟨true, _, updateWhereID_eq (r.withExpiry t) hr rfl, rfl⟩

theorem ActivateSubscriber_eq (hr : s.subscribers.lookup id = some r) (hp : r.status = .pendingPayment) :
    ActivateSubscriber id t s = .ok ((), s.setRow id (r.activated t)) := by
  simp only [ActivateSubscriber, subscriberRow, bind_ok, ↓get_bind_ok, orThrow_ok,
    ↓require_bind_ok]
  exact ⟨r, s, ⟨hr, rfl⟩, hp, true, _, updateWhereID_eq (r.activated t) hr rfl, rfl⟩

/-- The row of a dated cycle at another stage. -/
def Subscriber.staged (r : Subscriber) (hx : r.planExpiry.isSome) (state : DunningState)
    (status : SubStatus) : Subscriber :=
  { r with dunningState := state, status := status, billable := .inr (.inr (.inr hx)) }

theorem SetSubscriberDunningState_eq {state : DunningState} {status : SubStatus}
    (hr : s.subscribers.lookup id = some r) (hx : r.planExpiry.isSome) :
    SetSubscriberDunningState id state status s = .ok ((), s.setRow id (r.staged hx state status)) := by
  simp only [SetSubscriberDunningState, bind_ok, require_ok]
  exact ⟨true, _, updateWhereID_eq (r.staged hx state status) hr rfl, rfl, rfl⟩

theorem GetSubscriberDunningState_eq {now : Time} (hr : s.subscribers.lookup id = some r) :
    GetSubscriberDunningState now id s = .ok ((r.dunningState, r.planExpiry.getD now), s) := by
  simp only [GetSubscriberDunningState, subscriberRow, bind_ok, ↓get_bind_ok,
    orThrow_ok, pure_ok]
  exact ⟨r, s, ⟨hr, rfl⟩, rfl⟩

/-- A transaction that succeeds, in an environment that does not fail it. -/
theorem exec_ok {e : Env} {op : Op} {s' : DB} {a : op.Result} (hf : e.fails op = false)
    (h : op.tx e.now s = .ok (a, s')) : exec e (.db op) s = (.ok a, s') := by
  have hx : exec e (.db op) s = (op.tx e.now).commit s := if_neg (by simp [hf])
  exact hx.trans (commit_ok h)

end

section
variable {e : Env} {s : DB} {α : Type} {Q : α → DB → Prop}

/-- A successful call continues from what its transaction returned. -/
theorem ensures_db {op : Op} {k : Except StoreErr op.Result → Service α}
    (h : ∀ a s', op.tx e.now s = .ok (a, s') → Ensures exec e succeeded Q (k (.ok a)) s') :
    Ensures exec e succeeded Q (call (S := sig) (.db op) k) s := by
  intro hok
  rcases exec_db_cases e op s with ⟨err, hx⟩ | ⟨a, s', htx, hx, -⟩
  · rw [hx] at hok
    cases hok
  · rw [hx]
    exact h a s' htx

theorem ensures_timeNow {k : Time → Service α} (h : Ensures exec e succeeded Q (k e.now) s) :
    Ensures exec e succeeded Q (call (S := sig) .timeNow k) s := fun _ => h

end

theorem exec_fails {e : Env} {op : Op} (hf : e.fails op = true) :
    exec e (.db op) s = (.error .unavailable, s) := if_pos hf

end IspBss
