import IspBss.Lib.Rows
import IspBss.Lib.Runs
import IspBss.Props.WalletOutcome

/-! Does the general ledger follow the wallets?

    A posting moves one wallet by `± n` and writes one journal entry, built from the same two legs
    through an account map. The tax of a posting against revenue is split off the counter leg:

        Recharge            1000 Dr n            1200 Cr n
        Post, no tax        counter n            1200 n on the other side
        Post, tax t         4000 n − t, 2200 t   1200 n on the other side

    So account 1200 moves with the sum of all balances and account 2200 with the tax, call by call. -/

namespace IspBss

open Lib Lib.Numeric EntryType List Prog BillingStore Tx RechargeRequest

/-! ### Accounts -/

variable (s : DB) (code : String)

/-- Credit minus debit of a line, if it is on the account with this code. -/
def lineNet (line : GlLine) : ℤ :=
  if s.chartOfAccounts.lookup code = some line.accountID then line.credit - line.debit else 0

def linesNet (lines : List GlLine) : ℤ := (lines.map (lineNet s code)).sum

/-- The credit-minus-debit total of the account. -/
def glNet : ℤ := (s.glJournal.map fun entry => linesNet s code entry.lines).sum

/-- `chart_of_accounts.id` is a primary key. -/
def UniqueAccountIDs (s : DB) : Prop := (s.chartOfAccounts.entries.map fun x => x.2).Nodup
  deriving Decidable

variable {s : DB}

theorem UniqueAccountIDs.code_eq (h : UniqueAccountIDs s) {code code' : String} {id : ℤ}
    (hcode : s.chartOfAccounts.lookup code = some id) (hcode' : s.chartOfAccounts.lookup code' = some id) :
    code = code' := by
  have heq := inj_on_of_nodup_map h (AList.mem_lookup_iff.mp hcode) (AList.mem_lookup_iff.mp hcode') rfl
  exact congrArg Sigma.fst heq

/-- The sum of all wallet balances. -/
def walletTotal (s : DB) : ℤ := Rows.total (fun r : Subscriber => r.walletBalance) s.subscribers

/-! ### The lines of a posting -/

/-- A leg over a whole number of paise. -/
structure PaiseLeg where
  code : String
  entryType : EntryType
  amount : ℤ

def PaiseLeg.leg (x : PaiseLeg) : GlLeg := ⟨x.code, x.entryType, paise x.amount⟩

/-- What the leg moves on the account. -/
def PaiseLeg.net (code : String) (x : PaiseLeg) : ℤ :=
  if x.code = code then x.entryType.signed x.amount else 0

variable {s' : DB} {accountID : ℤ} {line : GlLine}

theorem glLine_spec {d c : ℤ} (h : glLine accountID (paise d) (paise c) s = .ok (line, s')) :
    line.accountID = accountID ∧ line.debit = d ∧ line.credit = c := by
  simp only [glLine, orThrow_bind_ok, dite_throw_ok, pure_ok] at h
  obtain ⟨d', hd, c', hc, _, h⟩ := h
  cases h
  exact ⟨rfl, toFixed_ofFixed hd, toFixed_ofFixed hc⟩

/-- The line that the leg is written as. -/
def PaiseLeg.Line (s : DB) (x : PaiseLeg) (line : GlLine) : Prop :=
  s.chartOfAccounts.lookup x.code = some line.accountID ∧
    line.debit = (if x.entryType = .debit then x.amount else 0) ∧
    line.credit = (if x.entryType = .credit then x.amount else 0)

theorem legLine_spec {x : PaiseLeg}
    (hacc : s.chartOfAccounts.lookup x.code = some accountID)
    (h : legLine accountID x.leg s = .ok (line, s')) : x.Line s line := by
  have hzero : (0 : Decimal) = paise 0 := by simp [paise, ofFixed]
  obtain ⟨code, ty, n⟩ := x
  cases ty with
  | debit =>
    simp only [PaiseLeg.leg, legLine, hzero] at h
    obtain ⟨rfl, hd, hc⟩ := glLine_spec h
    exact ⟨hacc, hd, hc⟩
  | credit =>
    simp only [PaiseLeg.leg, legLine, hzero] at h
    obtain ⟨rfl, hd, hc⟩ := glLine_spec h
    exact ⟨hacc, hd, hc⟩

/-- The legs become lines, in their order. -/
theorem glLines_legs (xs : List PaiseLeg) : ∀ {lines : List GlLine} {s' : DB},
    glLines (xs.map PaiseLeg.leg) s = .ok (lines, s') → List.Forall₂ (PaiseLeg.Line s) xs lines := by
  induction xs with
  | nil =>
    intro lines s' h
    simp only [map_nil, glLines, pure_ok, Prod.mk.injEq] at h
    rw [h.1]
    exact .nil
  | cons x xs ih =>
    intro lines s' h
    simp only [map_cons, glLines, bind_ok, glAccountID, ↓get_bind_ok, orThrow_ok,
      pure_ok] at h
    obtain ⟨accountID, s₁, ⟨hacc, hs₁⟩, line, s₂, hline, rest, s₃, hrest, hr⟩ := h
    obtain rfl : s = s₁ := hs₁.symm
    cases hr
    rw [legLine_ok hline] at hrest
    exact .cons (legLine_spec hacc hline) (ih hrest)

/-- The lines move an account as the legs with its code do. -/
theorem linesNet_eq (hids : UniqueAccountIDs s) (code : String) {xs : List PaiseLeg}
    {lines : List GlLine} (h : List.Forall₂ (PaiseLeg.Line s) xs lines) :
    linesNet s code lines = (xs.map (PaiseLeg.net code)).sum := by
  induction h with
  | nil => rfl
  | @cons x line xs lines hline _ ih =>
    obtain ⟨hacc, hd, hc⟩ := hline
    have hsame : s.chartOfAccounts.lookup code = some line.accountID ↔ x.code = code := by
      constructor
      · intro hcode
        exact hids.code_eq hacc hcode
      · rintro rfl
        exact hacc
    have hnet : line.credit - line.debit = x.entryType.signed x.amount := by
      rw [hd, hc]
      cases x.entryType <;> simp [signed]
    unfold linesNet at ih ⊢
    rw [map_cons, sum_cons, map_cons, sum_cons, ih]
    simp only [lineNet, PaiseLeg.net, hsame, hnet]

/-- The legs of a posting of `n` paise, of which `t` are tax. -/
def paiseLegs (counter : String) (direction : EntryType) (n t : ℤ) : List PaiseLeg :=
  if t = 0 then [⟨counter, direction.opposite, n⟩, ⟨"1200", direction, n⟩]
  else [⟨counter, direction.opposite, n - t⟩, ⟨"2200", direction.opposite, t⟩, ⟨"1200", direction, n⟩]

variable {counter : String} {direction : EntryType} {n t : ℤ}

theorem splitTaxLeg_legs {legs : List GlLeg}
    (hcounter : counter ≠ "1200")
    (h : splitTaxLeg [⟨counter, direction.opposite, paise n⟩, ⟨"1200", direction, paise n⟩] counter
      (paise t) = .ok legs) : legs = (paiseLegs counter direction n t).map PaiseLeg.leg := by
  have hpaise : paise t = 0 ↔ t = 0 := by
    have hzero : paise 0 = 0 := by simp [paise, ofFixed]
    rw [← hzero]
    exact ofFixed_inj
  unfold splitTaxLeg at h
  unfold paiseLegs
  by_cases ht : t = 0
  · rw [if_pos (hpaise.mpr ht)] at h
    rw [if_pos ht, ← Except.ok.inj h]
    rfl
  rw [if_neg fun hp => ht (hpaise.mp hp)] at h
  split at h
  · cases h
  simp only [splitLegs, ne_eq, not_true_eq_false, if_false, hcounter.symm, not_false_eq_true, if_true] at h
  split at h
  · cases h
  · rw [if_neg ht]
    cases h
    simp only [map_cons, map_nil, PaiseLeg.leg, paise_sub]
    rfl

theorem sum_net_wallet (hcounter : counter ≠ "1200") :
    ((paiseLegs counter direction n t).map (PaiseLeg.net "1200")).sum = direction.signed n := by
  unfold paiseLegs
  split
  · simp [PaiseLeg.net, hcounter]
  · simp [PaiseLeg.net, hcounter]

theorem sum_net_tax (hcounter : counter ≠ "2200") :
    ((paiseLegs counter direction n t).map (PaiseLeg.net "2200")).sum = direction.opposite.signed t := by
  unfold paiseLegs
  split
  · rename_i ht
    subst ht
    cases direction <;> simp [PaiseLeg.net, hcounter, signed, opposite]
  · simp [PaiseLeg.net, hcounter]

theorem two_le_paiseLegs (counter : String) (direction : EntryType) (n t : ℤ) :
    2 ≤ (paiseLegs counter direction n t).length := by
  unfold paiseLegs
  split <;> simp

/-! ### One posting -/

/-- A posting from the balance `b` whose legs are opposite and equal, with `t` paise of tax. -/
structure TaxedPosting (b : ℤ) (p : RechargePosting) (n t : ℤ) : Prop extends MovesFrom b p n where
  counter_amount : p.debit.amount = paise n
  opposite : p.debit.entryType = p.credit.entryType.opposite
  tax : p.taxAmount = paise t

theorem code_of_clearing {a : Account} (h : a ≠ .subscriberWallet) :
    GLAccountCode a ≠ "1200" ∧ GLAccountCode a ≠ "2200" := by
  cases a <;> simp_all [GLAccountCode]

variable {p : RechargePosting} {b : ℤ} {tx : Transaction} {r : Subscriber} {d : EntryType}

/-- The journal entry of a posting. -/
theorem postWalletGLEntry_lines (hp : TaxedPosting b p n t) {i : ℤ} {u : Unit} (h : postWalletGLEntry p i s = .ok (u, s')) :
    ∃ entry : GlJournalEntry, s' = { s with glJournal := s.glJournal ++ [entry] } ∧
      List.Forall₂ (PaiseLeg.Line s)
        (paiseLegs (GLAccountCode p.debit.account) p.credit.entryType n t) entry.lines := by
  rw [postWalletGLEntry, lift_bind_ok] at h
  obtain ⟨legs, hlegs, h⟩ := h
  obtain ⟨lines, s₁, hlines, hpost⟩ := bind_ok.mp h
  rw [hp.opposite, hp.counter_amount, hp.amount, hp.tax, hp.wallet] at hlegs
  rw [splitTaxLeg_legs (code_of_clearing hp.counter).1 hlegs] at hlines
  cases glLines_ok hlines
  obtain ⟨entry, rfl, rfl⟩ := postJournal_ok hpost
  exact ⟨entry, rfl, glLines_legs _ hlines⟩

/-- What a posting that moves from the stored balance writes. -/
theorem RecordRecharge_writes (hp : TaxedPosting b p n t) (hr : s.subscribers.lookup p.subscriberID = some r)
    (h : RecordRecharge p s = .ok (tx, s')) :
    ∃ r' ledgers entry, r'.walletBalance = b + p.credit.entryType.signed n ∧
      List.Forall₂ (PaiseLeg.Line s)
        (paiseLegs (GLAccountCode p.debit.account) p.credit.entryType n t) entry.lines ∧
      s' = { s.setRow p.subscriberID r' with
        walletLedgers := ledgers, glJournal := s.glJournal ++ [entry] } := by
  simp only [RecordRecharge, bind_ok, ↓orThrow_bind_ok, pure_ok] at h
  obtain ⟨i, s₁, h₁, j, s₂, h₂, m, hm, hit, s₃, hupd, u, s₄, hgl, hres⟩ := h
  cases hres
  obtain ⟨d, bd, c, bc, ledgers, -, -, -, -, -, rfl⟩ := insertLegs_ok h₁ h₂
  rcases updateWhereID_ok hupd with ⟨-, -, hnone⟩ | ⟨-, r₀, r', hr₀, hr', rfl⟩
  · cases hr.symm.trans hnone
  obtain ⟨entry, rfl, hlines⟩ := postWalletGLEntry_lines hp hgl
  refine ⟨r', ledgers, entry, ?_, hlines, rfl⟩
  rw [hr']
  exact @toFixed_ofFixed 12 2 _ m (by rw [← hm, hp.newBalance]; rfl)

/-- What a posting of `n` paise in this direction, with `t` paise of tax, has done to the accounts. -/
structure Booked (d : EntryType) (n t : ℤ) (s s' : DB) : Prop where
  chart : s'.chartOfAccounts = s.chartOfAccounts
  entry : ∃ entry : GlJournalEntry, s'.glJournal = s.glJournal ++ [entry] ∧ 2 ≤ entry.lines.length
  wallet : glNet s' "1200" = glNet s "1200" + d.signed n
  tax : glNet s' "2200" = glNet s "2200" + d.opposite.signed t
  total : walletTotal s' = walletTotal s + d.signed n

/-- One more entry adds its own net. -/
theorem glNet_snoc (entry : GlJournalEntry) (hchart : s'.chartOfAccounts = s.chartOfAccounts)
    (h : s'.glJournal = s.glJournal ++ [entry]) (code : String) :
    glNet s' code = glNet s code + linesNet s code entry.lines := by
  have hline : lineNet s' code = lineNet s code := by
    funext line
    simp only [lineNet, hchart]
  simp only [glNet, linesNet, h, hline, map_append, sum_append, map_cons, map_nil,
    sum_singleton]

/-- A posting that moves from the stored balance keeps the accounts and the wallets in step. -/
theorem RecordRecharge_booked (hp : TaxedPosting b p n t) (hids : UniqueAccountIDs s)
    (hr : s.subscribers.lookup p.subscriberID = some r) (hb : b = r.walletBalance)
    (h : RecordRecharge p s = .ok (tx, s')) : Booked p.credit.entryType n t s s' := by
  obtain ⟨hwallet, htax⟩ := code_of_clearing hp.counter
  obtain ⟨r', ledgers, entry, hstored, hlines, rfl⟩ := RecordRecharge_writes hp hr h
  have htotal := Rows.total_insert_old (fun r : Subscriber => r.walletBalance) hr r'
  refine ⟨rfl, ⟨entry, rfl, hlines.length_eq ▸ two_le_paiseLegs _ _ _ _⟩, ?_, ?_, ?_⟩
  · rw [glNet_snoc entry _ _ "1200", linesNet_eq hids _ hlines, sum_net_wallet hwallet] <;> rfl
  · rw [glNet_snoc entry _ _ "2200", linesNet_eq hids _ hlines, sum_net_tax htax] <;> rfl
  · simp only [walletTotal, DB.setRow]
    omega

/-! ### One call -/

/-- The amounts have two decimals, and a posting has one of the clearing accounts opposite the wallet.
    -/
def WalletCall.TwoDecimals : WalletCall → Prop
  | recharge req => ∃ n : ℤ, req.amount = paise n
  | post req => (∃ n : ℤ, req.amount = paise n) ∧ (∃ t : ℤ, req.taxAmount = paise t) ∧
      req.counterAccount ≠ .subscriberWallet

/-- The tax a call puts on account 2200: collected by a debit, given back by a credit. -/
def WalletCall.taxMoved : WalletCall → Decimal
  | recharge _ => 0
  | post req =>
    match req.direction with
    | some .debit => req.taxAmount
    | some .credit => -req.taxAmount
    | none => 0

/-- The tax of the call, if it posts with its request's direction. -/
theorem taxMoved_post {req : PostRequest} (ht : req.taxAmount = paise t)
    (hd : req.direction = some d) : (WalletCall.post req).taxMoved = paise (d.opposite.signed t) := by
  simp only [WalletCall.taxMoved, hd]
  cases d with
  | debit => exact ht
  | credit =>
    simp only [opposite, signed, ht]
    simp [paise, ofFixed, neg_div]

/-- One call: nothing, or a posting whose tax is the one its request names. -/
theorem WalletCall.books {c : WalletCall} (hc : c.TwoDecimals) (e : Env) (hids : UniqueAccountIDs s) :
    PostsOrNot c.token s (fun s' => ∃ d n t, c.taxMoved = paise (d.opposite.signed t) ∧ Booked d n t s s')
      (run exec e c.result s) := by
  cases c with
  | recharge req =>
    obtain ⟨n, hn⟩ := hc
    refine Recharge_outcome fun r tx s' hr htx => ⟨.credit, n, 0, ?_, ?_⟩
    · simp [WalletCall.taxMoved, opposite, signed, paise, ofFixed]
    · refine RecordRecharge_booked ?_ hids hr rfl htx
      exact
        { newBalance := by simp only [posting, signed, hn, paise_add]
          amount := hn, wallet := rfl, counter := by simp [posting]
          credit_sub := rfl, debit_sub := rfl, counter_amount := hn, opposite := rfl
          tax := by simp [posting, paise, ofFixed] }
  | post req =>
    obtain ⟨⟨n, hn⟩, ⟨t, ht⟩, hacc⟩ := hc
    refine Post_outcome fun d r b tx s' hd hr hb htx => ⟨d, n, t, taxMoved_post ht hd, ?_⟩
    rw [hn] at hb
    refine RecordRecharge_booked ?_ hids hr rfl htx
    exact
      { newBalance := newBalance_paise hb, amount := hn, wallet := rfl, counter := hacc
        credit_sub := rfl, debit_sub := rfl, counter_amount := hn, opposite := rfl, tax := ht }

/-! ### Any number of calls -/

/-- The state after the calls, one after another. -/
def bookAll (s : DB) (calls : List (Env × WalletCall)) : DB :=
  Run.run (fun s x => (Prog.run exec x.1 x.2.result s).2) s calls

/-- The tax of all calls that posted: of the debits, less that of the credits. -/
def taxPosted : DB → List (Env × WalletCall) → Decimal
  | _, [] => 0
  | s, (e, c) :: calls =>
    let out := Prog.run exec e c.result s
    (if NewlyPosted c.token s out.1 then c.taxMoved else 0) + taxPosted out.2 calls

/-- Every entry that was added has at least two lines. -/
def Extends (s s' : DB) : Prop :=
  ∃ entries, s'.glJournal = s.glJournal ++ entries ∧ ∀ entry ∈ entries, 2 ≤ entry.lines.length

theorem extends_refl (s : DB) : Extends s s := ⟨[], by simp, by simp⟩

theorem Booked.extends_trans {s₁ : DB} (h : Booked d n t s s₁) (hrest : Extends s₁ s') : Extends s s' := by
  obtain ⟨entry, hentry, htwo⟩ := h.entry
  obtain ⟨entries, hentries, hall⟩ := hrest
  refine ⟨entry :: entries, by rw [hentries, hentry, append_assoc]; rfl, ?_⟩
  rintro x (_ | ⟨_, hx⟩)
  · exact htwo
  · exact hall x hx

/-- The step lemma, iterated: what the calls have done to the accounts. -/
theorem bookAll_spec (calls : List (Env × WalletCall)) :
    ∀ s : DB, UniqueAccountIDs s → glNet s "1200" = walletTotal s → (∀ x ∈ calls, x.2.TwoDecimals) →
      Extends s (bookAll s calls) ∧ glNet (bookAll s calls) "1200" = walletTotal (bookAll s calls) ∧
      paise (glNet (bookAll s calls) "2200") = paise (glNet s "2200") + taxPosted s calls := by
  induction calls with
  | nil =>
    intro s _ hbal _
    exact ⟨extends_refl s, hbal, (add_zero _).symm⟩
  | cons x calls ih =>
    intro s hids hbal hcalls
    obtain ⟨e, c⟩ := x
    have hrest : ∀ x ∈ calls, x.2.TwoDecimals := fun x hx => hcalls x (mem_cons_of_mem _ hx)
    simp only [bookAll, Run.run_cons, taxPosted]
    rcases WalletCall.books (hcalls (e, c) mem_cons_self) e hids with
      ⟨hnot, hs⟩ | ⟨hnew, d, n, t, htax, hbooked⟩
    · rw [if_neg hnot, hs, zero_add]
      exact ih s hids hbal hrest
    · have hids' : UniqueAccountIDs (run exec e c.result s).2 := by
        unfold UniqueAccountIDs
        rw [hbooked.chart]
        exact hids
      have hbal' : glNet (run exec e c.result s).2 "1200" =
          walletTotal (run exec e c.result s).2 := by
        rw [hbooked.wallet, hbooked.total, hbal]
      obtain ⟨hext, hwallet, hnet⟩ := ih _ hids' hbal' hrest
      refine ⟨hbooked.extends_trans hext, hwallet, hnet.trans ?_⟩
      rw [if_pos hnew, htax, hbooked.tax, ← paise_add, add_assoc]

/-- A balanced entry that has a line has another: its first line is on one side only. -/
theorem two_le_lines {entry : GlJournalEntry} (h : entry.lines ≠ []) : 2 ≤ entry.lines.length := by
  have hbal := entry.balanced
  generalize entry.lines = lines at h hbal
  rcases lines with _ | ⟨line, _ | ⟨line', lines⟩⟩
  · exact absurd rfl h
  · simp only [map_cons, map_nil, sum_singleton] at hbal
    have := line.one_sided
    omega
  · simp

/-- Any number of recharges and postings, one after another, with any clock and any failing store
    calls. In the state after them every line of the journal is on one side only, every entry is
    balanced, and every entry has at least two lines unless the journal had it before with none.
    Account 1200 is still the sum of the wallets, and account 2200 has moved by the tax of the debits
    that were posted less that of the credits. -/
theorem ledger_follows_wallets (s : DB) (hids : UniqueAccountIDs s) (hbal : glNet s "1200" = walletTotal s)
    (calls : List (Env × WalletCall)) (hcalls : ∀ x ∈ calls, x.2.TwoDecimals) :
    (∀ entry ∈ (bookAll s calls).glJournal,
      (2 ≤ entry.lines.length ∨ entry ∈ s.glJournal ∧ entry.lines = []) ∧
      (∀ line ∈ entry.lines, (0 < line.debit ∧ line.credit = 0) ∨ (line.debit = 0 ∧ 0 < line.credit)) ∧
      (entry.lines.map GlLine.debit).sum = (entry.lines.map GlLine.credit).sum) ∧
    glNet (bookAll s calls) "1200" = walletTotal (bookAll s calls) ∧
    paise (glNet (bookAll s calls) "2200" - glNet s "2200") = taxPosted s calls := by
  obtain ⟨⟨entries, hjournal, htwo⟩, hwallet, htax⟩ := bookAll_spec calls s hids hbal hcalls
  refine ⟨fun entry hentry => ⟨?_, fun line _ => line.one_sided, entry.balanced⟩, hwallet, ?_⟩
  · rw [hjournal, mem_append] at hentry
    rcases hentry with hold | hnew
    · by_cases hempty : entry.lines = []
      · exact Or.inr ⟨hold, hempty⟩
      · exact Or.inl (two_le_lines hempty)
    · exact Or.inl (htwo entry hnew)
  · rw [← paise_sub, htax, add_sub_cancel_left]

/-- A wallet filled with 1000.00. -/
def cashIn : WalletCall := .recharge ⟨1, paise 100000, "cash-1", none, "cash"⟩

/-- A plan of 590.00, of which 90.00 are tax, taken from the wallet. -/
def planFee : WalletCall :=
  .post ⟨1, none, paise 59000, some .debit, .revenueClearing, "fee-1", "system", "plan", paise 9000⟩

/-- A fee and its replay: the wallet holds 410.00 and the tax account 90.00, once. -/
theorem fee_booked_once :
    glNet (bookAll oneSubscriber [(.at 0, cashIn), (.at 0, planFee), (.at 0, planFee)]) "1200" = 41000 ∧
    taxPosted oneSubscriber [(.at 0, cashIn), (.at 0, planFee), (.at 0, planFee)] = paise 9000 ∧
    glNet (bookAll oneSubscriber [(.at 0, cashIn), (.at 0, planFee), (.at 0, planFee)]) "1200" =
      walletTotal (bookAll oneSubscriber [(.at 0, cashIn), (.at 0, planFee), (.at 0, planFee)]) := by
  refine ⟨by decide +kernel, by decide +kernel, ?_⟩
  refine (ledger_follows_wallets oneSubscriber (by decide +kernel) (by decide +kernel) _ ?_).2.1
  intro x hx
  simp only [mem_cons, not_mem_nil, or_false] at hx
  rcases hx with rfl | rfl | rfl
  · exact ⟨_, rfl⟩
  · exact ⟨⟨_, rfl⟩, ⟨_, rfl⟩, by decide⟩
  · exact ⟨⟨_, rfl⟩, ⟨_, rfl⟩, by decide⟩

end IspBss
