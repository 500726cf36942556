import IspBss.Lib.Compose
import IspBss.Props.WalletRace

/-! One token, one posting, one answer.

    `Recharge` and `Post` look their token up first and post only if it is free; the lookup and the
    posting are separate calls, so two calls with one token may both find it free. The unique index is
    what stops the second: its transaction is rolled back and the call reports an error.

        A: lookup none ───────────▶ post ✓  row(token)     reply row
        B:     lookup none ─▶ read ───────▶ post ✗          reply error
        C:                          lookup row              reply row

    Whatever the interleaving, the ledger holds at most one row with the token, and whoever is given a
    transaction is given that row. -/

namespace IspBss

open Lib Lib.Numeric BillingStore List Prog Pool WalletService

/-! ### The calls and what they answer -/

/-- The idempotency token a call carries. -/
def WalletCall.token : WalletCall → String
  | recharge req => req.transactionToken
  | post req => req.transactionToken

/-- The amount is positive and has two decimals. -/
def WalletCall.Exact : WalletCall → Prop
  | recharge req => ∃ n : ℤ, 0 < n ∧ req.amount = paise n
  | post req => ∃ n : ℤ, 0 < n ∧ req.amount = paise n

def WalletCall.result : WalletCall → Service (Except WalletErr Transaction)
  | recharge req => Recharge req
  | post req => Post req

/-- A call and the answer its caller got. -/
abbrev WalletReply := WalletCall × Except WalletErr Transaction

/-- The store calls of the wallet service, and its answers. -/
abbrev walletSig : Sig := sig.sum (replies WalletReply)

def WalletCall.answering (c : WalletCall) : Prog walletSig Unit := c.result.reply fun r => (c, r)

/-- The row says what the transaction says. -/
def WalletLedger.Records (r : WalletLedger) (tx : Transaction) : Prop :=
  tx.id = r.id ∧ tx.subscriberID = r.subscriberID ∧ tx.entryType = r.entryType ∧
    tx.amount = paise r.amount ∧ tx.balanceAfter = paise r.balanceAfter
  deriving Decidable

/-- A wallet row of the ledger holds the token and records the transaction. -/
def Held (token : String) (s : DB) (tx : Transaction) : Prop :=
  ∃ row ∈ s.walletLedgers.rows, row.transactionToken = some token ∧
    row.account = .subscriberWallet ∧ row.Records tx

/-- Every row with this token is a wallet row. -/
def TokenOnWallet (token : String) (s : DB) : Prop :=
  ∀ row ∈ s.walletLedgers.rows, row.transactionToken = some token → row.account = .subscriberWallet
  deriving Decidable

/-! ### What the two store calls return -/

/-- The posting's wallet leg holds amounts a column stores without rounding. -/
structure RechargePosting.Exact (p : RechargePosting) : Prop where
  amount : ∃ n, p.credit.amount = paise n
  balance : ∃ m, p.newBalance = paise m
  after : p.credit.balanceAfter = p.newBalance
  wallet : p.credit.account = .subscriberWallet

variable {token : String} {tx : Transaction} {s' : DB}

theorem GetTransactionByToken_held {s : DB}
    (h : GetTransactionByToken token s = .ok (some tx, s')) (hs : TokenOnWallet token s) : Held token s tx := by
  simp only [GetTransactionByToken, Tx.get_bind_ok, Tx.ite_ok, Tx.pure_ok] at h
  obtain ⟨-, hr⟩ | ⟨-, hr⟩ := h
  · cases hr
  · simp only [Prod.mk.injEq] at hr
    obtain ⟨row, hrow, rfl⟩ := Option.map_eq_some_iff.mp hr.1.symm
    obtain ⟨hmem, hkey⟩ := Indexed.find?_some hrow
    exact ⟨row, hmem, hkey, hs row hmem hkey, rfl, rfl, rfl, rfl, rfl⟩

variable {p : RechargePosting}

/-- A committed posting: two more rows, the second with the posting's token and, if the amounts are
    exact, recording the transaction that was returned. -/
theorem RecordRecharge_row {s : DB} (h : RecordRecharge p s = .ok (tx, s')) :
    ∃ counter row, s'.walletLedgers.rows = s.walletLedgers.rows ++ [counter, row] ∧
      counter.transactionToken = none ∧ row.transactionToken = p.credit.transactionToken ∧
      row.account = p.credit.account ∧
      (p.Exact → row.Records { tx with balanceAfter := p.newBalance }) := by
  simp only [RecordRecharge, Tx.bind_ok, ↓Tx.orThrow_bind_ok, Tx.pure_ok] at h
  obtain ⟨i, s₁, h₁, j, s₂, h₂, n, -, hit, s₃, hupd, u, s₄, hgl, hr⟩ := h
  cases hr
  obtain ⟨d, bd, c, bc, l₂, -, hc, hbc, -, hrows, rfl⟩ := insertLegs_ok h₁ h₂
  obtain ⟨entry, rfl⟩ := postWalletGLEntry_ok hgl
  have hledger : s₃.walletLedgers = l₂ := by
    rcases updateWhereID_ok hupd with ⟨-, rfl, -⟩ | ⟨-, r, r', -, -, rfl⟩ <;> rfl
  refine ⟨ledgerRow p.debit none i d bd,
    ledgerRow p.credit p.credit.transactionToken j c bc, ?_, rfl, rfl, rfl, ?_⟩
  · simp only [hledger, hrows]
  · rintro ⟨⟨x, hx⟩, ⟨y, hy⟩, hafter, -⟩
    have ha : c = x := @toFixed_ofFixed 12 2 x c (by rw [← hc, hx]; rfl)
    have hb : bc = y := @toFixed_ofFixed 12 2 y bc (by rw [← hbc, hafter, hy]; rfl)
    exact ⟨rfl, rfl, rfl, ha ▸ hx, hb ▸ hy⟩

/-! ### What one call does on its own -/

/-- A thread's record: the transaction it was told of last, with its token. -/
def receipt : Watch walletSig (Option (String × Transaction))
  | w, .inl (.db (.getTransactionByToken token)), r =>
    match (r : Except StoreErr (Option Transaction)) with
    | .ok (some tx) => some (token, tx)
    | _ => w
  | w, .inl (.db (.recordRecharge p)), r =>
    match (r : Except StoreErr Transaction) with
    | .ok tx => p.credit.transactionToken.map (·, { tx with balanceAfter := p.newBalance })
    | .error _ => w
  | w, _, _ => w

/-- Balance reads are answered in whole paise. -/
def PaiseReads : Option (String × Transaction) → (c : walletSig.Call) → walletSig.Resp c → Prop
  | _, .inl (.db (.getSubscriberBalance _)), r =>
    ∀ b : Decimal, (r : Except StoreErr Decimal) = .ok b → ∃ k, b = paise k
  | _, _, _ => True

/-- What a record allows: any lookup and read, an exact posting, and as an answer to a call with a
    token only the transaction the thread was told of for that token. -/
inductive Vouches : Option (String × Transaction) → walletSig.Call → Prop where
  | lookup (w token) : Vouches w (.inl (.db (.getTransactionByToken token)))
  | read (w id) : Vouches w (.inl (.db (.getSubscriberBalance id)))
  | post (w p) (h : p.Exact) : Vouches w (.inl (.db (.recordRecharge p)))
  | answer (w c r) (h : ∀ tx, r = .ok tx → c.token ≠ "" → w = some (c.token, tx)) :
      Vouches w (.inr (c, r))

/-- The rules a wallet program keeps to, and how it ends if it carries `token`. -/
abbrev Vouching (token : String) (p : Service (Except WalletErr Transaction))
    (w : Option (String × Transaction)) : Prop :=
  Obeys (fun w c r => receipt w (.inl c) r) (fun w c r => PaiseReads w (.inl c) r)
    (fun w c => Vouches w (.inl c))
    (fun w r => ∀ tx, r = .ok tx → token ≠ "" → w = some (token, tx)) p w

/-- The lookup leaves the record of what it found. -/
theorem vouches_lookupToken (token : String) (w : Option (String × Transaction)) :
    Obeys (fun w c r => receipt w (.inl c) r) (fun w c r => PaiseReads w (.inl c) r)
      (fun w c => Vouches w (.inl c)) (fun w' found => ∀ tx, found = some tx → w' = some (token, tx))
      (lookupToken token) w := by
  unfold lookupToken
  split
  · intro tx h
    cases h
  · refine ⟨.lookup w token, fun r _ => ?_⟩
    rcases r with _ | _ | tx
    · exact fun tx' h => by cases h
    · exact fun tx' h => by cases h
    · exact fun tx' h => by cases h; rfl

theorem vouches_recordPosting (hp : p.Exact)
    (ht : p.credit.transactionToken = nullIfEmpty token) (w : Option (String × Transaction)) :
    Vouching token (recordPosting p) w := by
  refine ⟨.post w p hp, fun r _ => ?_⟩
  match r with
  | .error _ => exact fun tx h => by cases h
  | .ok tx =>
    intro tx' h hne
    cases h
    simp only [receipt, ht, nullIfEmpty, if_neg hne, Option.map_some]

theorem vouches_post (req : PostRequest) {n : ℤ} (hn : req.amount = paise n) :
    Vouching req.transactionToken (Post req) none := by
  unfold Post
  split
  · exact fun tx h => by cases h
  split
  · exact fun tx h => by cases h
  rename_i d _
  split
  · exact fun tx h => by cases h
  refine obeys_bind.mpr ((vouches_lookupToken _ none).mono fun w found hw => ?_)
  cases found with
  | some tx => exact fun tx' h _ => by cases h; exact hw tx rfl
  | none =>
    simp only [db_bind, obeys_db]
    refine ⟨.read w req.subscriberID, fun r hr => ?_⟩
    cases r with
    | error e => exact fun tx h => by cases h
    | ok b =>
      obtain ⟨k, rfl⟩ := hr b rfl
      dsimp only
      split
      · exact fun tx h => by cases h
      · rename_i q hq
        rw [hn] at hq
        exact vouches_recordPosting
          { amount := ⟨n, hn⟩, balance := ⟨_, newBalance_paise hq⟩
            after := rfl, wallet := rfl } rfl w

theorem WalletCall.vouches {c : WalletCall} (hc : c.Exact) :
    Obeys receipt PaiseReads Vouches (fun _ _ => True) c.answering none := by
  have hresult : Vouching c.token c.result none := by
    cases c with
    | recharge req =>
      obtain ⟨n, -, hn⟩ := hc
      rw [WalletCall.result, Recharge_eq_Post]
      exact vouches_post (asPost req) hn
    | post req =>
      obtain ⟨n, -, hn⟩ := hc
      exact vouches_post req hn
  refine obeys_bind.mpr ((obeys_left.mpr hresult).mono fun w r hw => ?_)
  exact ⟨.answer w c r hw, fun _ _ => trivial⟩

/-! ### One step -/

/-- The database with its history, and the answers given so far. -/
abbrev Counter := (DB × List (Event sig Env DB)) × List WalletReply

/-- The database behind the wallet service, with its history, and the answers callers got. -/
def walletStore : Store walletSig Env Counter := (traced exec).beside collect

abbrev TokenPool := Pool walletSig (Option (String × Transaction)) Counter

/-- The token a call has put into the ledger: that of a posting that committed. -/
def committedToken : Event sig Env DB → Option String
  | ⟨_, _, .db (.recordRecharge p), r, _⟩ =>
    match (r : Except StoreErr Transaction) with
    | .ok _ => p.credit.transactionToken
    | .error _ => none
  | _ => none

/-- What is known of the ledger and the answers, having started from the ledger of `s₀`. -/
structure Single (s₀ : DB) (token : String) (s : Counter) : Prop where
  /-- The tokens of the ledger are the first ones and those of the committed postings. -/
  tokens : s.1.1.walletLedgers.rows.filterMap WalletLedger.transactionToken =
    s₀.walletLedgers.rows.filterMap WalletLedger.transactionToken ++ s.1.2.filterMap committedToken
  onWallet : TokenOnWallet token s.1.1
  answered : ∀ c tx, (c, Except.ok tx) ∈ s.2 → c.token = token → Held token s.1.1 tx

/-- A thread's record for the token is what the ledger holds. -/
def HoldsReceipt (token : String) (s : Counter) (w : Option (String × Transaction)) : Prop :=
  ∀ tx, w = some (token, tx) → Held token s.1.1 tx

/-- Rows stay, so what is held stays held. -/
theorem Held.mono {s : DB} {rows : List WalletLedger}
    (hrows : s'.walletLedgers.rows = s.walletLedgers.rows ++ rows) (h : Held token s tx) : Held token s' tx := by
  obtain ⟨row, hmem, hrow⟩ := h
  exact ⟨row, by rw [hrows]; exact mem_append_left _ hmem, hrow⟩

variable {s₀ : DB} {s : Counter}

/-- A call that leaves the database alone and adds nothing to the history that counts. -/
theorem Single.reads {ev : Event sig Env DB} (h : Single s₀ token s) (hev : committedToken ev = none) :
    Single s₀ token ((s.1.1, s.1.2 ++ [ev]), s.2) where
  tokens := by
    simp only [filterMap_append, filterMap_cons, hev, filterMap_nil, append_nil]
    exact h.tokens
  onWallet := h.onWallet
  answered := h.answered

/-- A posting that commits adds its token and nothing else to the ledger's tokens. -/
theorem Single.posts {e : Env} (h : Single s₀ token s) (hp : p.Exact)
    (htx : RecordRecharge p s.1.1 = .ok (tx, s')) :
    Single s₀ token ((s', s.1.2 ++ [⟨s.1.1, e, .db (.recordRecharge p), .ok tx, s'⟩]), s.2) := by
  obtain ⟨counter, row, hrows, hcounter, hrow, hacc, -⟩ := RecordRecharge_row htx
  refine ⟨?_, ?_, fun c tx hmem hc => (h.answered c tx hmem hc).mono hrows⟩
  · have hnew : [counter, row].filterMap WalletLedger.transactionToken =
        [p.credit.transactionToken].filterMap id := by
      simp [filterMap_cons, hcounter, hrow]
    simp only [hrows, filterMap_append, hnew, h.tokens, append_assoc]
    rfl
  · intro row' hmem htoken
    rw [hrows, mem_append, mem_cons, mem_singleton] at hmem
    rcases hmem with hmem | rfl | rfl
    · exact h.onWallet row' hmem htoken
    · rw [hcounter] at htoken
      cases htoken
    · rw [hacc]
      exact hp.wallet

/-- Every thread answers only what it was told, and what it was told is what the ledger holds. -/
structure Sound (s₀ : DB) (token : String) (p : TokenPool) : Prop where
  obeying : Obeying receipt PaiseReads (fun _ => Vouches) (fun _ _ => True) p
  receipts : Pool.Recorded (HoldsReceipt token) p
  single : Single s₀ token p.shared

theorem walletStore_paiseReads (e : Env) (w : Option (String × Transaction)) (c : walletSig.Call)
    (s : Counter) : PaiseReads w c (walletStore e c s).1 := by
  rcases c with c | c
  · cases c with
    | timeNow => trivial
    | db op =>
      cases op with
      | getSubscriberBalance id => exact exec_readsPaise e none (.db (.getSubscriberBalance id)) s.1.1
      | _ => trivial
  · trivial

theorem walletStore_read (e : Env) {op : Op} (h : op.isRead = true) (s : Counter) :
    (walletStore e (.inl (.db op)) s).2 =
      ((s.1.1, s.1.2 ++ [⟨s.1.1, e, .db op, (exec e (.db op) s.1.1).1, s.1.1⟩]), s.2) := by
  simp only [walletStore, Store.beside, traced, exec_read e h]

/-- One call of a thread: the ledger stays single, old receipts stay good and the caller's new one is
    good too. -/
theorem Vouches.step {w : Option (String × Transaction)}
    {c : walletSig.Call} (h : Vouches w c) (e : Env) (htoken : token ≠ "") (hs : Single s₀ token s)
    (hw : HoldsReceipt token s w) :
    Single s₀ token (walletStore e c s).2 ∧
    (∀ w', HoldsReceipt token s w' → HoldsReceipt token (walletStore e c s).2 w') ∧
    HoldsReceipt token (walletStore e c s).2 (receipt w c (walletStore e c s).1) := by
  cases h with
  | lookup t =>
    rw [walletStore_read e rfl s]
    refine ⟨hs.reads rfl, fun w' hw' => hw', ?_⟩
    change HoldsReceipt token _ (receipt w (.inl (.db (.getTransactionByToken t)))
      (exec e (.db (.getTransactionByToken t)) s.1.1).1)
    rcases exec_db_cases e (.getTransactionByToken t) s.1.1 with ⟨err, hx⟩ | ⟨a, s', htx, hx, -⟩
    · rw [hx]
      exact hw
    · rw [hx]
      match a, htx with
      | none, _ => exact hw
      | some tx, htx =>
        intro tx' heq
        cases heq
        exact GetTransactionByToken_held htx hs.onWallet
  | read id =>
    rw [walletStore_read e rfl s]
    exact ⟨hs.reads rfl, fun w' hw' => hw', hw⟩
  | post p hp =>
    simp only [walletStore, Store.beside, traced]
    rcases exec_db_cases e (.recordRecharge p) s.1.1 with ⟨err, hx⟩ | ⟨tx, s', htx, hx, -⟩
    · -- rolled back: the ledger is as it was
      rw [hx]
      exact ⟨hs.reads rfl, fun w' hw' => hw', hw⟩
    · rw [hx]
      obtain ⟨counter, row, hrows, -, hrow, hacc, hrec⟩ := RecordRecharge_row htx
      refine ⟨hs.posts hp htx, fun w' hw' tx' heq => (hw' tx' heq).mono hrows, fun tx' heq => ?_⟩
      obtain ⟨t, ht, hpair⟩ := Option.map_eq_some_iff.mp heq
      cases hpair
      refine ⟨row, ?_, hrow.trans ht, hacc.trans hp.wallet, hrec hp⟩
      rw [hrows]
      simp
  | answer c r hr =>
    refine ⟨⟨hs.tokens, hs.onWallet, fun c' tx hmem hc' => ?_⟩, fun w' hw' => hw', hw⟩
    rcases mem_append.mp hmem with hmem | hmem
    · exact hs.answered c' tx hmem hc'
    · -- the new answer is the thread's own receipt
      cases mem_singleton.mp hmem
      exact hw tx (hc' ▸ hr tx rfl (hc' ▸ htoken))

theorem sound_step (htoken : token ≠ "") (p : TokenPool) (i : ℕ) (e : Env)
    (h : Sound s₀ token p) : Sound s₀ token (step walletStore receipt p i e) where
  obeying := obeying_step h.obeying fun w c _ _ => walletStore_paiseReads e w c p.shared
  receipts := recorded_step h.receipts fun w c k hi hw =>
    (Vouches.step (h.obeying.allowed hi) e htoken h.single hw).2
  single := by
    rcases step_cases p i e with
      ⟨-, hstep⟩ | ⟨w, c, k, hi, hstep⟩
    · rw [hstep]
      exact h.single
    · rw [hstep]
      exact (Vouches.step (h.obeying.allowed hi) e htoken h.single (h.receipts i w _ hi)).1

/-! ### Every interleaving -/

/-- Any number of recharges and postings of exact amounts, with any tokens, in any interleaving and with
    any failing calls: at most one posting with the token commits, and every call with the token that
    is answered with a transaction is answered with the one wallet row that holds the token. -/
theorem token_posts_once_and_answers_its_row (token : String) (htoken : token ≠ "") (s : DB)
    (hs : TokenOnWallet token s) (calls : List WalletCall) (hcalls : ∀ c ∈ calls, c.Exact)
    (sched : List (ℕ × Env)) :
    let p := run walletStore receipt
      (start none ((s, []), []) (calls.map WalletCall.answering)) sched
    (p.shared.1.2.filterMap committedToken).count token ≤ 1 ∧
    ∀ c tx, (c, Except.ok tx) ∈ p.shared.2 → c.token = token →
      ∃ row, (p.shared.1.1.walletLedgers.rows.filter fun r => r.transactionToken = some token) =
        [row] ∧ row.account = .subscriberWallet ∧ row.Records tx := by
  intro p
  have hstart : Sound s token (start none ((s, []), []) (calls.map WalletCall.answering)) := by
    refine ⟨obeying_start fun i q hq => ?_, ?_, ?_, hs, ?_⟩
    · rw [List.getElem?_map, Option.map_eq_some_iff] at hq
      obtain ⟨c, hc, rfl⟩ := hq
      exact WalletCall.vouches (hcalls c (mem_of_getElem? hc))
    · exact recorded_start fun tx h => nomatch h
    · simp [start]
    · intro c tx hmem
      cases hmem
  have hp : Sound s token p := run_inv (C := fun _ _ _ => True)
    (fun q i e hq _ => sound_step htoken q i e hq) sched _ hstart
    (meets_of_forall (fun _ _ _ => trivial) sched _)
  constructor
  · have hnodup := p.shared.1.1.walletLedgers.unique
    rw [hp.single.tokens] at hnodup
    exact nodup_iff_count_le_one.mp (nodup_append.mp hnodup).2.1 token
  · intro c tx hmem hc
    obtain ⟨row, hrow, hkey, hacc, hrec⟩ := hp.single.answered c tx hmem hc
    exact ⟨row, Indexed.filter_eq_singleton hrow hkey, hacc, hrec⟩

/-- A top-up of 100.00 with a token. -/
def topUpT1 : RechargeRequest := ⟨1, paise 10000, "T1", none, "upi"⟩

/-- Two such top-ups that both find the token free, then both read, post and answer. -/
def racingTopUps : TokenPool :=
  run walletStore receipt (start none ((oneSubscriber, []), [])
    ([.recharge topUpT1, .recharge topUpT1].map WalletCall.answering))
    ([0, 1, 0, 1, 0, 1, 0, 1].map fun i => (i, .at 0))

/-- One of the two is answered with the row, the other with an error. -/
theorem racing_topUps_post_once :
    TokenOnWallet "T1" oneSubscriber ∧ racingTopUps.shared.2.map (·.2.isOk) = [true, false] ∧
    (racingTopUps.shared.1.2.filterMap committedToken).count "T1" ≤ 1 ∧
    ∀ c tx, (c, Except.ok tx) ∈ racingTopUps.shared.2 → c.token = "T1" →
      ∃ row, (racingTopUps.shared.1.1.walletLedgers.rows.filter
        fun r => r.transactionToken = some "T1") = [row] ∧ row.account = .subscriberWallet ∧
        row.Records tx := by
  have hwallet : TokenOnWallet "T1" oneSubscriber := by decide +kernel
  have hexact : ∀ c ∈ [WalletCall.recharge topUpT1, .recharge topUpT1], c.Exact := by
    simp only [mem_cons, not_mem_nil, or_false, or_self, forall_eq]
    exact ⟨10000, by decide, rfl⟩
  exact ⟨hwallet, by decide +kernel,
    token_posts_once_and_answers_its_row "T1" (by decide) oneSubscriber hwallet _ hexact _⟩

end IspBss
