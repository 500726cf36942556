import IspBss.Db.Effects
import IspBss.Billing.Wallet

/-! Does the wallet balance agree with the ledger when recharges and postings run together?

    The balance is read in one call and written, as an absolute value, in a later one. Two calls that
    read the same balance both append their legs, and the second write erases the first:

        A: read 0 ─────────────────▶ write 100   legs +100
        B:        read 0 ─▶ write 100            legs +100      balance 100, ledger 200

    The balance equals the net of the ledger in every state of a run exactly when every posting that
    commits finds the balance its call has read. -/

namespace IspBss

open Lib Lib.Numeric WalletService Prog List Option Pool BillingStore

/-! ### The ledger's net -/

/-- What a ledger row contributes to the wallet of the subscriber `id`. -/
def walletDelta (id : ℤ) (r : WalletLedger) : ℤ :=
  if r.subscriberID = id ∧ r.account = .subscriberWallet then
    match r.entryType with
    | .credit => r.amount
    | .debit => -r.amount
  else 0

/-- Credits minus debits of the subscriber's `subscriber_wallet` rows. -/
def walletNet (s : DB) (id : ℤ) : ℤ := (s.walletLedgers.rows.map (walletDelta id)).sum

/-- The subscriber exists and its balance is the net of its wallet rows. -/
def Reconciled (id : ℤ) (s : DB) : Prop :=
  ∃ r, s.subscribers.lookup id = some r ∧ r.walletBalance = walletNet s id

/-! ### What one call does on its own -/

/-- A `Recharge` or a `Post` call. -/
inductive WalletCall where
  | recharge (req : RechargeRequest)
  | post (req : PostRequest)

/-- A positive amount of whole paise, and for a posting one of the two counter accounts it is for. -/
def WalletCall.Valid : WalletCall → Prop
  | recharge req => ∃ n : ℤ, 0 < n ∧ req.amount = paise n
  | post req => (∃ n : ℤ, 0 < n ∧ req.amount = paise n) ∧
      (req.counterAccount = .revenueClearing ∨ req.counterAccount = .adjustmentClearing)

def WalletCall.prog : WalletCall → Service Unit
  | recharge req => (WalletService.Recharge req).void
  | post req => (WalletService.Post req).void

/-- A thread's record: the balance it has read last. -/
def lastRead : Watch sig (Option Decimal)
  | w, .db (.getSubscriberBalance _), r =>
    match r with
    | .ok b => some b
    | .error _ => w
  | w, _, _ => w

/-- The change of balance a leg of `n` paise stands for. -/
def EntryType.signed : EntryType → ℤ → ℤ
  | .credit, n => n
  | .debit, n => -n

/-- The posting moves `n` paise of the wallet from the balance `b`, in paise, and its legs say so. -/
structure MovesFrom (b : ℤ) (p : RechargePosting) (n : ℤ) : Prop where
  newBalance : p.newBalance = paise (b + p.credit.entryType.signed n)
  amount : p.credit.amount = paise n
  wallet : p.credit.account = .subscriberWallet
  counter : p.debit.account ≠ .subscriberWallet
  credit_sub : p.credit.subscriberID = p.subscriberID
  debit_sub : p.debit.subscriberID = p.subscriberID

/-- What the store answers to a balance read: a whole number of paise. -/
def ReadsPaise : Option Decimal → (c : Call) → c.Resp → Prop
  | _, .db (.getSubscriberBalance _), r => ∀ b : Decimal, r = .ok b → ∃ k, b = paise k
  | _, _, _ => True

/-- A call only posts from the balance it has read. -/
inductive PostsWhatItRead : Option Decimal → Call → Prop where
  | lookup (w token) : PostsWhatItRead w (.db (.getTransactionByToken token))
  | read (w id) : PostsWhatItRead w (.db (.getSubscriberBalance id))
  | post (b p n) (h : MovesFrom b p n) : PostsWhatItRead (some (paise b)) (.db (.recordRecharge p))

theorem paise_add (m n : ℤ) : paise m + paise n = paise (m + n) := ofFixed_add 2 m n

theorem paise_sub (m n : ℤ) : paise m - paise n = paise (m - n) := ofFixed_sub 2 m n

theorem obeys_lookupToken {A : Option Decimal → (c : Call) → c.Resp → Prop} (token : String) (w : Option Decimal) :
    Obeys lastRead A PostsWhatItRead (fun w' _ => w' = w) (lookupToken token) w := by
  unfold lookupToken
  split
  · rfl
  · refine ⟨.lookup w token, fun r _ => ?_⟩
    cases r <;> rfl

variable {p : RechargePosting} {b n : ℤ}

theorem obeys_recordPosting {A : Option Decimal → (c : Call) → c.Resp → Prop} (hp : MovesFrom b p n) :
    Obeys lastRead A PostsWhatItRead (fun _ _ => True) (recordPosting p) (some (paise b)) := by
  refine ⟨.post b p n hp, fun r _ => ?_⟩
  cases r <;> trivial

theorem newBalance_paise {d : EntryType} {q : Decimal}
    (h : newBalance d (paise b) (paise n) = some q) : q = paise (b + d.signed n) := by
  cases d with
  | credit =>
    rw [← some.inj h]
    exact paise_add b n
  | debit =>
    simp only [newBalance] at h
    split at h
    · cases h
    · rw [← some.inj h]
      exact paise_sub b n

theorem obeys_post {req : PostRequest} (hn : req.amount = paise n)
    (hc : req.counterAccount ≠ .subscriberWallet) (w : Option Decimal) :
    Obeys lastRead ReadsPaise PostsWhatItRead (fun _ _ => True) (Post req) w := by
  unfold Post
  split
  · trivial
  split
  · trivial
  rename_i d _
  split
  · trivial
  refine obeys_bind.mpr ((obeys_lookupToken _ w).mono fun w' found hw => ?_)
  cases found with
  | some tx => trivial
  | none =>
    simp only [db_bind, obeys_db]
    refine ⟨.read w' req.subscriberID, fun r hr => ?_⟩
    cases r with
    | error e => trivial
    | ok b =>
      obtain ⟨k, rfl⟩ := hr b rfl
      dsimp only
      split
      · trivial
      · rename_i q hq
        rw [hn] at hq
        exact obeys_recordPosting
          { newBalance := newBalance_paise hq, amount := hn, wallet := rfl, counter := hc
            credit_sub := rfl, debit_sub := rfl }

theorem obeys_recharge {req : RechargeRequest} (hn : req.amount = paise n) (w : Option Decimal) :
    Obeys lastRead ReadsPaise PostsWhatItRead (fun _ _ => True) (Recharge req) w := by
  rw [Recharge_eq_Post]
  exact obeys_post hn (by simp [asPost]) w

theorem WalletCall.obeys {c : WalletCall} (hc : c.Valid) :
    Obeys lastRead ReadsPaise PostsWhatItRead (fun _ _ => True) c.prog none := by
  cases c with
  | recharge req =>
    obtain ⟨n, -, hn⟩ := hc
    exact obeys_bind.mpr ((obeys_recharge hn none).mono fun _ _ _ => trivial)
  | post req =>
    obtain ⟨⟨n, -, hn⟩, hacc⟩ := hc
    have hne : req.counterAccount ≠ .subscriberWallet := by
      rcases hacc with h | h <;> rw [h] <;> decide
    exact obeys_bind.mpr ((obeys_post hn hne none).mono fun _ _ _ => trivial)

/-! ### One step -/

/-- A pool of wallet calls over the database. -/
abbrev WalletPool := Pool sig (Option Decimal) DB

/-- If this step commits a posting of the subscriber, the stored balance is the one its call read. -/
def CommitsFresh (id : ℤ) (p : WalletPool) (i : ℕ) (e : Env) : Prop :=
  ∀ w posting k, p.threads[i]? = some (w, .call (.db (.recordRecharge posting)) k) →
    posting.subscriberID = id →
    (∃ tx s', exec e (.db (.recordRecharge posting)) p.shared = (.ok tx, s')) →
    ∃ r, p.shared.subscribers.lookup id = some r ∧ w = some (paise r.walletBalance)

/-- Every thread still posts what it has read. -/
def Honest (p : WalletPool) : Prop :=
  Obeying lastRead ReadsPaise (fun _ => PostsWhatItRead) (fun _ _ => True) p

theorem exec_readsPaise (e : Env) (w : Option Decimal) (c : Call) (s : DB) : ReadsPaise w c (exec e c s).1 := by
  cases c with
  | timeNow => trivial
  | db op =>
    cases op with
    | getSubscriberBalance id =>
      intro b hb
      rcases exec_db_cases e (.getSubscriberBalance id) s with ⟨err, hs⟩ | ⟨a, s', htx, hs, -⟩
      · rw [hs] at hb; cases hb
      · rw [hs] at hb
        cases hb
        obtain ⟨⟨r, -, hr⟩, -⟩ := GetSubscriberBalance_ok htx
        exact ⟨_, hr⟩
    | _ => trivial

theorem honest_step (p : WalletPool) (i : ℕ) (e : Env) (h : Honest p) : Honest (step exec lastRead p i e) :=
  obeying_step h fun w c _ _ => exec_readsPaise e w c p.shared

theorem sum_walletDelta_legs (hp : MovesFrom b p n) {rows : List WalletLedger} (hl : Legs p rows) (id : ℤ) :
    (rows.map (walletDelta id)).sum = if p.subscriberID = id then p.credit.entryType.signed n else 0 := by
  obtain ⟨i, j, d, c, bd, bc, -, hc⟩ := hl
  have hamount : c = n := @toFixed_ofFixed 12 2 n c (by rw [← hc, hp.amount]; rfl)
  have hdebit : walletDelta id (ledgerRow p.debit none i d bd) = 0 :=
    if_neg fun h => hp.counter h.2
  have hcredit : walletDelta id
      (ledgerRow p.credit p.credit.transactionToken j c bc) =
        if p.subscriberID = id then p.credit.entryType.signed n else 0 := by
    simp only [walletDelta, ledgerRow, hp.wallet, hp.credit_sub, hamount, and_true]
    cases p.credit.entryType <;> rfl
  simp [hdebit, hcredit]

/-- A committed posting leaves the subscriber reconciled exactly when it is another's or moved from
    the balance that was stored. -/
theorem reconciled_posted {id : ℤ} {s s' : DB} (hp : MovesFrom b p n) (h : Posted p s s') (hs : Reconciled id s) :
    Reconciled id s' ↔ (p.subscriberID = id → ∃ r, s.subscribers.lookup id = some r ∧ b = r.walletBalance) := by
  obtain ⟨r, hr, hbal⟩ := hs
  obtain ⟨s₁, m, ledgers, entry, rows, hm, hlegs, hrows, -, hrow⟩ := h
  have hm' : m = b + p.credit.entryType.signed n :=
    @toFixed_ofFixed 12 2 _ m (by rw [← hm, hp.newBalance]; rfl)
  have hnet : ((ledgers.rows).map (walletDelta id)).sum = walletNet s id +
      if p.subscriberID = id then p.credit.entryType.signed n else 0 := by
    rw [hrows, map_append, sum_append, sum_walletDelta_legs hp hlegs id]
    rfl
  by_cases hid : p.subscriberID = id
  · subst hid
    rcases hrow with ⟨-, hnone⟩ | ⟨r₁, r', hr₁, hr', rfl⟩
    · cases hr.symm.trans hnone
    -- the stored balance is now `b ± n`, the net has moved by `± n`
    have hstored : r'.walletBalance = m := by rw [hr']
    simp only [Reconciled, walletNet, DB.lookup_setRow, some.injEq, exists_eq_left', hr,
      forall_const]
    constructor
    · intro h; omega
    · intro h; omega
  · refine iff_of_true ⟨r, ?_, ?_⟩ fun h => absurd h hid
    · rcases hrow with ⟨rfl, -⟩ | ⟨r₁, r', hr₁, hr', rfl⟩
      · exact hr
      · exact (DB.lookup_setRow_ne s r' (Ne.symm hid)).trans hr
    · rw [hbal]
      simp only [walletNet]
      rw [hnet, if_neg hid, add_zero]
      rfl

/-- One step of a pool keeps the subscriber reconciled exactly when it commits fresh. -/
theorem reconciled_step {id : ℤ} (p : WalletPool) (i : ℕ) (e : Env) (hp : Honest p) (hs : Reconciled id p.shared) :
    Reconciled id (step exec lastRead p i e).shared ↔ CommitsFresh id p i e := by
  rcases step_cases p i e with ⟨hno, hstep⟩ | ⟨w, c, k, hi, hstep⟩
  · rw [hstep]
    exact iff_of_true hs fun w posting k hi => absurd hi (hno w _ k)
  rw [hstep]
  cases Obeying.allowed hp hi with
  | lookup w token =>
    rw [exec_read e rfl]
    refine iff_of_true hs fun w' posting k' hi' => ?_
    cases hi.symm.trans hi'
  | read w id' =>
    rw [exec_read e rfl]
    refine iff_of_true hs fun w' posting k' hi' => ?_
    cases hi.symm.trans hi'
  | post b posting n hmoves =>
    -- what the condition says about this very thread
    have hfresh : CommitsFresh id p i e ↔ (posting.subscriberID = id →
        (∃ tx s', exec e (.db (.recordRecharge posting)) p.shared = (.ok tx, s')) →
        ∃ r, p.shared.subscribers.lookup id = some r ∧ b = r.walletBalance) := by
      constructor
      · intro h hid hok
        obtain ⟨r, hr, hb⟩ := h _ posting k hi hid hok
        exact ⟨r, hr, ofFixed_inj.mp (some.inj hb)⟩
      · intro h w' posting' k' hi' hid hok
        cases hi.symm.trans hi'
        obtain ⟨r, hr, rfl⟩ := h hid hok
        exact ⟨r, hr, rfl⟩
    rw [hfresh]
    rcases exec_db_cases e (.recordRecharge posting) p.shared with ⟨err, hx⟩ | ⟨a, s', htx, hx, -⟩
    · rw [hx]
      refine iff_of_true hs fun _ hok => ?_
      obtain ⟨tx, s', hok⟩ := hok
      cases hok
    · rw [hx]
      rw [reconciled_posted hmoves (RecordRecharge_ok htx) hs]
      exact forall_congr' fun _ => ⟨fun h _ => h, fun h => h ⟨a, s', rfl⟩⟩

/-! ### Every interleaving -/

/-- Any number of recharges and postings together, in any interleaving, with any clock and any failing
    calls: the balance equals the net of the ledger in every state reached exactly when every posting
    of the subscriber that commits finds the balance its call has read. -/
theorem reconciled_always_iff_commits_fresh (id : ℤ) (s : DB) (calls : List WalletCall)
    (hs : Reconciled id s) (hcalls : ∀ c ∈ calls, c.Valid) (sched : List (ℕ × Env)) :
    (∀ pre, pre <+: sched → Reconciled id
      (run exec lastRead (start none s (calls.map WalletCall.prog)) pre).shared) ↔
    Meets exec lastRead (CommitsFresh id)
      (start none s (calls.map WalletCall.prog)) sched := by
  have hstart : Honest (start none s (calls.map WalletCall.prog)) := by
    refine obeying_start fun i q hq => ?_
    simp only [getElem?_map, map_eq_some_iff] at hq
    obtain ⟨c, hc, rfl⟩ := hq
    exact WalletCall.obeys (hcalls c (mem_of_getElem? hc))
  exact always_iff_meets (I := fun p => Reconciled id p.shared) (J := Honest) honest_step
    reconciled_step sched _ hstart hs

instance (id : ℤ) (s : DB) : Decidable (Reconciled id s) :=
  decidable_of_iff ((s.subscribers.lookup id).any fun r => r.walletBalance = walletNet s id) (by
    simp [Reconciled, Option.any_eq_true])

/-- A cash top-up of 100.00. -/
def topUp100 : RechargeRequest := ⟨1, paise 10000, "", none, "cash"⟩

/-- One subscriber with an empty wallet. -/
def oneSubscriber : DB := .seeded ((∅ : Table Subscriber).insert 1 (.paidUntil 0))

theorem topUp100_valid : (WalletCall.recharge topUp100).Valid := ⟨10000, by decide, rfl⟩

/-- The schedule in which both top-ups read the wallet before either writes it. -/
def readReadWriteWrite : List (ℕ × Env) := [(0, .at 0), (1, .at 0), (0, .at 0), (1, .at 0)]

/-- Two top-ups of 100.00 that both read the empty wallet: the ledger says 200.00, the balance 100.00.
    -/
theorem concurrent_topUps_lose_one :
    Reconciled 1 oneSubscriber ∧ (WalletCall.recharge topUp100).Valid ∧
    ¬ Reconciled 1 (run exec lastRead (start none oneSubscriber
      ([.recharge topUp100, .recharge topUp100].map WalletCall.prog)) readReadWriteWrite).shared :=
  ⟨by decide +kernel, topUp100_valid, by decide +kernel⟩

/-- In that schedule some posting commits over a balance its call has not read. -/
theorem concurrent_topUps_not_fresh :
    ¬ Meets exec lastRead (CommitsFresh 1) (start none oneSubscriber
      ([.recharge topUp100, .recharge topUp100].map WalletCall.prog)) readReadWriteWrite := by
  intro h
  have hall := (reconciled_always_iff_commits_fresh 1 oneSubscriber
    [.recharge topUp100, .recharge topUp100] (by decide +kernel)
    (by simpa using topUp100_valid) readReadWriteWrite).mpr h
  exact absurd (hall _ (prefix_refl _)) (by decide +kernel)

end IspBss
