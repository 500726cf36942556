import IspBss.Db.Effects
import IspBss.Procurement.Orders

/-! Is a purchase order approved before it is fulfilled, and booked once when it is?

    `UpdateFulfilment` has one predicate for its three transitions, status IN ('approved',
    'requested'). So an order can be received and posted to the ledger without a decision, and one
    that was marked ordered is outside the predicate: it can never be received. The rest of the
    lifecycle holds in every run. A run keeps all of it exactly if no order is ever marked ordered,
    and none is received that is still requested.

        Lawful  ◀── every step ──▶  Fits -/

namespace IspBss.Procurement

open Lib Tx ProcurementStore Run Fulfilment StaffOp Prod List

/-- The ledger entries of the order. -/
def Books.entries (s : Books) (id : ℤ) : List GlJournalEntry :=
  s.db.glJournal.filter fun e => e.sourceType = "purchase_order" ∧ e.sourceID = id

/-- The posting of the order goes through: its amount is not zero, the accounts are there, and the
    name of the actor fits. -/
def Postable (db : DB) (r : PurchaseOrder) (actor : String) : Prop :=
  actor.length ≤ 100 ∧ (db.chartOfAccounts.lookup "5100").isSome ∧
    (db.chartOfAccounts.lookup "2000").isSome ∧
    0 < r.amount
  deriving Decidable

/-! ### The posting -/

section
variable {id : ℤ} {po : PurchaseOrder} {actor : String} {db db' : DB}

theorem glAccountID_bind_ok {α : Type} {code : String} {f : ℤ → DBTx α} {r : α × DB} :
    (glAccountID code >>= f) db = .ok r ↔ ∃ a, db.chartOfAccounts.lookup code = some a ∧
      f a db = .ok r := by
  rw [glAccountID, bind_assoc, get_bind_ok, orThrow_bind_ok]

theorem glLine_bind_ok {α : Type} {accountID : ℤ} {d c : Decimal} {f : GlLine → DBTx α}
    {r : α × DB} :
    (glLine accountID d c >>= f) db = .ok r ↔
      ∃ line, glLine accountID d c db = .ok (line, db) ∧ f line db = .ok r := by
  rw [bind_ok]
  constructor
  · rintro ⟨line, db₁, hline, hrest⟩
    obtain rfl := glLine_ok hline
    exact ⟨line, hline, hrest⟩
  · rintro ⟨line, hline, hrest⟩
    exact ⟨line, db, hline, hrest⟩

theorem numeric14_zero : numeric14 0 = some 0 := by decide +kernel

theorem numeric14_amount (po : PurchaseOrder) : numeric14 (paise po.amount) = some po.amount := by
  refine Numeric.toFixed_ofFixed_of_lt ?_
  rw [abs_of_nonneg po.amount_nonneg]
  exact po.amount_fits.trans (by norm_num)

theorem postReceived_ok {u : Unit} (h : postReceived id po actor db = .ok (u, db')) :
    Postable db po actor ∧ ∃ entry : GlJournalEntry, entry.sourceType = "purchase_order" ∧
      entry.sourceID = id ∧
      db' = { db with glJournal := db.glJournal ++ [entry] } := by
  simp only [postReceived, require_bind_ok, glAccountID_bind_ok, glLine_bind_ok, postJournal,
    get_bind_ok, dite_throw_ok, set_ok, mk.injEq] at h
  obtain ⟨hactor, expenseID, hexpense, payableID, hpayable, expense, -, payable, hline, -, -,
      rfl⟩ := h
  refine ⟨⟨hactor, Option.isSome_of_eq_some hexpense, Option.isSome_of_eq_some hpayable, ?_⟩, _,
    rfl, rfl, rfl⟩
  simp only [glLine, orThrow_bind_ok, numeric14_zero, numeric14_amount, Option.some.injEq,
    dite_throw_ok] at hline
  obtain ⟨_, rfl, _, rfl, hsided, -⟩ := hline
  omega

theorem postReceived_of_postable (id : ℤ) (h : Postable db po actor) :
    ∃ db', postReceived id po actor db = .ok ((), db') := by
  obtain ⟨hactor, hexpense, hpayable, hamount⟩ := h
  obtain ⟨expenseID, hexpense⟩ := Option.isSome_iff_exists.mp hexpense
  obtain ⟨payableID, hpayable⟩ := Option.isSome_iff_exists.mp hpayable
  have hdebit : glLine expenseID (paise po.amount) 0 db =
      .ok (⟨expenseID, po.amount, 0, .inl ⟨hamount, rfl⟩⟩, db) := by
    simp [glLine, numeric14_amount, numeric14_zero, hamount]
  have hcredit : glLine payableID 0 (paise po.amount) db =
      .ok (⟨payableID, 0, po.amount, .inr ⟨rfl, hamount⟩⟩, db) := by
    simp [glLine, numeric14_amount, numeric14_zero, hamount]
  simp only [postReceived, require_bind_ok, glAccountID_bind_ok, glLine_bind_ok, postJournal,
    get_bind_ok, dite_throw_ok, set_ok, mk.injEq]
  refine ⟨_, hactor, expenseID, hexpense, payableID, hpayable, _, hdebit, _, hcredit, ?_, trivial,
    rfl⟩
  simp

end

/-! ### What an operation does -/

section
variable {s s' : Books} {u : Unit} {id : ℤ}

/-- The row under `id` is another one now. -/
abbrev setRow (t : Serial PurchaseOrder) (id : ℤ) (r : PurchaseOrder) : Serial PurchaseOrder :=
  t.updateWhere (fun k _ => k = id) fun _ => r

/-- The effect of an operation that has one. -/
inductive Lands (s : Books) : StaffOp → Books → Prop
  | created {po : NewPurchaseOrder} {r : PurchaseOrder} (hnew : r.status = .requested) :
      Lands s (.create po) { s with orders := s.orders.add r }
  | decided {id : ℤ} {approve : Bool} {decidedBy reason : String} {r r' : PurchaseOrder}
      (hr : s.orders.lookup id = some r) (hrequested : r.status = .requested)
      (hother : decidedBy ≠ r.requestedBy)
      (hr' : r'.status = if approve then .approved else .rejected) :
      Lands s (.decide id approve decidedBy reason) { s with orders := setRow s.orders id r' }
  | moved {id : ℤ} {f : Fulfilment} {actor : String} {r r' : PurchaseOrder}
    (hr : s.orders.lookup id = some r)
      (hopen : r.status = .approved ∨ r.status = .requested) (hf : f ≠ .received)
      (hr' : r'.status = f.status) :
      Lands s (.fulfil id f actor) { s with orders := setRow s.orders id r' }
  | received {id : ℤ} {actor : String} {r r' : PurchaseOrder} {entry : GlJournalEntry}
      (hr : s.orders.lookup id = some r) (hopen : r.status = .approved ∨ r.status = .requested)
      (hr' : r'.status = .received) (hpost : Postable s.db r actor)
      (hentry : entry.sourceType = "purchase_order" ∧ entry.sourceID = id) :
      Lands s (.fulfil id .received actor)
        { orders := setRow s.orders id r',
          db := { s.db with glJournal := s.db.glJournal ++ [entry] } }

theorem create_lands {po : NewPurchaseOrder}
    (h : (create po).tx s = .ok (u, s')) : Lands s (.create po) s' := by
  simp only [tx, CreatePurchaseOrder, bind_assoc, get_bind_ok, require_bind_ok,
    orThrow_bind_ok, lift_bind_ok, set_bind_ok, pure_bind, pure_ok, mk.injEq] at h
  obtain ⟨-, -, amount, -, r, hr, -, rfl⟩ := h
  exact .created (by rw [OrderRow.check_ok hr])

theorem decide_lands {approve : Bool} {decidedBy reason : String}
    (h : (decide id approve decidedBy reason).tx s = .ok (u, s')) :
    s' = s ∨ Lands s (.decide id approve decidedBy reason) s' := by
  simp only [tx, DecidePurchaseOrder, bind_assoc, get_bind_ok] at h
  cases hr : s.orders.lookup id with
  | none =>
    simp only [hr, pure_bind, pure_ok, mk.injEq] at h
    exact .inl h.2
  | some r =>
    by_cases hrequested : r.status = .requested
    · simp only [hr, hrequested, if_true, setOrder, bind_assoc, require_bind_ok, lift_bind_ok,
        get_bind_ok,
        set_bind_ok, pure_bind, pure_ok, mk.injEq] at h
      obtain ⟨-, r', hr', -, rfl⟩ := h
      have hrow := OrderRow.check_ok hr'
      refine .inr (.decided hr hrequested ?_ (by rw [hrow]))
      have hdistinct := r'.distinct_approver decidedBy (by rw [hrow]; rfl)
      rwa [hrow] at hdistinct
    · simp only [hr, hrequested, if_false, pure_bind, pure_ok, mk.injEq] at h
      exact .inl h.2

theorem onLedger_bind_ok {α β : Type} {t : DBTx α} {f : α → BooksTx β} {r : β × Books} :
    (onLedger t >>= f) s = .ok r ↔ ∃ a db, t s.db = .ok (a, db) ∧
      f a { s with db := db } = .ok r := by
  rw [bind_ok]
  unfold onLedger
  cases t s.db with
  | error e => simp
  | ok x => simp [Prod.ext_iff, and_assoc]

theorem fulfil_lands {f : Fulfilment} {actor : String}
    (h : (fulfil id f actor).tx s = .ok (u, s')) : s' = s ∨ Lands s (.fulfil id f actor) s' := by
  simp only [tx, UpdateFulfilment, bind_assoc, get_bind_ok] at h
  cases hr : s.orders.lookup id with
  | none =>
    simp only [hr, pure_bind, pure_ok, mk.injEq] at h
    exact .inl h.2
  | some r =>
    by_cases hopen : r.status = .approved ∨ r.status = .requested
    · simp only [hr, hopen, if_true, setOrder, bind_assoc, lift_bind_ok, get_bind_ok, set_bind_ok]
        at h
      obtain ⟨r', hr', h⟩ := h
      have hrow := OrderRow.check_ok hr'
      by_cases hf : f = .received
      · subst hf
        simp only [if_true, bind_assoc, onLedger_bind_ok, pure_bind, pure_ok, mk.injEq] at h
        obtain ⟨_, db, hpost, -, rfl⟩ := h
        obtain ⟨hpostable, entry, htype, hid, rfl⟩ := postReceived_ok hpost
        have hamount : r'.amount = r.amount := by rw [hrow]
        rw [Postable, hamount] at hpostable
        exact .inr (.received hr hopen (by rw [hrow]; rfl) hpostable ⟨htype, hid⟩)
      · simp only [hf, if_false, pure_bind, pure_ok, mk.injEq] at h
        obtain ⟨-, rfl⟩ := h
        exact .inr (.moved hr hopen hf (by rw [hrow]))
    · simp only [hr, hopen, if_false, pure_bind, pure_ok, mk.injEq] at h
      exact .inl h.2

theorem step_lands (s : Books) (op : StaffOp) : step s op = s ∨ Lands s op (step s op) := by
  unfold step
  rcases commit_cases op.tx s with ⟨u, s', h, hcommit⟩ | ⟨e, hcommit⟩
  · rw [hcommit]
    cases op with
    | create po => exact .inr (create_lands h)
    | decide id approve decidedBy reason => exact decide_lands h
    | fulfil id f actor => exact fulfil_lands h
  · rw [hcommit]
    exact .inl rfl

end

/-! ### One order -/

section
variable {t : Serial PurchaseOrder} {id : ℤ} {r' : PurchaseOrder} {s : Books}

/-- What an operation makes of the order `id`, and how many ledger entries it adds to it. -/
inductive Turn (s : Books) (op : StaffOp) (id : ℤ) : Option PurchaseOrder → Option PurchaseOrder →
    ℕ → Prop
  | same (o : Option PurchaseOrder) : Turn s op id o o 0
  | filed {r : PurchaseOrder} (hnew : r.status = .requested) : Turn s op id none (some r) 0
  | decided {approve : Bool} {decidedBy reason : String} {r r' : PurchaseOrder}
      (hop : op = .decide id approve decidedBy reason) (hrequested : r.status = .requested)
      (hother : decidedBy ≠ r.requestedBy)
      (hdecided : r'.status = if approve then .approved else .rejected) :
      Turn s op id (some r) (some r') 0
  | moved {f : Fulfilment} {actor : String} {r r' : PurchaseOrder} (hop : op = .fulfil id f actor)
      (hopen : r.status = .approved ∨ r.status = .requested) (hf : f ≠ .received)
      (hmoved : r'.status = f.status) :
      Turn s op id (some r) (some r') 0
  | received {actor : String} {r r' : PurchaseOrder} (hop : op = .fulfil id .received actor)
      (hopen : r.status = .approved ∨ r.status = .requested) (hpost : Postable s.db r actor)
      (hreceived : r'.status = .received) : Turn s op id (some r) (some r') 1

variable {r : PurchaseOrder}

theorem step_turn (s : Books) (op : StaffOp) (id : ℤ) :
    ∃ n, Turn s op id (s.orders.lookup id) ((step s op).orders.lookup id) n ∧
      ((step s op).entries id).length = (s.entries id).length + n := by
  rcases step_lands s op with h | h
  · rw [h]
    exact ⟨0, .same _, rfl⟩
  generalize step s op = s' at h
  cases h with
  | created hnew =>
    by_cases hid : id = s.orders.last + 1
    · subst hid
      rw [Serial.lookup_next, Serial.lookup_add_self]
      exact ⟨0, .filed hnew, rfl⟩
    · rw [Serial.lookup_add_ne _ _ hid]
      exact ⟨0, .same _, rfl⟩
  | @decided k approve decidedBy reason r r' hr hrequested hother hr' =>
    by_cases hid : id = k
    · subst hid
      rw [Serial.lookup_updateID_self _ hr, hr]
      exact ⟨0, .decided rfl hrequested hother hr', rfl⟩
    · rw [Serial.lookup_updateID_ne _ hid]
      exact ⟨0, .same _, rfl⟩
  | @moved k f actor r r' hr hopen hf hr' =>
    by_cases hid : id = k
    · subst hid
      rw [Serial.lookup_updateID_self _ hr, hr]
      exact ⟨0, .moved rfl hopen hf hr', rfl⟩
    · rw [Serial.lookup_updateID_ne _ hid]
      exact ⟨0, .same _, rfl⟩
  | @received k actor r r' entry hr hopen hr' hpost hentry =>
    by_cases hid : id = k
    · subst hid
      rw [Serial.lookup_updateID_self _ hr, hr]
      exact ⟨1, .received rfl hopen hpost hr', by simp [Books.entries, filter_append, hentry]⟩
    · rw [Serial.lookup_updateID_ne _ hid]
      exact ⟨0, .same _, by simp [Books.entries, filter_append, hentry, Ne.symm hid]⟩

theorem check_of {r : OrderRow} (hfits : r.amount < 10 ^ 12) (hnonneg : 0 ≤ r.amount)
    (hd : r.DistinctApprover) :
    ∃ po, r.check = .ok po ∧ po.toOrderRow = r := by
  refine ⟨{ r with amount_nonneg := hnonneg, amount_fits := hfits, distinct_approver := hd }, ?_,
    rfl⟩
  simp only [OrderRow.check, hfits, hnonneg, hd, dif_pos]

/-- An order that is open is found, and what can be posted is. -/
theorem fulfil_of_open (f : Fulfilment) (actor : String)
    (hr : s.orders.lookup id = some r) (hopen : r.status = .approved ∨ r.status = .requested)
    (hpost : f = .received → Postable s.db r actor) :
    ∃ r', (step s (.fulfil id f actor)).orders.lookup id = some r' ∧ r'.status = f.status := by
  obtain ⟨r', hcheck, hrow⟩ :=
    check_of (r := { r.toOrderRow with status := f.status }) r.amount_fits r.amount_nonneg
      r.distinct_approver
  have htx : ∃ db, (fulfil id f actor).tx s =
      .ok ((), { orders := setRow s.orders id r', db := db }) := by
    simp only [tx, UpdateFulfilment, bind_assoc, get_bind_ok, hr, hopen, if_true, setOrder,
      lift_bind_ok, set_bind_ok]
    by_cases hf : f = .received
    · have hamount : r'.amount = r.amount := by rw [hrow]
      have hpost' : Postable s.db r' actor := by
        rw [Postable, hamount]
        exact hpost hf
      obtain ⟨db, hdb⟩ := postReceived_of_postable id hpost'
      refine ⟨db, r', hcheck, ?_⟩
      simp only [hf, if_true, bind_assoc, onLedger_bind_ok, pure_bind, pure_ok]
      exact ⟨(), db, hdb, rfl⟩
    · refine ⟨s.db, r', hcheck, ?_⟩
      simp only [hf, if_false, pure_bind, pure_ok]
  obtain ⟨db, htx⟩ := htx
  refine ⟨r', ?_, by rw [hrow]⟩
  rw [step, commit_ok htx]
  exact Serial.lookup_updateID_self _ hr

/-- What every operation keeps of an order, a run keeps. -/
theorem order_inv {P : PurchaseOrder → Prop}
    (hstep : ∀ {s op id r r' n}, Turn s op id (some r) (some r') n → P r → P r')
    (ops : List StaffOp) :
    ∀ {s : Books} {id : ℤ} {r : PurchaseOrder}, s.orders.lookup id = some r → P r →
      ∃ r', (run step s ops).orders.lookup id = some r' ∧ P r' := by
  induction ops with
  | nil =>
    intro s id r hr hP
    exact ⟨r, hr, hP⟩
  | cons op ops ih =>
    intro s id r hr hP
    obtain ⟨n, hturn, -⟩ := step_turn s op id
    rw [hr] at hturn
    cases hr' : (step s op).orders.lookup id with
    | none =>
      rw [hr'] at hturn
      cases hturn
    | some r' =>
      rw [hr'] at hturn
      exact ih hr' (hstep hturn hP)

/-- The end of the lifecycle. -/
def Status.Settled : Status → Prop
  | .rejected | .cancelled | .received => True
  | _ => False

/-- A step leaves the status as it is, or the order was open and is no request any more. -/
theorem Turn.status {op : StaffOp} {n : ℕ} (h : Turn s op id (some r) (some r') n) :
    r'.status = r.status ∨ (r.status = .approved ∨ r.status = .requested) ∧
      r'.status ≠ .requested := by
  cases h with
  | same => exact .inl rfl
  | @decided approve _ _ _ _ _ hrequested _ hdecided =>
    refine .inr ⟨.inr hrequested, ?_⟩
    rw [hdecided]
    cases approve <;> simp
  | @moved f _ _ _ _ hopen _ hmoved =>
    refine .inr ⟨hopen, ?_⟩
    rw [hmoved]
    cases f <;> simp [Fulfilment.status]
  | received _ hopen _ hreceived => exact .inr ⟨hopen, by simp [hreceived]⟩

theorem settled_kept (ops : List StaffOp) (hr : s.orders.lookup id = some r)
    (hsettled : r.status.Settled) :
    ∃ r', (run step s ops).orders.lookup id = some r' ∧ r'.status = r.status := by
  refine order_inv (fun hturn hP => ?_) ops hr rfl
  rcases hturn.status with h | ⟨hopen, -⟩
  · exact h.trans hP
  · rw [← hP] at hsettled
    rcases hopen with h | h <;> rw [h] at hsettled <;> exact hsettled.elim

/-- An order that is not a request any more never becomes one again. -/
theorem unrequested_kept (ops : List StaffOp) (hr : s.orders.lookup id = some r)
    (hstatus : r.status ≠ .requested) :
    ∃ r', (run step s ops).orders.lookup id = some r' ∧ r'.status ≠ .requested := by
  refine order_inv (fun hturn hP => ?_) ops hr hstatus
  rcases hturn.status with h | ⟨-, h⟩
  · rwa [h]
  · exact h

end

/-! ### Entries and received orders -/

/-- The order has one entry if it was received, and none otherwise. -/
def Entered (s : Books) : Prop :=
  ∀ id, (s.entries id).length =
    (s.orders.lookup id).elim 0 fun r => if r.status = .received then 1 else 0

theorem entered_step {s : Books} (hs : Entered s) (op : StaffOp) : Entered (step s op) := by
  intro id
  obtain ⟨n, hturn, hentries⟩ := step_turn s op id
  rw [hentries, hs id]
  generalize s.orders.lookup id = o at hturn ⊢
  generalize (step s op).orders.lookup id = o' at hturn ⊢
  cases hturn with
  | same => rfl
  | filed hnew => simp [hnew]
  | @decided approve _ _ _ _ _ hrequested _ hdecided =>
    cases approve <;> simp [hrequested, hdecided]
  | @moved f _ _ _ _ hopen hf hmoved =>
    have hnot : f.status ≠ .received := by
      cases f with
      | ordered => simp [status]
      | received => exact absurd rfl hf
      | cancelled => simp [status]
    rcases hopen with h | h <;> simp [h, hmoved, hnot]
  | received _ hopen _ hreceived => rcases hopen with h | h <;> simp [h, hreceived]

/-! ### Runs -/

/-- No order exists and the journal has no entry of one. -/
def Fresh (s : Books) : Prop := (∀ id, s.orders.lookup id = none) ∧ ∀ id, s.entries id = []

/-- In the course of `hist` the order was approved, by somebody other than its requester. -/
def Approved (s₀ : Books) (hist : List StaffOp) (id : ℤ) : Prop :=
  ∃ pre decidedBy reason r r', pre ++ [.decide id true decidedBy reason] <+: hist ∧
    (run step s₀ pre).orders.lookup id = some r ∧ decidedBy ≠ r.requestedBy ∧
    (run step s₀ (pre ++ [.decide id true decidedBy reason])).orders.lookup id = some r' ∧
    r'.status = .approved

theorem Approved.mono {s₀ : Books} {hist hist' : List StaffOp} {id : ℤ} (h : Approved s₀ hist id)
    (hpre : hist <+: hist') : Approved s₀ hist' id := by
  obtain ⟨pre, decidedBy, reason, r, r', hin, h⟩ := h
  exact ⟨pre, decidedBy, reason, r, r', hin.trans hpre, h⟩

/-- What is to hold of the orders after `hist`. -/
structure Lawful (s₀ : Books) (hist : List StaffOp) : Prop where
  approved : ∀ id r, (run step s₀ hist).orders.lookup id = some r →
    r.status = .ordered ∨ r.status = .received ∨ (run step s₀ hist).entries id ≠ [] →
      Approved s₀ hist id
  receivable : ∀ id r, (run step s₀ hist).orders.lookup id = some r → r.status = .ordered →
    ∃ actor r', (step (run step s₀ hist) (.fulfil id .received actor)).orders.lookup id = some r' ∧
      r'.status = .received
  settled : ∀ pre, pre <+: hist → ∀ id r, (run step s₀ pre).orders.lookup id = some r →
    r.status.Settled →
    ∃ r', (run step s₀ hist).orders.lookup id = some r' ∧ r'.status = r.status
  entered : ∀ id r, (run step s₀ hist).orders.lookup id = some r →
    ((run step s₀ hist).entries id).length = if r.status = .received then 1 else 0

/-- The step marks no order as ordered, and receives none that is still requested. -/
def Fits (s : Books) : StaffOp → Prop
  | .fulfil id .ordered _ => ∀ r ∈ s.orders.lookup id, r.status ≠ .approved ∧ r.status ≠ .requested
  | .fulfil id .received actor =>
    ∀ r ∈ s.orders.lookup id, r.status = .requested → ¬ Postable s.db r actor
  | _ => True

instance (s : Books) (op : StaffOp) : Decidable (Fits s op) :=
  match op with
  | .fulfil id .ordered _ =>
    inferInstanceAs (Decidable (∀ r ∈ s.orders.lookup id, r.status ≠ .approved ∧
      r.status ≠ .requested))
  | .fulfil id .received actor =>
    inferInstanceAs (Decidable (∀ r ∈ s.orders.lookup id, r.status = .requested →
      ¬ Postable s.db r actor))
  | .fulfil _ .cancelled _ | .create _ | .decide _ _ _ _ => isTrue trivial

/-- What a run that fits keeps. -/
def Kept (s₀ : Books) (hist : List StaffOp) : Prop :=
  ∀ id r, (run step s₀ hist).orders.lookup id = some r →
    (r.status = .approved ∨ r.status = .received → Approved s₀ hist id) ∧ r.status ≠ .ordered

section
variable {s₀ : Books} {pre hist : List StaffOp} {op : StaffOp} {id : ℤ}

theorem Fresh.entered (h₀ : Fresh s₀) : Entered s₀ := by
  intro id
  rw [h₀.1, h₀.2]
  rfl

theorem entered_run (hs : Entered s₀) (ops : List StaffOp) : Entered (run step s₀ ops) :=
  inv (I := Entered) (C := fun _ _ => True) (fun _ op hs _ => entered_step hs op) ops hs
    ((meets_iff_forall ops).mpr fun _ _ _ => trivial)

theorem kept_nil (h₀ : Fresh s₀) : Kept s₀ [] := by
  intro id r hr
  rw [run_nil, h₀.1] at hr
  cases hr

/-- The status of an order after a step that fits. -/
theorem kept_step (hk : Kept s₀ pre) (hfits : Fits (run step s₀ pre) op) :
    Kept s₀ (pre ++ [op]) := by
  have hmono : ∀ {id}, Approved s₀ pre id → Approved s₀ (pre ++ [op]) id :=
    fun h => h.mono (prefix_append _ _)
  intro id x hx
  obtain ⟨n, hturn, -⟩ := step_turn (run step s₀ pre) op id
  rw [← run_concat step, hx] at hturn
  generalize hr : (run step s₀ pre).orders.lookup id = o at hturn
  cases hturn with
  | same =>
    obtain ⟨happroved, hunordered⟩ := hk id x hr
    exact ⟨fun h => hmono (happroved h), hunordered⟩
  | filed hnew => simp [hnew]
  | @decided approve decidedBy reason r _ hop _ hother hdecided =>
    -- this is the decision; only an approval leaves one of the two statuses
    cases approve with
    | false => simp [hdecided]
    | true =>
      subst hop
      exact ⟨fun _ => ⟨pre, decidedBy, reason, r, x, prefix_rfl, hr, hother, hx,
        hdecided⟩, by simp [hdecided]⟩
  | @moved f _ _ _ hop hopen hf hmoved =>
    cases f with
    | ordered =>
      subst hop
      obtain ⟨hnot, hnot'⟩ := hfits _ hr
      exact (hopen.elim hnot hnot').elim
    | received => exact absurd rfl hf
    | cancelled => simp [hmoved, status]
  | received hop hopen hpost hreceived =>
    refine ⟨fun _ => ?_, by simp [hreceived]⟩
    rcases hopen with happroved | hrequested
    · exact hmono ((hk id _ hr).1 (.inl happroved))
    · subst hop
      exact absurd hpost (hfits _ hr hrequested)

theorem kept_of_meets (h₀ : Fresh s₀) (hist : List StaffOp) (hfits : Meets step Fits s₀ hist) :
    Kept s₀ hist := by
  induction hist using reverseRecOn with
  | nil => exact kept_nil h₀
  | append_singleton pre op ih =>
    obtain ⟨hpre, hop, -⟩ := (meets_append pre).mp hfits
    exact kept_step (ih hpre) hop

theorem settled_from (hist : List StaffOp) : ∀ pre, pre <+: hist → ∀ id r,
    (run step s₀ pre).orders.lookup id = some r → r.status.Settled →
    ∃ r', (run step s₀ hist).orders.lookup id = some r' ∧ r'.status = r.status := by
  rintro pre ⟨later, rfl⟩ id r hr hsettled
  rw [run_append]
  exact settled_kept later hr hsettled

theorem Kept.lawful (hk : Kept s₀ hist) (he : Entered (run step s₀ hist)) : Lawful s₀ hist where
  approved id r hr h := by
    refine (hk id r hr).1 (.inr ?_)
    rcases h with h | h | h
    · exact absurd h (hk id r hr).2
    · exact h
    · -- an entry stands for a received order
      have hentered := he id
      rw [hr] at hentered
      by_contra hnot
      rw [Option.elim_some, if_neg hnot, length_eq_zero_iff] at hentered
      exact h hentered
  receivable id r hr h := absurd h (hk id r hr).2
  settled := settled_from hist
  entered id r hr := by
    have hentered := he id
    rwa [hr] at hentered

/-- An order that was approved is no request any more. -/
theorem Approved.unrequested (h : Approved s₀ hist id) :
    ∃ r, (run step s₀ hist).orders.lookup id = some r ∧ r.status ≠ .requested := by
  obtain ⟨pre, decidedBy, reason, -, r', ⟨later, rfl⟩, -, -, hr', hstatus⟩ := h
  rw [run_append]
  refine unrequested_kept later hr' ?_
  rw [hstatus]
  simp

/-- The last operation is no decision: the approval came before it. -/
theorem Approved.before_fulfil {k : ℤ} {f : Fulfilment} {actor : String}
    (h : Approved s₀ (pre ++ [.fulfil k f actor]) id) : Approved s₀ pre id := by
  obtain ⟨early, decidedBy, reason, r, r', hin, h⟩ := h
  refine ⟨early, decidedBy, reason, r, r', ?_, h⟩
  rcases prefix_concat_iff.mp hin with heq | hin
  · have hlast := (append_inj' heq rfl).2
    cases hlast
  · exact hin

theorem fits_of_lawful (h : Lawful s₀ (pre ++ [op])) : Fits (run step s₀ pre) op := by
  cases op with
  | create po => exact trivial
  | decide id approve decidedBy reason => exact trivial
  | fulfil id f actor =>
    cases f with
    | cancelled => exact trivial
    | ordered =>
      intro r hr
      rw [← not_or]
      intro hopen
      -- the order is ordered now, and no second call finds it
      obtain ⟨r', hr', hordered⟩ := fulfil_of_open .ordered actor hr hopen
        nofun
      rw [← run_concat step] at hr'
      obtain ⟨actor', r'', hr'', hreceived⟩ := h.receivable id r' hr' hordered
      obtain ⟨n, hturn, -⟩ := step_turn (run step s₀ (pre ++ [.fulfil id .ordered actor]))
          (.fulfil id .received actor') id
      rw [hr', hr''] at hturn
      cases hturn with
      | same => cases hordered.symm.trans hreceived
      | decided hop => cases hop
      | moved hop _ hf _ =>
        cases hop
        exact hf rfl
      | received _ hopen' _ _ =>
        rw [hordered] at hopen'
        simp [status] at hopen'
    | received =>
      intro r hr hrequested hpost
      -- it is received now, so it was approved before, and yet it was a request
      obtain ⟨r', hr', hreceived⟩ := fulfil_of_open .received actor hr (.inr hrequested)
        fun _ => hpost
      rw [← run_concat step] at hr'
      obtain ⟨x, hx, hnot⟩ := (h.approved id r' hr'
          (.inr (.inl hreceived))).before_fulfil.unrequested
      rw [Option.some.inj (hx.symm.trans hr)] at hnot
      exact hnot hrequested

end

/-- All of the lifecycle holds after every part of a run exactly if every step of the run fits. -/
theorem orders_lawful_iff (s₀ : Books) (h₀ : Fresh s₀) (ops : List StaffOp) :
    (∀ hist, hist <+: ops → Lawful s₀ hist) ↔ Meets step Fits s₀ ops := by
  constructor
  · intro h
    refine (meets_iff_forall ops).mpr fun pre op hin => ?_
    exact fits_of_lawful (h _ hin)
  · rintro hfits hist ⟨later, rfl⟩
    exact (kept_of_meets h₀ hist ((meets_append hist).mp hfits).1).lawful
      (entered_run h₀.entered hist)

/-- No orders, and the two accounts that a received order is posted to. -/
def emptyBooks : Books where
  orders := .empty
  db := { plans := ∅, franchises := ∅, subscribers := ∅, walletLedgers := .empty,
          lcoLedger := .empty, gstRates := [], invoices := [],
          chartOfAccounts := (AList.singleton "5100" 7).insert "2000" 2, glJournal := [],
          tasks := .empty }

def newRouter : StaffOp := .create ⟨"Core router", "Acme", .hardware, 1000, "ann"⟩

theorem fresh_emptyBooks : Fresh emptyBooks := ⟨fun _ => Serial.lookup_empty _, fun _ => rfl⟩

/-- Requested by one, approved by another and received: everything is as it should be. -/
theorem approved_router_received :
    Fresh emptyBooks ∧ Lawful emptyBooks
      [newRouter, .decide 1 true "bob" "", .fulfil 1 .received "ann"] := by
  refine ⟨fresh_emptyBooks, (orders_lawful_iff emptyBooks fresh_emptyBooks _).mpr ?_ _ prefix_rfl⟩
  decide +kernel

/-- The requester marks an order as received that nobody has decided on, and it is posted; an
    approved order that was marked as ordered stays so. -/
theorem received_undecided_and_ordered_stuck :
    let undecided := run step emptyBooks [newRouter, .fulfil 1 .received "ann"]
    let stuck := run step emptyBooks
      [newRouter, .decide 1 true "bob" "", .fulfil 1 .ordered "ann", .fulfil 1 .received "ann"]
    ((undecided.orders.lookup 1).map fun r => (r.status, r.decidedBy)) = some (.received, none) ∧
      (undecided.entries 1).length = 1 ∧
      ((stuck.orders.lookup 1).map fun r => (r.status, r.decidedBy)) = some (.ordered, some "bob") ∧
      stuck.entries 1 = [] := by
  decide +kernel

/-- Whatever the staff do: each order has one ledger entry if it was received, and none otherwise. -/
theorem entered_in_every_run (s₀ : Books) (h₀ : Fresh s₀) (ops : List StaffOp) :
    Entered (run step s₀ ops) :=
  entered_run h₀.entered ops

/-- Also where the order was received before anybody decided. -/
theorem undecided_router_entered :
    Entered (run step emptyBooks [newRouter, .fulfil 1 .received "ann"]) :=
  entered_in_every_run emptyBooks fresh_emptyBooks _

end IspBss.Procurement
