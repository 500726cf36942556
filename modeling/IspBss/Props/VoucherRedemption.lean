import IspBss.Hotspot.Store

/-! A voucher is taken once, and what it leaves behind.

    Redemptions and voidings of a voucher meet on one row, and each asks again whether it is unused
    when it gets there. So the first that lands is the last.

        unused ── RedeemVoucher ──▶ used     one grant until valid_until, one commission if there is a partner and a price
               └─ VoidVoucher ────▶ void     nothing -/

namespace IspBss.Hotspot

open Lib Radius Tx HotspotStore HotspotDB VoucherOp List Run Voucher Vouchers

variable (s : HotspotDB) (id : ℤ)

def HotspotDB.grantsOf : List Grant := s.grants.filter fun g => g.voucherID = some id

def HotspotDB.commissionsOf : List VoucherCommission :=
  s.commissions.rows.filter fun c => c.voucherID = id

/-- The call is about this voucher. -/
def VoucherOp.On : VoucherOp → Prop
  | .redeem _ codeHash _ _ => ∃ v, s.vouchers.lookup id = some v ∧ v.codeHash = codeHash
  | .void k => k = id
  | .create _ => False

/-- The call succeeds. -/
def VoucherOp.Takes (s : HotspotDB) (op : VoucherOp) : Prop := (Tx.commit op.tx s).1 = .ok true

/-- The commissions that a redemption of `v` credits. -/
def Due (franchises : Rows ℤ Franchise) (id : ℤ) (v : Voucher) (cs : List VoucherCommission) :
    Prop :=
  match v.franchiseID.bind fun f => (franchises.lookup f).map (f, ·) with
  | none => cs = []
  | some (f, franchise) =>
    if 0 < v.saleAmount then
      ∃ amount, cs = [⟨f, id, v.saleAmount, franchise.commissionRatePct, amount⟩] ∧
        paise amount = HotspotStore.commissionOf v.saleAmount franchise.commissionRatePct
    else cs = []

/-! ### What a call does -/

/-- The effect of a call that has one. -/
inductive Effect (s : HotspotDB) : VoucherOp → HotspotDB → Prop
  | created {new : NewVoucher} {v : Voucher} {vouchers : Vouchers}
    (hnew : s.vouchers.insert v = some vouchers)
      (hunused : v.status = .unused) (hpartner : ∀ f ∈ v.franchiseID, f ∈ s.franchises) :
      Effect s (.create new) { s with vouchers := vouchers }
  | voided {id : ℤ} {v : Voucher} (hv : s.vouchers.lookup id = some v)
    (hunused : v.status = .unused) :
      Effect s (.void id) { s with vouchers := s.vouchers.update id voided codeHash_voided }
  | redeemed {now : Time} {mac : String} {nasID : Option ℤ} {id : ℤ} {v : Voucher} {grant : Grant}
      {commissions : Indexed VoucherCommission ℤ VoucherCommission.key}
      {cs : List VoucherCommission}
      (hv : s.vouchers.lookup id = some v) (hunused : v.status = .unused)
      (hgrant : grant.voucherID = some id ∧ grant.expiresAt = now + v.durationMinutes * minute)
      (hid : grant.id = s.lastGrantID + 1)
      (hcs : commissions.rows = s.commissions.rows ++ cs) (hdue : Due s.franchises id v cs) :
      Effect s (.redeem now v.codeHash mac nasID)
        { s.setGrants (s.grants ++ [grant]) with
          vouchers := s.vouchers.update id (·.claimed mac now) (codeHash_claimed mac now)
          commissions := commissions
          lastGrantID := grant.id }

section
variable {s s' : HotspotDB} {id : ℤ} {mac : String} {nasID : Option ℤ} {b : Bool}

theorem creditCommission_ok {v : Voucher} {u : Unit} (h : creditCommission id v s = .ok (u, s')) :
    ∃ commissions cs, s' = { s with commissions := commissions } ∧
      commissions.rows = s.commissions.rows ++ cs ∧
      Due s.franchises id v cs := by
  simp only [creditCommission, get_bind_ok] at h
  unfold Due
  cases hf : v.franchiseID.bind fun f => (s.franchises.lookup f).map (f, ·) with
  | none =>
    simp only [hf, pure_ok, Prod.mk.injEq] at h
    exact ⟨s.commissions, [], h.2, by simp, rfl⟩
  | some x =>
    by_cases hsale : 0 < v.saleAmount
    · simp only [hf, hsale, if_true, orThrow_bind_ok, set_ok, Prod.mk.injEq] at h
      obtain ⟨amount, hamount, commissions, hinsert, -, rfl⟩ := h
      refine ⟨commissions, _, rfl, Indexed.rows_of_insert hinsert, ?_⟩
      dsimp only
      rw [if_pos hsale]
      exact ⟨amount, rfl, Numeric.ofFixed_toFixed_round hamount⟩
    · simp only [hf, hsale, if_false, pure_ok, Prod.mk.injEq] at h
      refine ⟨s.commissions, [], h.2, by simp, ?_⟩
      dsimp only
      rw [if_neg hsale]

theorem insertGrant_ok {sub voucher : Option ℤ} {planID k : ℤ} {expiresAt : Time}
    (h : insertGrant mac sub voucher nasID planID expiresAt s = .ok (k, s')) :
    ∃ grant : Grant, grant.voucherID = voucher ∧ grant.expiresAt = expiresAt ∧
      grant.id = s.lastGrantID + 1 ∧
      s' = { s.setGrants (s.grants ++ [grant]) with lastGrantID := grant.id } := by
  simp only [insertGrant, get_bind_ok, require_bind_ok, dite_throw_ok, set_bind_ok,
    pure_ok, Prod.mk.injEq] at h
  obtain ⟨-, -, hone, rfl, rfl⟩ := h
  exact ⟨_, rfl, rfl, rfl, rfl⟩

theorem create_effect {v : NewVoucher} (h : (create v).tx s = .ok (b, s')) :
    b = false ∧ Effect s (.create v) s' := by
  simp only [tx, CreateVoucher, bind_assoc, get_bind_ok, orThrow_bind_ok] at h
  obtain ⟨sale, -, h⟩ := h
  split at h
  · split at h
    · split at h
      · simp only [bind_assoc, orThrow_bind_ok, require_bind_ok, set_bind_ok, pure_bind, pure_ok,
          Prod.mk.injEq] at h
        obtain ⟨vouchers, hnew, -, hpartner, rfl, rfl⟩ := h
        exact ⟨rfl, .created hnew rfl hpartner⟩
      · simp only [bind_ok, throw_ok, false_and, exists_false] at h
    · simp only [bind_ok, throw_ok, false_and, exists_false] at h
  · simp only [bind_ok, throw_ok, false_and, exists_false] at h

/-- Whether it has taken a voucher or not. -/
theorem void_effect (h : (void id).tx s = .ok (b, s')) :
    b = false ∧ s' = s ∨ b = true ∧ Effect s (.void id) s' := by
  simp only [tx, VoidVoucher, get_bind_ok] at h
  cases hv : s.vouchers.lookup id with
  | none =>
    simp only [hv, pure_ok, Prod.mk.injEq] at h
    exact .inl h
  | some v =>
    by_cases hunused : v.status = .unused
    · simp only [hv, hunused, if_true, set_bind_ok, pure_ok, Prod.mk.injEq] at h
      obtain ⟨rfl, rfl⟩ := h
      exact .inr ⟨rfl, .voided hv hunused⟩
    · simp only [hv, hunused, if_false, pure_ok, Prod.mk.injEq] at h
      exact .inl h

theorem redeem_effect {now : Time} {codeHash : String}
    (h : (redeem now codeHash mac nasID).tx s = .ok (b, s')) :
    b = false ∧ s' = s ∨ b = true ∧ Effect s (.redeem now codeHash mac nasID) s' := by
  simp only [tx, RedeemVoucher, bind_assoc, get_bind_ok] at h
  cases hcode : s.vouchers.byCode codeHash with
  | none =>
    simp only [hcode, pure_bind, pure_ok, Prod.mk.injEq] at h
    exact .inl h
  | some x =>
    obtain ⟨id, v⟩ := x
    obtain ⟨hv, rfl⟩ := byCode_eq_some hcode
    by_cases hopen : v.status = .unused ∧ ∀ t ∈ v.expiresAt, now < t
    · simp only [hcode] at h
      rw [if_pos hopen] at h
      simp only [bind_assoc, require_bind_ok, set_bind_ok] at h
      obtain ⟨-, h⟩ := h
      obtain ⟨_, s₁, hcredit, h⟩ := bind_ok.mp h
      obtain ⟨k, s₂, hgrant, h⟩ := bind_ok.mp h
      obtain ⟨rfl, rfl⟩ := h
      obtain ⟨commissions, cs, rfl, hcs, hdue⟩ := creditCommission_ok hcredit
      obtain ⟨grant, hvoucher, hexpires, hid, rfl⟩ := insertGrant_ok hgrant
      exact .inr ⟨rfl, .redeemed hv hopen.1 ⟨hvoucher, hexpires⟩ hid hcs hdue⟩
    · simp only [hcode] at h
      rw [if_neg hopen] at h
      simp only [pure_bind, pure_ok, Prod.mk.injEq] at h
      exact .inl h

/-- A call creates a voucher, or takes one, or changes nothing. -/
theorem step_effect (s : HotspotDB) (op : VoucherOp) :
    ¬ op.Takes s ∧ voucherStep s op = s ∨
      Effect s op (voucherStep s op) ∧ ((∃ new, op = .create new) ∨ op.Takes s) := by
  unfold Takes voucherStep
  rcases commit_cases op.tx s with ⟨b, s', h, hcommit⟩ | ⟨e, hcommit⟩
  · rw [hcommit]
    cases op with
    | create v => exact .inr ⟨(create_effect h).2, .inl ⟨v, rfl⟩⟩
    | redeem now codeHash mac nasID =>
      rcases redeem_effect h with ⟨rfl, rfl⟩ | ⟨rfl, heffect⟩
      · exact .inl ⟨by simp, rfl⟩
      · exact .inr ⟨heffect, .inr rfl⟩
    | void id =>
      rcases void_effect h with ⟨rfl, rfl⟩ | ⟨rfl, heffect⟩
      · exact .inl ⟨by simp, rfl⟩
      · exact .inr ⟨heffect, .inr rfl⟩
  · rw [hcommit]
    exact .inl ⟨by simp, rfl⟩

theorem step_franchises (s : HotspotDB) (op : VoucherOp) :
    (voucherStep s op).franchises = s.franchises := by
  rcases step_effect s op with ⟨-, h⟩ | ⟨h, -⟩
  · rw [h]
  · generalize voucherStep s op = s' at h
    cases h <;> rfl

end

/-! ### One voucher -/

/-- What a call does to the voucher `id`, its grants and its commissions. -/
inductive Turn (s : HotspotDB) (op : VoucherOp) (id : ℤ) (s' : HotspotDB) : Prop
  | same (hv : s'.vouchers.lookup id = s.vouchers.lookup id) (hg : s'.grantsOf id = s.grantsOf id)
      (hc : s'.commissionsOf id = s.commissionsOf id) (hnot : ¬ (op.On s id ∧ op.Takes s))
  | created {new : NewVoucher} {v : Voucher} (hop : op = .create new)
    (hnone : s.vouchers.lookup id = none)
      (hv : s'.vouchers.lookup id = some v) (hunused : v.status = .unused)
      (hpartner : ∀ f ∈ v.franchiseID, f ∈ s.franchises)
      (hg : s'.grantsOf id = s.grantsOf id) (hc : s'.commissionsOf id = s.commissionsOf id)
  | voided {v : Voucher} (hop : op = .void id) (hv : s.vouchers.lookup id = some v)
    (hunused : v.status = .unused)
      (hv' : s'.vouchers.lookup id = some v.voided) (hg : s'.grantsOf id = s.grantsOf id)
      (hc : s'.commissionsOf id = s.commissionsOf id)
  | redeemed {now : Time} {mac : String} {nasID : Option ℤ} {v : Voucher} {grant : Grant}
    {cs : List VoucherCommission}
      (hop : op = .redeem now v.codeHash mac nasID) (htakes : op.Takes s)
      (hv : s.vouchers.lookup id = some v)
      (hunused : v.status = .unused) (hv' : s'.vouchers.lookup id = some (v.claimed mac now))
      (hg : s'.grantsOf id = s.grantsOf id ++ [grant])
      (hexpires : grant.expiresAt = now + v.durationMinutes * minute)
      (hc : s'.commissionsOf id = s.commissionsOf id ++ cs) (hdue : Due s.franchises id v cs)

variable {id : ℤ} {v : Voucher} {franchises : Rows ℤ Franchise} {cs : List VoucherCommission}
  {t : Vouchers} {f : Voucher → Voucher} {s : HotspotDB}

/-- Commissions of one voucher are all of it. -/
theorem Due.voucherID (h : Due franchises id v cs) : ∀ c ∈ cs, c.voucherID = id := by
  unfold Due at h
  split at h
  · simp [h]
  · split at h
    · obtain ⟨amount, rfl, -⟩ := h
      simp
    · simp [h]

theorem step_turn (s : HotspotDB) (op : VoucherOp) (id : ℤ) : Turn s op id (voucherStep s op) := by
  rcases step_effect s op with ⟨hnot, h⟩ | ⟨h, hkind⟩
  · rw [h]
    exact .same rfl rfl rfl fun hon => hnot hon.2
  generalize voucherStep s op = s' at h
  cases h with
  | created hnew hunused hpartner =>
    have hlookup := lookup_insert hnew id
    by_cases hid : id = s.vouchers.rows.last + 1
    · subst hid
      rw [if_pos rfl] at hlookup
      exact .created rfl (Serial.lookup_next _) hlookup hunused hpartner rfl rfl
    · rw [if_neg hid] at hlookup
      exact .same hlookup rfl rfl fun hon => hon.1
  | @voided k v hv hunused =>
    by_cases hid : id = k
    · subst hid
      exact .voided rfl hv hunused (Serial.lookup_updateID_self _ hv) rfl rfl
    · exact .same (Serial.lookup_updateID_ne _ hid) rfl rfl fun hon => hid hon.1.symm
  | @redeemed now mac nasID k v grant commissions cs hv hunused hgrant _ hcs hdue =>
    have htakes : (redeem now v.codeHash mac nasID).Takes s := by
      rcases hkind with ⟨new, hnew⟩ | htakes
      · cases hnew
      · exact htakes
    by_cases hid : id = k
    · subst hid
      refine .redeemed rfl htakes hv hunused (Serial.lookup_updateID_self _ hv)
        (show _ = s.grantsOf id ++ [grant] from ?_) hgrant.2
          (show _ = s.commissionsOf id ++ cs from ?_) hdue
      · simp [grantsOf, grants, setGrants, filter_append, hgrant.1]
      · have hall : cs.filter (fun c => c.voucherID = id) = cs :=
          filter_eq_self.mpr fun c hc => decide_eq_true (hdue.voucherID c hc)
        simp only [commissionsOf, hcs, filter_append, hall]
    · refine .same (Serial.lookup_updateID_ne _ hid) ?_ ?_ ?_
      · simp [grantsOf, grants, setGrants, filter_append, hgrant.1, Ne.symm hid]
      · have hnone : cs.filter (fun c => c.voucherID = id) = [] :=
          filter_eq_nil_iff.mpr fun c hc => by simpa [hdue.voucherID c hc] using Ne.symm hid
        simp only [commissionsOf, hcs, filter_append, hnone, append_nil]
      · -- the code belongs to one voucher only
        rintro ⟨⟨w, hw, hcode⟩, -⟩
        exact hid (s.vouchers.code_unique hw hv hcode)

/-! ### Runs -/

/-- No voucher exists, and nothing that one leaves behind. -/
def Fresh (s : HotspotDB) : Prop :=
  (∀ id, s.vouchers.lookup id = none) ∧ (∀ g ∈ s.grants, g.voucherID = none) ∧
    s.commissions.rows = []

/-- A voucher agrees with its grants and its commissions. -/
def SettledRow (franchises : Rows ℤ Franchise) (id : ℤ) (grants : List Grant)
    (cs : List VoucherCommission) :
    Option Voucher → Prop
  | none => grants = [] ∧ cs = []
  | some v => (∀ f ∈ v.franchiseID, f ∈ franchises) ∧
    if v.status = .used then (∃ g, grants = [g] ∧ v.validUntil = some g.expiresAt) ∧
      Due franchises id v cs
    else grants = [] ∧ cs = []

/-- Vouchers, grants and commissions agree. -/
def Settled (s : HotspotDB) : Prop :=
  ∀ id, SettledRow s.franchises id (s.grantsOf id) (s.commissionsOf id) (s.vouchers.lookup id)

theorem Fresh.settled (h : Fresh s) : Settled s := by
  intro id
  rw [h.1]
  refine ⟨filter_eq_nil_iff.mpr fun g hg => ?_, ?_⟩
  · simp [h.2.1 g hg]
  · simp [commissionsOf, h.2.2]

theorem settled_step (hs : Settled s) (op : VoucherOp) : Settled (voucherStep s op) := by
  intro id
  have h := hs id
  rw [step_franchises]
  cases step_turn s op id with
  | same hv hg hc _ => rwa [hv, hg, hc]
  | created _ hnone hv hunused hpartner hg hc =>
    rw [hnone] at h
    rw [hv, hg, hc]
    refine ⟨hpartner, ?_⟩
    rwa [if_neg (by simp [hunused])]
  | voided _ hold hunused hnew hg hc =>
    rw [hold] at h
    rw [hnew, hg, hc]
    exact ⟨h.1, by simpa [hunused, voided] using h.2⟩
  | @redeemed now mac nasID v grant cs _ _ hold hunused hnew hg hexpires hc hdue =>
    rw [hold] at h
    obtain ⟨hpartner, h⟩ := h
    rw [if_neg (by simp [hunused])] at h
    rw [hnew, hg, hc, h.1, h.2]
    exact ⟨hpartner, ⟨grant, rfl, by rw [hexpires]; rfl⟩, hdue⟩

/-- A voucher that was taken stays as it is. -/
theorem taken_kept (hstatus : v.status ≠ .unused) (ops : List VoucherOp) :
    ∀ {s : HotspotDB}, s.vouchers.lookup id = some v → (run voucherStep s ops).vouchers.lookup id =
      some v := by
  induction ops with
  | nil =>
    intro s hv
    exact hv
  | cons op ops ih =>
    intro s hv
    refine ih ?_
    cases step_turn s op id with
    | same hsame _ _ _ => rw [hsame, hv]
    | created _ hnone _ _ _ _ _ => cases hnone.symm.trans hv
    | voided _ hold hunused _ _ _ =>
      exact absurd (Option.some.inj (hold.symm.trans hv) ▸ hunused) hstatus
    | redeemed _ _ hold hunused _ _ _ _ _ =>
      exact absurd (Option.some.inj (hold.symm.trans hv) ▸ hunused) hstatus

/-- After `pre` the call is one on the voucher, and it succeeds. -/
def TakenBy (s₀ : HotspotDB) (pre : List VoucherOp) (op : VoucherOp) (id : ℤ) : Prop :=
  op.On (run voucherStep s₀ pre) id ∧ op.Takes (run voucherStep s₀ pre)

def RedeemedIn (s₀ : HotspotDB) (hist : List VoucherOp) (id : ℤ) : Prop :=
  ∃ pre now codeHash mac nasID, pre ++ [.redeem now codeHash mac nasID] <+: hist ∧
    TakenBy s₀ pre (.redeem now codeHash mac nasID) id

section
variable {s₀ : HotspotDB}

variable {op : VoucherOp} {id : ℤ} {p q : List VoucherOp} {op' : VoucherOp}

/-- The voucher is unused before the call that takes it, and not after it. -/
theorem TakenBy.spends {pre : List VoucherOp} (h : TakenBy s₀ pre op id) :
    ∃ v v', (run voucherStep s₀ pre).vouchers.lookup id = some v ∧ v.status = .unused ∧
      (run voucherStep s₀ (pre ++ [op])).vouchers.lookup id = some v' ∧ v'.status ≠ .unused ∧
      ((∃ now codeHash mac nasID, op = .redeem now codeHash mac nasID) → v'.status = .used) := by
  rw [run_concat]
  cases step_turn (run voucherStep s₀ pre) op id with
  | same _ _ _ hnot => exact absurd h hnot
  | created hop _ _ _ _ _ _ =>
    subst hop
    exact h.1.elim
  | @voided v hop hv hunused hv' _ _ =>
    refine ⟨v, v.voided, hv, hunused, hv', by simp [voided], ?_⟩
    rintro ⟨now, codeHash, mac, nasID, hredeem⟩
    cases hop.symm.trans hredeem
  | @redeemed now mac _ v _ _ hop _ hv hunused hv' _ _ _ _ =>
    exact ⟨v, v.claimed mac now, hv, hunused, hv', by simp [claimed], fun _ => rfl⟩

/-- Of two calls that take the voucher neither comes before the other. -/
theorem TakenBy.not_before (hp : TakenBy s₀ p op id) (hq : TakenBy s₀ q op' id) :
    ¬ p ++ [op] <+: q := by
  rintro ⟨later, rfl⟩
  obtain ⟨-, v, -, -, hv, hspent, -⟩ := hp.spends
  obtain ⟨w, -, hw, hunused, -⟩ := hq.spends
  rw [run_append] at hw
  rw [Option.some.inj (hw.symm.trans (taken_kept hspent later hv))] at hunused
  exact hspent hunused

theorem taken_once {ops : List VoucherOp} (hp : p ++ [op] <+: ops)
    (hq : q ++ [op'] <+: ops) (htp : TakenBy s₀ p op id) (htq : TakenBy s₀ q op' id) : p = q := by
  rcases prefix_trichotomy hp hq with hlt | hlt | ⟨heq, -⟩
  · exact absurd hlt (htp.not_before htq)
  · exact absurd hlt (htq.not_before htp)
  · exact heq

theorem redeemed_of_used (h₀ : Fresh s₀) (hist : List VoucherOp) : ∀ {id : ℤ} {v : Voucher},
    (run voucherStep s₀ hist).vouchers.lookup id = some v → v.status = .used →
      RedeemedIn s₀ hist id := by
  induction hist using List.reverseRecOn with
  | nil =>
    intro id v hv _
    rw [run_nil, h₀.1] at hv
    cases hv
  | append_singleton pre op ih =>
    intro id v hv hused
    rw [run_concat] at hv
    cases step_turn (run voucherStep s₀ pre) op id with
    | same hsame _ _ _ =>
      obtain ⟨p, now, codeHash, mac, nasID, hin, htaken⟩ := ih (hsame ▸ hv) hused
      exact ⟨p, now, codeHash, mac, nasID, hin.trans (prefix_append _ _), htaken⟩
    | created _ _ hnew hunused _ _ _ =>
      rw [← Option.some.inj (hnew.symm.trans hv), hunused] at hused
      cases hused
    | voided _ _ _ hnew _ _ =>
      rw [← Option.some.inj (hnew.symm.trans hv)] at hused
      cases hused
    | @redeemed now mac nasID w _ _ hop htakes hold _ _ _ _ _ _ =>
      subst hop
      exact ⟨pre, now, w.codeHash, mac, nasID, prefix_rfl, ⟨w, hold, rfl⟩, htakes⟩

theorem used_of_redeemed {hist : List VoucherOp} {v : Voucher} (h : RedeemedIn s₀ hist id)
    (hv : (run voucherStep s₀ hist).vouchers.lookup id = some v) : v.status = .used := by
  obtain ⟨pre, now, codeHash, mac, nasID, ⟨later, rfl⟩, htaken⟩ := h
  obtain ⟨-, w, -, -, hw, hspent, hused⟩ := htaken.spends
  rw [run_append, taken_kept hspent later hw] at hv
  rw [← Option.some.inj hv]
  exact hused ⟨now, codeHash, mac, nasID, rfl⟩

end

/-- What is to hold of the voucher after the calls: one of them at most has taken it; it has a grant
    exactly if it is used, one that lasts until `valid_until`; it has a commission exactly if it was
    redeemed and has a partner and a price, one of the rate of the partner. -/
structure Accounted (s₀ : HotspotDB) (ops : List VoucherOp) (id : ℤ) (v : Voucher) : Prop where
  once : ∀ p q op op', p ++ [op] <+: ops → q ++ [op'] <+: ops → TakenBy s₀ p op id →
    TakenBy s₀ q op' id → p = q
  used_iff : v.status = .used ↔ RedeemedIn s₀ ops id
  granted_iff : (run voucherStep s₀ ops).grantsOf id ≠ [] ↔ v.status = .used
  granted : v.status = .used →
    ∃ g, (run voucherStep s₀ ops).grantsOf id = [g] ∧ v.validUntil = some g.expiresAt
  credited_iff : (run voucherStep s₀ ops).commissionsOf id ≠ [] ↔
    RedeemedIn s₀ ops id ∧ v.franchiseID.isSome = true ∧ 0 < v.saleAmount
  credited : (run voucherStep s₀ ops).commissionsOf id ≠ [] → ∃ c f franchise,
    (run voucherStep s₀ ops).commissionsOf id = [c] ∧ v.franchiseID = some f ∧
      (run voucherStep s₀ ops).franchises.lookup f = some franchise ∧ c.franchiseID = f ∧
      paise c.commissionAmount = Numeric.round 2
        (paise v.saleAmount * Numeric.ofFixed 2 franchise.commissionRatePct / 100)

theorem settled_run {s₀ : HotspotDB} (h₀ : Fresh s₀) (ops : List VoucherOp) :
    Settled (run voucherStep s₀ ops) := by
  induction ops using List.reverseRecOn with
  | nil => exact h₀.settled
  | append_singleton pre op ih =>
    rw [run_concat]
    exact settled_step ih op

/-- What is due, for a partner that exists. -/
theorem due_iff (hpartner : ∀ f ∈ v.franchiseID, f ∈ franchises) (h : Due franchises id v cs) :
    (cs ≠ [] ↔ v.franchiseID.isSome = true ∧ 0 < v.saleAmount) ∧
    (cs ≠ [] → ∃ c f franchise, cs = [c] ∧ v.franchiseID = some f ∧
      franchises.lookup f = some franchise ∧
      c.franchiseID = f ∧ paise c.commissionAmount =
        commissionOf v.saleAmount franchise.commissionRatePct) := by
  unfold Due at h
  cases hf : v.franchiseID with
  | none =>
    simp only [hf, Option.bind_none] at h
    simp [h]
  | some f =>
    obtain ⟨franchise, hfranchise⟩ :=
      Option.isSome_iff_exists.mp (AList.lookup_isSome.mpr (hpartner f hf))
    simp only [hf, Option.bind_some, hfranchise, Option.map_some] at h
    by_cases hsale : 0 < v.saleAmount
    · rw [if_pos hsale] at h
      obtain ⟨amount, rfl, hamount⟩ := h
      exact ⟨by simp [hsale], fun _ => ⟨_, f, franchise, rfl, rfl, hfranchise, rfl, hamount⟩⟩
    · rw [if_neg hsale] at h
      simp [h, hsale]

/-- Whatever calls are made, on this voucher and others, in any order and at any time. -/
theorem voucher_accounted (s₀ : HotspotDB) (h₀ : Fresh s₀) (ops : List VoucherOp) (id : ℤ)
    (v : Voucher) (hv : (run voucherStep s₀ ops).vouchers.lookup id = some v) :
    Accounted s₀ ops id v := by
  have hsettled := settled_run h₀ ops id
  rw [hv] at hsettled
  obtain ⟨hpartner, hsettled⟩ := hsettled
  have hused : v.status = .used ↔ RedeemedIn s₀ ops id :=
    ⟨redeemed_of_used h₀ ops hv, fun h => used_of_redeemed h hv⟩
  by_cases h : v.status = .used
  · rw [if_pos h] at hsettled
    obtain ⟨⟨g, hg, hvalid⟩, hdue⟩ := hsettled
    obtain ⟨hiff, hcredited⟩ := due_iff hpartner hdue
    refine ⟨fun p q op op' => taken_once, hused, by simp [hg, h], fun _ => ⟨g, hg, hvalid⟩, ?_,
      hcredited⟩
    rw [← hused, hiff, and_iff_right h]
  · rw [if_neg h] at hsettled
    obtain ⟨hg, hc⟩ := hsettled
    exact ⟨fun p q op op' => taken_once, hused, by simp [hg, h],
      (absurd · h), by simp [hc, ← hused, h], (absurd hc ·)⟩

/-- One plan, and a partner who gets ten percent. -/
def cafe : HotspotDB where
  network := { directory := ⟨∅, AList.singleton 1 ⟨"10M/10M", 0, 0, none⟩, ∅, []⟩, grantUsage := ∅,
               sessions := [], acctDedup := .empty }
  nasDevices := [5]
  franchises := AList.singleton 3 ⟨"corner shop", 1000, true⟩
  vouchers := .empty
  commissions := .empty
  lastGrantID := 0

/-- A voucher for 50.00; two devices redeem it, and it is voided. -/
def rush : List VoucherOp :=
  [.create ⟨"h1", 1, some 3, 60, 0, none, 50⟩, .redeem 100 "h1" "AA:BB:CC:00:00:01" (some 5),
   .redeem 90 "h1" "AA:BB:CC:00:00:02" none, .void 1]

theorem fresh_cafe : Fresh cafe :=
  ⟨fun _ => Serial.lookup_empty _, fun _ h => absurd h not_mem_nil, rfl⟩

theorem rush_accounted : ∃ v, (run voucherStep cafe rush).vouchers.lookup 1 = some v ∧
    v.status = .used ∧
    Accounted cafe rush 1 v := by
  obtain ⟨v, hv⟩ := Option.isSome_iff_exists.mp
    (show ((run voucherStep cafe rush).vouchers.lookup 1).isSome = true by decide +kernel)
  have hstatus : ((run voucherStep cafe rush).vouchers.lookup 1).map (·.status) =
      some .used := by decide +kernel
  rw [hv] at hstatus
  exact ⟨v, hv, Option.some.inj hstatus, voucher_accounted cafe fresh_cafe rush 1 v hv⟩

end IspBss.Hotspot
