import IspBss.Lib.Runs
import IspBss.Radius.Network

/-! Hotspot persistence: vouchers, the grants they open, and what a partner earns on them.

    Every operation is one statement. `RedeemVoucher` does three things in its one: the conditional update that claims
    the voucher, the commission of the partner, and the grant.

        hotspot_vouchers ── claimed ──▶ hotspot_grants          (voucher_id)
               │                        voucher_commissions     (unique on voucher_id)
               └ franchise_id ──▶ franchises

    The grants are the ones that authentication and accounting read. -/

namespace IspBss.Hotspot

open Lib Radius Serial Tx

/-- 60 seconds. -/
def minute : Time := 60000000

/-- What a `NUMERIC(10,2)` column stores. -/
def numeric10 (q : Decimal) : Option ℤ := Numeric.toFixed 10 2 q

/-! ### Vouchers -/

inductive VoucherStatus where
  | unused | active | used | expired | void
  deriving DecidableEq, Repr

/-- The columns of a `hotspot_vouchers` row, before its constraints are checked. -/
structure VoucherRow where
  codeHash : String
  planID : ℤ
  franchiseID : Option ℤ
  durationMinutes : ℤ
  dataCapBytes : ℤ
  saleAmount : ℤ
  status : VoucherStatus
  redeemedByMAC : Option String
  redeemedAt : Option Time
  expiresAt : Option Time
  validUntil : Option Time
  deriving DecidableEq

/-- `chk_voucher_redemption_complete`. -/
def VoucherRow.RedemptionComplete (r : VoucherRow) : Prop :=
  (r.status = .unused ∨ r.status = .void ∨ r.status = .expired) ∨
    (r.redeemedByMAC.isSome = true ∧ r.redeemedAt.isSome = true)

/-- `hotspot_vouchers`. -/
structure Voucher extends VoucherRow where
  duration_pos : 0 < durationMinutes
  cap_nonneg : 0 ≤ dataCapBytes
  sale_nonneg : 0 ≤ saleAmount
  redemption_complete : toVoucherRow.RedemptionComplete
  deriving DecidableEq

/-- The row after its redemption. -/
def Voucher.claimed (v : Voucher) (mac : String) (now : Time) : Voucher :=
  { v with
    status := .used
    redeemedByMAC := some mac
    redeemedAt := some now
    validUntil := some (now + v.durationMinutes * minute)
    redemption_complete := .inr ⟨rfl, rfl⟩ }

/-- The row out of circulation. -/
def Voucher.voided (v : Voucher) : Voucher :=
  { v with status := .void, redemption_complete := .inl (.inr (.inl rfl)) }

theorem Voucher.codeHash_claimed (mac : String) (now : Time) (v : Voucher) :
    (v.claimed mac now).codeHash = v.codeHash := rfl

theorem Voucher.codeHash_voided (v : Voucher) : v.voided.codeHash = v.codeHash := rfl

/-- The vouchers by id, unique on the hash of their code. -/
structure Vouchers where
  rows : Serial Voucher
  code_unique : ∀ {i j : ℤ} {v w : Voucher}, rows.lookup i = some v → rows.lookup j = some w →
    v.codeHash = w.codeHash → i = j

namespace Vouchers

def empty : Vouchers where
  rows := .empty
  code_unique h := by
    rw [lookup_empty] at h
    cases h

def lookup (t : Vouchers) (id : ℤ) : Option Voucher := t.rows.lookup id

/-- The row with this code. -/
def byCode (t : Vouchers) (codeHash : String) : Option ((_ : ℤ) × Voucher) :=
  t.rows.rows.entries.find? fun x => x.2.codeHash = codeHash

variable {t : Vouchers} {codeHash : String}

theorem byCode_eq_some {x : (_ : ℤ) × Voucher} (h : t.byCode codeHash = some x) :
    t.lookup x.1 = some x.2 ∧ x.2.codeHash = codeHash := by
  have hcode := List.find?_some h
  exact ⟨lookup_eq_of_mem (List.mem_of_find?_eq_some h), of_decide_eq_true hcode⟩

variable {v : Voucher} {id i j : ℤ} {a b : Voucher}

theorem byCode_eq_none (h : t.byCode codeHash = none) (hv : t.lookup id = some v) : v.codeHash ≠ codeHash := by
  have hmem : (⟨id, v⟩ : (_ : ℤ) × Voucher) ∈ t.rows.rows.entries := AList.mem_lookup_iff.mp hv
  have hnot := List.find?_eq_none.mp h _ hmem
  intro hcode
  exact hnot (decide_eq_true hcode)

theorem code_unique_add (h : t.byCode v.codeHash = none)
    (ha : (t.rows.add v).lookup i = some a) (hb : (t.rows.add v).lookup j = some b) (hab : a.codeHash = b.codeHash) :
    i = j := by
  have hnew : ∀ {i w}, (t.rows.add v).lookup i = some w →
      i = t.rows.last + 1 ∧ w = v ∨ t.lookup i = some w := by
    intro i w hw
    by_cases hi : i = t.rows.last + 1
    · subst hi
      rw [lookup_add_self] at hw
      exact .inl ⟨rfl, (Option.some.inj hw).symm⟩
    · rw [lookup_add_ne _ _ hi] at hw
      exact .inr hw
  rcases hnew ha with ⟨hi, hav⟩ | hav <;> rcases hnew hb with ⟨hj, hbv⟩ | hbv
  · rw [hi, hj]
  · rw [hav] at hab
    exact absurd hab.symm (byCode_eq_none h hbv)
  · rw [hbv] at hab
    exact absurd hab (byCode_eq_none h hav)
  · exact t.code_unique hav hbv hab

/-- Add a row, unless its code is taken. -/
def insert (t : Vouchers) (v : Voucher) : Option Vouchers :=
  if h : t.byCode v.codeHash = none then some ⟨t.rows.add v, code_unique_add h⟩ else none

theorem code_unique_update {f : Voucher → Voucher} (hf : ∀ v, (f v).codeHash = v.codeHash)
    (ha : (t.rows.updateWhere (fun k _ => k = id) f).lookup i = some a)
    (hb : (t.rows.updateWhere (fun k _ => k = id) f).lookup j = some b) (hab : a.codeHash = b.codeHash) :
    i = j := by
  have hold : ∀ {i w}, (t.rows.updateWhere (fun k _ => k = id) f).lookup i = some w →
      ∃ v, t.rows.lookup i = some v ∧ w.codeHash = v.codeHash := by
    intro i w hw
    rw [lookup_updateWhere, Option.map_eq_some_iff] at hw
    obtain ⟨v, hv, rfl⟩ := hw
    refine ⟨v, hv, ?_⟩
    split
    · exact hf v
    · rfl
  obtain ⟨v, hv, hav⟩ := hold ha
  obtain ⟨w, hw, hbw⟩ := hold hb
  exact t.code_unique hv hw (by rw [← hav, ← hbw, hab])

/-- Rewrite the row with this id, and not its code. -/
def update (t : Vouchers) (id : ℤ) (f : Voucher → Voucher) (hf : ∀ v, (f v).codeHash = v.codeHash) : Vouchers :=
  ⟨t.rows.updateWhere (fun k _ => k = id) f, code_unique_update hf⟩

theorem lookup_insert {t' : Vouchers} (h : t.insert v = some t') (k : ℤ) :
    t'.lookup k = if k = t.rows.last + 1 then some v else t.lookup k := by
  unfold insert at h
  split at h
  · cases h
    split
    · rename_i hk
      subst hk
      exact lookup_add_self _ _
    · rename_i hk
      exact lookup_add_ne _ _ hk
  · cases h

end Vouchers

/-! ### The database -/

/-- `voucher_commissions`. -/
structure VoucherCommission where
  franchiseID : ℤ
  voucherID : ℤ
  saleAmount : ℤ
  commissionRatePct : ℤ
  commissionAmount : ℤ
  deriving DecidableEq

def VoucherCommission.key (c : VoucherCommission) : Option ℤ := some c.voucherID

structure HotspotDB where
  network : Network
  nasDevices : List ℤ
  franchises : Rows ℤ Franchise
  vouchers : Vouchers
  commissions : Indexed VoucherCommission ℤ VoucherCommission.key
  /-- The sequence of `hotspot_grants`. -/
  lastGrantID : ℤ

abbrev HotspotTx := Tx StoreErr HotspotDB

namespace HotspotDB

def grants (s : HotspotDB) : List Grant := s.network.directory.grants

def setGrants (s : HotspotDB) (grants : List Grant) : HotspotDB :=
  { s with network := { s.network with directory := { s.network.directory with grants := grants } } }

end HotspotDB

structure NewVoucher where
  codeHash : String
  planID : ℤ
  franchiseID : Option ℤ
  durationMinutes : ℤ
  dataCapBytes : ℤ
  expiresAt : Option Time
  saleAmount : Decimal
  deriving DecidableEq

namespace HotspotStore

def CreateVoucher (v : NewVoucher) : HotspotTx ℤ := do
  let s ← get
  let sale ← orThrow (numeric10 v.saleAmount) (.overflow "hotspot_vouchers.sale_amount")
  if hd : 0 < v.durationMinutes then
    if hc : 0 ≤ v.dataCapBytes then
      if hs : 0 ≤ sale then
        let row : Voucher :=
          { codeHash := v.codeHash, planID := v.planID, franchiseID := v.franchiseID,
            durationMinutes := v.durationMinutes, dataCapBytes := v.dataCapBytes, saleAmount := sale,
            status := .unused, redeemedByMAC := none, redeemedAt := none, expiresAt := v.expiresAt,
            validUntil := none, duration_pos := hd, cap_nonneg := hc, sale_nonneg := hs,
            redemption_complete := .inl (.inl rfl) }
        let vouchers ← orThrow (s.vouchers.insert row) (.unique "hotspot_vouchers_code_hash_key")
        require (v.planID ∈ s.network.directory.plans) (.foreignKey "hotspot_vouchers.plan_id")
        require (∀ f ∈ v.franchiseID, f ∈ s.franchises) (.foreignKey "hotspot_vouchers.franchise_id")
        set { s with vouchers := vouchers }
        return s.vouchers.rows.last + 1
      else throw (.check "hotspot_vouchers_sale_amount_check")
    else throw (.check "hotspot_vouchers_data_cap_bytes_check")
  else throw (.check "hotspot_vouchers_duration_minutes_check")

/-- Only a voucher that is unused is voided; whether there was one. -/
def VoidVoucher (id : ℤ) : HotspotTx Bool := do
  let s ← get
  match s.vouchers.lookup id with
  | none => return false
  | some v =>
    if v.status = .unused then
      set { s with vouchers := s.vouchers.update id Voucher.voided Voucher.codeHash_voided }
      return true
    else return false

/-- `ROUND(sale_amount * commission_rate_pct / 100, 2)`. -/
def commissionOf (saleAmount ratePct : ℤ) : Decimal :=
  Numeric.round 2 (paise saleAmount * Numeric.ofFixed 2 ratePct / 100)

/-- The `commission` part of the statement: a row, if the voucher has a partner and a price. -/
def creditCommission (voucherID : ℤ) (v : Voucher) : HotspotTx Unit := do
  let s ← get
  match v.franchiseID.bind fun f => (s.franchises.lookup f).map (f, ·) with
  | none => return ()
  | some (f, franchise) =>
    if 0 < v.saleAmount then
      let amount ← orThrow (numeric10 (commissionOf v.saleAmount franchise.commissionRatePct))
        (.overflow "voucher_commissions.commission_amount")
      let row : VoucherCommission := ⟨f, voucherID, v.saleAmount, franchise.commissionRatePct, amount⟩
      let commissions ← orThrow (s.commissions.insert row) (.unique "voucher_commissions_voucher_id_key")
      set { s with commissions := commissions }
    else return ()

/-- Add a grant under the next id. -/
def insertGrant (mac : String) (subscriberID voucherID nasID : Option ℤ) (planID : ℤ) (expiresAt : Time) :
    HotspotTx ℤ := do
  let s ← get
  require (mac.length ≤ 17) (.tooLong "hotspot_grants.mac_address")
  require (∀ n ∈ nasID, n ∈ s.nasDevices) (.foreignKey "hotspot_grants.nas_id")
  if h : subscriberID.isNone ≠ voucherID.isNone then
    let id := s.lastGrantID + 1
    let grant : Grant := ⟨id, mac, subscriberID, voucherID, nasID, planID, expiresAt, none, h⟩
    set { s.setGrants (s.grants ++ [grant]) with lastGrantID := id }
    return id
  else throw (.check "chk_grant_has_exactly_one_source")

/-- Claim the voucher and open a grant; none (the 0 of the source) if the claim does not land. -/
def RedeemVoucher (now : Time) (codeHash mac : String) (nasID : Option ℤ) : HotspotTx (Option ℤ) := do
  let s ← get
  match s.vouchers.byCode codeHash with
  | none => return none
  | some ⟨id, v⟩ =>
    if v.status = .unused ∧ ∀ t ∈ v.expiresAt, now < t then
      require (mac.length ≤ 17) (.tooLong "hotspot_vouchers.redeemed_by_mac")
      set { s with vouchers := s.vouchers.update id (·.claimed mac now) (Voucher.codeHash_claimed mac now) }
      creditCommission id v
      return some (← insertGrant mac none (some id) nasID v.planID (now + v.durationMinutes * minute))
    else return none

end HotspotStore

/-! ### Runs -/

inductive VoucherOp where
  | create (v : NewVoucher)
  | redeem (now : Time) (codeHash mac : String) (nasID : Option ℤ)
  | void (id : ℤ)
  deriving DecidableEq

/-- The answer says whether the call has taken a voucher. -/
def VoucherOp.tx : VoucherOp → HotspotTx Bool
  | .create v => do
    let _ ← HotspotStore.CreateVoucher v
    return false
  | .redeem now codeHash mac nasID => do
    return (← HotspotStore.RedeemVoucher now codeHash mac nasID).isSome
  | .void id => HotspotStore.VoidVoucher id

/-- A statement that fails leaves everything as it was. -/
def voucherStep (s : HotspotDB) (op : VoucherOp) : HotspotDB := (commit op.tx s).2

end IspBss.Hotspot
