import IspBss.Fup.Lea
import IspBss.Props.CommandTargets

/-! Does a law-enforcement lookup find who had an address?

    `StartSession` records the IPv4 address of a session and the IPv6 prefix that was delegated to
    it. A lookup without a port asks for the session of the address that has started last, and drops
    one that is over.

        assigned_ipv4         ─▶ WHERE assigned_ipv4 = $1 AND start_time <= $2 ORDER BY start_time DESC LIMIT 1
        assigned_ipv6_prefix  ─▶ (not asked for)

    How a text is read as an address, and which addresses a prefix contains, is PostgreSQL's. -/

namespace IspBss.Fup

open Radius FUPStore List

section
variable {Addr : Type} [DecidableEq Addr] (inet : String → Option Addr)
  (cidr : String → Addr → Prop)

/-- `assigned_ipv4 = …`. -/
def Assigned (r : SessionRow) (ip : Addr) : Prop := r.assignedIPv4.bind inet = some ip

/-- The address is inside the delegated prefix. -/
def Delegated (r : SessionRow) (ip : Addr) : Prop := ∃ p ∈ r.assignedIPv6Prefix, cidr p ip

def ActiveAt (r : SessionRow) (t : Time) : Prop := r.startTime ≤ t ∧ ∀ x ∈ r.stopTime, t < x
  deriving Decidable

/-! ### What it finds -/

/-- Sessions active in the same instant have addresses of their own, and no IPv4 address is in a
    prefix. -/
structure Apart (s : Network) : Prop where
  refers : ∀ r ∈ s.sessions, r.subscriberID ∈ s.directory.subscribers
  assigned : ∀ r ∈ s.sessions, ∀ r' ∈ s.sessions, ∀ t ip, ActiveAt r t → ActiveAt r' t →
    Assigned inet r ip → Assigned inet r' ip → r = r'
  delegated : ∀ r ∈ s.sessions, ∀ r' ∈ s.sessions, ∀ t ip, ActiveAt r t → ActiveAt r' t →
    Delegated cidr r ip → Delegated cidr r' ip → r = r'
  families : ∀ r ∈ s.sessions, ∀ r' ∈ s.sessions, ∀ ip, Assigned inet r ip → ¬ Delegated cidr r' ip

/-- Every session active then is found by its address and by those in its prefix, whichever row
    comes first. -/
def Covered (s : Network) (t : Time) : Prop :=
  ∀ r ∈ s.sessions, ActiveAt r t → ∀ text ip, inet text = some ip → Assigned inet r ip ∨
    Delegated cidr r ip →
    ∀ order : { f : List ℤ → List ℤ // ∀ ids, (f ids).Perm ids },
      ∃ res, lookupDirectIP inet order.1 text t s = .ok (some res) ∧
        res.subscriberID = r.subscriberID

variable {inet cidr} {s : Network} {t : Time} {ip : Addr} {r z : SessionRow}

theorem mem_addressRows : r ∈ addressRows inet ip t s ↔
    r ∈ s.sessions ∧ r.subscriberID ∈ s.directory.subscribers ∧ Assigned inet r ip ∧
      r.startTime ≤ t := by
  simp [addressRows, Assigned]

/-- One of the rows that started last comes first. -/
theorem limitOne_latest (order : { f : List ℤ → List ℤ // ∀ ids, (f ids).Perm ids })
    {rows : List SessionRow} (h : r ∈ rows) :
    ∃ z ∈ latest rows, limitOne order.1 (latest rows) = some z := by
  obtain ⟨m, hm, hmax⟩ := rows.toFinset.exists_max_image (·.startTime) ⟨r, mem_toFinset.mpr h⟩
  have hlast : m ∈ latest rows := mem_filter.mpr ⟨mem_toFinset.mp hm,
    all_eq_true.mpr fun z hz => decide_eq_true (hmax z (mem_toFinset.mpr hz))⟩
  cases hfirst : order.1 ((List.range (latest rows).length).map Int.ofNat) with
  | nil =>
    have hlength := (order.2 _).length_eq.symm.trans (congrArg List.length hfirst)
    simp only [length_map, length_range, length_nil] at hlength
    rw [length_eq_zero_iff.mp hlength] at hlast
    cases hlast
  | cons i is =>
    have hi : i ∈ (List.range (latest rows).length).map Int.ofNat :=
      (order.2 _).mem_iff.mp (hfirst ▸ mem_cons_self)
    obtain ⟨n, hn, rfl⟩ := mem_map.mp hi
    have hn := mem_range.mp hn
    exact ⟨(latest rows)[n], getElem_mem hn, by simp [limitOne, hfirst, hn]⟩

/-- Another session of the address that has started since was over as it started. -/
theorem Apart.over (h : Apart inet cidr s) (hr : r ∈ s.sessions) (hactive : ActiveAt r t)
    (hip : Assigned inet r ip) (hz : z ∈ latest (addressRows inet ip t s)) (hne : z ≠ r) :
    ∃ x ∈ z.stopTime, x ≤ z.startTime := by
  obtain ⟨hzs, -, hzip, hzt⟩ := mem_addressRows.mp (mem_of_latest hz)
  have hlast : r.startTime ≤ z.startTime := of_decide_eq_true <| all_eq_true.mp
    (mem_filter.mp hz).2 r (mem_addressRows.mpr ⟨hr, h.refers r hr, hip, hactive.1⟩)
  by_contra hover
  push Not at hover
  exact hne (h.assigned z hzs r hr z.startTime ip ⟨le_rfl, hover⟩
    ⟨hlast, fun x hx => hzt.trans_lt (hactive.2 x hx)⟩ hzip hip)

/-- All are found exactly if none of them has a prefix, and the session of its address that has
    started last is itself, or one of the same subscriber that starts and stops in this instant. -/
theorem covered_iff (h : Apart inet cidr s) (t : Time) : Covered inet cidr s t ↔
    ∀ r ∈ s.sessions, ActiveAt r t → ∀ text ip, inet text = some ip → ¬ Delegated cidr r ip ∧
      (Assigned inet r ip → ∀ z ∈ latest (addressRows inet ip t s), z = r ∨
        z.startTime = t ∧ z.stopTime = some t ∧ z.subscriberID = r.subscriberID) := by
  refine forall₂_congr fun r hr => forall_congr' fun hactive => forall₂_congr fun text ip =>
    forall_congr' fun hread => ?_
  have hstill : ¬ r.stopTime.any (· < t) = true := by
    rw [Option.any_eq_true]
    rintro ⟨x, hx, hlt⟩
    exact absurd (hactive.2 x hx) (of_decide_eq_true hlt).not_gt
  constructor
  · intro hfound
    constructor
    · intro hdelegated
      obtain ⟨res, hres, -⟩ := hfound (.inr hdelegated) ⟨id, fun _ => .refl _⟩
      have hnone : addressRows inet ip t s = [] := filter_eq_nil_iff.mpr fun z hz hmem =>
        h.families z hz r hr ip (of_decide_eq_true hmem).2.1 hdelegated
      simp [lookupDirectIP, hread, hnone, latest, limitOne] at hres
    · intro hip z hz
      obtain ⟨order, horder⟩ := exists_limitOne hz
      obtain ⟨res, hres, hsub⟩ := hfound (.inl hip) order
      simp only [lookupDirectIP, hread, horder] at hres
      split at hres
      · cases hres
      · rename_i hz'
        cases hres
        refine or_iff_not_imp_left.mpr fun hne => ?_
        obtain ⟨x, hx, hle⟩ := h.over hr hactive hip hz hne
        have hzt := (mem_addressRows.mp (mem_of_latest hz)).2.2.2
        have hxt : t ≤ x := by simpa [Option.mem_def.mp hx] using hz'
        obtain rfl : x = t := le_antisymm (hle.trans hzt) hxt
        exact ⟨le_antisymm hzt hle, hx, hsub⟩
  · rintro ⟨hdirect, hlast⟩ (hip | hdelegated) order
    · obtain ⟨z, hz, hfirst⟩ :=
        limitOne_latest order (mem_addressRows.mpr ⟨hr, h.refers r hr, hip, hactive.1⟩)
      simp only [lookupDirectIP, hread, hfirst]
      rcases hlast hip z hz with rfl | ⟨-, hstop, hsub⟩
      · exact ⟨_, if_neg hstill, rfl⟩
      · exact ⟨_, if_neg (by simp [hstop]), hsub⟩
    · exact absurd hdelegated hdirect

end

/-! ### One session -/

/-- Every text is an address, and the prefix has one of them. -/
def plainCidr (p ip : String) : Prop := p = "2001:db8::/64" ∧ ip = "2001:db8::1"

def onlyRecord (ipv6Prefix : String) : SessionRow :=
  newSession 1 "sess-1" "10.0.0.1" "100.64.0.7" ipv6Prefix 0

theorem apart_only (ipv6Prefix : String) :
    Apart some plainCidr (online [onlyRecord ipv6Prefix]) where
  refers r hr := by
    obtain rfl := mem_singleton.mp hr
    exact show (1 : ℤ) ∈ twoSubscribers.directory.subscribers by decide
  assigned := by simp [online]
  delegated := by simp [online]
  families r hr _ _ ip hip := by
    obtain rfl := mem_singleton.mp hr
    rintro ⟨p, -, -, rfl⟩
    exact absurd (Option.some.inj hip) (by decide)

theorem ipv4_covered : Covered some plainCidr (online [onlyRecord ""]) 5 := by
  refine (covered_iff (apart_only "") 5).mpr fun r hr _ text ip _ => ?_
  obtain rfl := mem_singleton.mp hr
  constructor
  · rintro ⟨p, hp, -⟩
    cases hp
  · exact fun _ z hz => .inl (mem_singleton.mp (mem_addressRows.mp (mem_of_latest hz)).1)

/-- The address is inside the prefix of the one session, and nobody is found. -/
theorem ipv6_not_found :
    Apart some plainCidr (online [onlyRecord "2001:db8::/64"]) ∧
    Delegated plainCidr (onlyRecord "2001:db8::/64") "2001:db8::1" ∧
    ActiveAt (onlyRecord "2001:db8::/64") 5 ∧
    lookupDirectIP some id "2001:db8::1" 5 (online [onlyRecord "2001:db8::/64"]) = .ok none :=
  ⟨apart_only _, ⟨_, rfl, rfl, rfl⟩, by decide, by rfl⟩

end IspBss.Fup
