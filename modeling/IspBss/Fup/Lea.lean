import IspBss.Radius.Network

/-! `FUPStore.LookupByPublicIP`: who had a public address at a time. Without a port the sessions are asked.

    How a text is read as an address is PostgreSQL's. -/

namespace IspBss.Fup

open Radius FUPStore

/-- `api.LEAResult`, without the columns of the subscriber that it passes on. -/
structure LEAResult where
  subscriberID : ℤ
  sessionID : String
  sessionStart : Time
  sessionStop : Option Time
  source : String
  deriving DecidableEq

variable {Addr : Type} [DecidableEq Addr] (inet : String → Option Addr)

/-- The sessions of the address that have started by then. -/
def addressRows (ip : Addr) (t : Time) (s : Network) : List SessionRow :=
  s.sessions.filter fun r =>
    r.subscriberID ∈ s.directory.subscribers ∧ r.assignedIPv4.bind inet = some ip ∧ r.startTime ≤ t

def lookupDirectIP (order : List ℤ → List ℤ) (publicIP : String) (t : Time) (s : Network) :
    Except NetErr (Option LEAResult) :=
  match inet publicIP with
  | none => .error .invalidInet
  | some ip =>
    match limitOne order (latest (addressRows inet ip t s)) with
    | none => .ok none
    | some r =>
      -- the one that has started last must still have been active
      if r.stopTime.any (· < t) then .ok none
      else .ok (some ⟨r.subscriberID, r.sessionID, r.startTime, r.stopTime, "direct_ip"⟩)

end IspBss.Fup
