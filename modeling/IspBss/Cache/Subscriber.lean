import IspBss.Radius.Daemon

/-! `cache.SubscriberCache`: the lookup of an authentication, with a memory.

        GetSubscriberByUsername ─▶ entry that has not expired ─▶ what was read then
                                └▶ the database ─▶ kept for `ttl`

    That nobody was found is kept for a quarter of the time. The daemon does not know of the cache:
    `cachedExec` answers the one statement from it and all others as before. The cache belongs to the
    process of the daemon, and no other process can drop an entry. -/

namespace IspBss.Cache

open Lib Radius

/-- One minute. -/
def DefaultSubscriberTTL : Time := 60000000

def SubscriberCacheKey (username : String) : String := "subscriber:auth:" ++ username

/-- The stored form of a `radius.Subscriber`. -/
structure CachedSubscriber where
  id : ℤ
  username : String
  passwordHash : String
  status : SubStatus
  rateLimitStr : String
  fupActive : Bool
  fupThrottle : String
  planID : ℤ
  volumeGB : ℤ
  speedOverrideRateLimit : String
  speedOverrideExpiresAt : Option Time
  ntHash : Option (List UInt8)
  deriving DecidableEq

/-- An entry; the name nobody was found under is stored as such. -/
inductive CacheEntry where
  | found (sub : CachedSubscriber)
  | notFound (username : String)
  deriving DecidableEq

/-- What an entry is served as. -/
def CacheEntry.subscriber : CacheEntry → Option Radius.Subscriber
  | notFound _ => none
  | found c =>
    some { id := c.id, username := c.username, passwordHash := c.passwordHash, status := c.status,
           rateLimitStr := c.rateLimitStr, fupActive := c.fupActive, fupThrottle := c.fupThrottle,
           planID := c.planID, volumeGB := c.volumeGB,
           speedOverrideRateLimit := c.speedOverrideRateLimit,
           speedOverrideExpiresAt := c.speedOverrideExpiresAt, ntHash := c.ntHash }

abbrev SubscriberStore := Localcache.Store CacheEntry

structure SubscriberCache where
  ttl : Time

def NewSubscriberCache (ttl : Time) : SubscriberCache := ⟨if ttl ≤ 0 then DefaultSubscriberTTL else ttl⟩

namespace SubscriberCache

variable (c : SubscriberCache)

/-- A quarter of the time, but a second at least. -/
def negativeTTL : Time := max (c.ttl / 4) 1000000

def cacheResult (now : Time) (key : String) (sub : Option Radius.Subscriber)
    (username : String) (store : SubscriberStore) : SubscriberStore :=
  match sub with
  | none => store.Set now key (.notFound username) c.negativeTTL
  | some sub =>
    store.Set now key (.found
      { id := sub.id, username := sub.username, passwordHash := sub.passwordHash, status := sub.status,
        rateLimitStr := sub.rateLimitStr, fupActive := sub.fupActive, fupThrottle := sub.fupThrottle,
        planID := sub.planID, volumeGB := sub.volumeGB,
        speedOverrideRateLimit := sub.speedOverrideRateLimit,
        speedOverrideExpiresAt := sub.speedOverrideExpiresAt, ntHash := sub.ntHash }) c.ttl

/-- From the cache if it is there, else from the database. -/
def GetSubscriberByUsername (e : NetEnv) (username : String) (net : Network)
    (store : SubscriberStore) : Except NetErr (Option Radius.Subscriber) × SubscriberStore :=
  let key := SubscriberCacheKey username
  match store.Get e.now key with
  | some entry => (.ok entry.subscriber, store)
  | none =>
    match (netExec e (.stmt (.getSubscriberByUsername username)) net).1 with
    | .error err => (.error err, store)
    | .ok sub => (.ok sub, c.cacheResult e.now key sub username store)

/-- The tables of a daemon that has been given the cache for its database. -/
def cachedExec : Store netSig NetEnv (Network × SubscriberStore)
  | e, .stmt (.getSubscriberByUsername username), (net, store) =>
    ((c.GetSubscriberByUsername e username net store).1,
      net, (c.GetSubscriberByUsername e username net store).2)
  | e, call, (net, store) => ((netExec e call net).1, (netExec e call net).2, store)

end SubscriberCache

/-- Nothing of what an authentication reads is lost on the way through the cache. -/
theorem cacheResult_entry (c : SubscriberCache) (now : Time) (key : String) (sub : Option Radius.Subscriber)
    (username : String) (store : SubscriberStore) :
    ∃ entry, (c.cacheResult now key sub username store).entries.lookup key = some entry ∧
      entry.val.subscriber = sub ∧ (sub.isSome = true → entry.expires = now + c.ttl) := by
  cases sub with
  | none => exact ⟨_, AList.lookup_insert _, rfl, nofun⟩
  | some sub => exact ⟨_, AList.lookup_insert _, rfl, fun _ => rfl⟩

end IspBss.Cache
