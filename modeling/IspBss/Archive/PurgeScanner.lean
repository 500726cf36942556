import IspBss.Db.Schema
import IspBss.Lib.Rows

/-! Archived documents past their retention are deleted from storage.

        ListDueForPurge ─▶ due rows, first retain_until first, up to the limit
                            └─ each: Delete ─▶ MarkPurged
                                       └─ failed: still due at the next sweep -/

namespace IspBss.Archive

open Lib

/-- A row of `document_archives`. -/
structure ArchiveRow where
  docKind : String
  entityID : ℤ
  storageBackend : String
  storageURL : String
  checksumSHA256 : String
  sizeBytes : ℤ
  archivedAt : Time
  retainUntil : Option Time
  purgedAt : Option Time
  deriving DecidableEq

/-- A row with its id. -/
abbrev Record := (_ : ℤ) × ArchiveRow

/-- The table, and what is in storage by URL. -/
structure Archives where
  rows : Serial ArchiveRow
  objects : Rows String (List UInt8)

/-- What a sweep meets. -/
structure SweepEnv where
  now : Time
  /-- The order of the list, in which equal dates are in any order. -/
  order : List Record → List Record
  listFails : Bool
  deleteFails : ℤ → Bool
  markFails : ℤ → Bool

def ArchiveRow.Due (r : ArchiveRow) (now : Time) : Prop := r.purgedAt = none ∧ ∃ t ∈ r.retainUntil, t ≤ now
  deriving Decidable

/-- How many rows `ListDueForPurge` returns at most. -/
def purgeLimit (limit : ℤ) : ℕ := if limit ≤ 0 ∨ 1000 < limit then 200 else limit.toNat

def dueRecords (e : SweepEnv) (s : Archives) : List Record :=
  e.order (s.rows.rows.entries.filter fun x => x.2.Due e.now)

def ListDueForPurge (e : SweepEnv) (limit : ℤ) (s : Archives) : List Record :=
  (dueRecords e s).take (purgeLimit limit)

/-- Does this call mark it? -/
def MarkPurged (now : Time) (id : ℤ) (s : Archives) : Except String Bool × Archives :=
  match s.rows.lookup id with
  | none => (.ok false, s)
  | some r =>
    if r.purgedAt ≠ none then (.ok false, s)
    else if ∃ t ∈ r.retainUntil, now < t then (.error "chk_archive_not_purged_before_retention", s)
    else (.ok true, { s with rows := s.rows.updateWhere (fun i _ => i = id) ({ · with purgedAt := some now }) })

/-- The sweep's work on one record. -/
def purge (e : SweepEnv) (s : Archives) (x : Record) : Archives :=
  if e.deleteFails x.1 then s
  else
    let s := { s with objects := s.objects.erase x.2.storageURL }
    if e.markFails x.1 then s else (MarkPurged e.now x.1 s).2

def PurgeOnce (batch : ℤ) (e : SweepEnv) (s : Archives) : Archives :=
  if e.listFails then s else (ListDueForPurge e batch s).foldl (purge e) s

end IspBss.Archive
