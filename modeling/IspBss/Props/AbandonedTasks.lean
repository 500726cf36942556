import IspBss.Props.TaskDelivery

/-! Does an abandoned session leave its task behind in `sent`?

    The time to live is there "so an abandoned session cannot pin a task in 'sent' forever", but all
    that expires is the session. A claim takes `pending` tasks only, an Inform looks at no task, and
    the sole step that moves a task on from `sent` is an envelope in the session that waits for it.
    So a later session of the device changes nothing, and when the session that waited is gone the
    task is `sent` in every state from then on.

        sent ──(session lost)──▶ sent ──Inform, empty POSTs, 204──▶ sent -/

namespace IspBss.Tr069

open Lib Run

/-- No envelope for the task: if the step carries a response, it arrives in a session that waits for
    something else. -/
def Elsewhere (t : ℤ) (s : Acs) : AcsStep → Prop
  | .post env r =>
    ∀ b ∈ r.answer, ∀ sess ∈ loadSession env.now r.cookie s, sess.outstandingTaskID ≠ t
  | _ => True

instance (t : ℤ) (s : Acs) : ∀ x, Decidable (Elsewhere t s x)
  | .post _ r => inferInstanceAs (Decidable (∀ b ∈ r.answer, _))
  | .enqueue _ _ _ _ _ _ => isTrue trivial
  | .sweep _ => isTrue trivial

/-- A complete session: an Inform that is answered with the cookie, then empty POSTs with it until
    the 204. Other steps may come between, from other devices; none of them is a response to the
    task. -/
structure CompleteSession (t : ℤ) (cookie : String) (s : Acs) (steps : List AcsStep) : Prop where
  opens : ∃ env r b rest, steps = .post env r :: rest ∧ r.body = .ok (some b) ∧ b.inform.isSome ∧
    (ServeHTTP env r s).1 = .informResponse cookie
  drains : ∀ env r, .post env r ∈ steps.tail → r.cookie = cookie → r.body = .ok none
  closes : ∃ pre env r, steps = pre ++ [.post env r] ∧ r.cookie = cookie ∧
    (ServeHTTP env r (run acsStep s pre)).1 = .empty
  others : Meets acsStep (Elsewhere t) s steps

section
variable {s : Acs} {x : AcsStep} {t : ℤ} {task : Task}

/-- A task that has been sent changes by its response only. -/
theorem turn_elsewhere {row : Option Task} (h : Turn s x t (some task) row)
    (hsent : task.status ≠ .pending) (helse : Elsewhere t s x) : row = some task := by
  cases h with
  | same => rfl
  | claimed _ hpending _ _ => exact absurd hpending hsent
  | @answered env r b sess _ _ hx hanswer hsess hout _ _ _ =>
    subst hx
    exact absurd hout (helse b hanswer sess hsess)

theorem run_elsewhere {steps : List AcsStep} (hrow : s.tasks.lookup t = some task)
    (hsent : task.status ≠ .pending) (helse : Meets acsStep (Elsewhere t) s steps) :
    (run acsStep s steps).tasks.lookup t = some task := by
  refine inv (I := fun s : Acs => s.tasks.lookup t = some task) ?_ steps hrow helse
  intro u x hu hx
  have hturn := step_turn u x t
  rw [hu] at hturn
  exact turn_elsewhere hturn hsent hx

/-- No session waits for the task. -/
def Forgotten (s : Acs) (t : ℤ) : Prop :=
  ∀ c e, s.sessions.entries.lookup (sessionKey c) = some e → e.val.outstandingTaskID ≠ t

/-- A response can only arrive in a session that waits. -/
theorem Forgotten.elsewhere (h : Forgotten s t) (x : AcsStep) : Elsewhere t s x := by
  cases x with
  | post env r =>
    intro b _ sess hsess
    rw [loadSession] at hsess
    split at hsess
    · cases hsess
    · obtain ⟨e, he, -, rfl⟩ := Localcache.Store.get_eq_some.mp hsess
      exact h r.cookie e he
  | enqueue => trivial
  | sweep => trivial

theorem forgotten_step (h : Forgotten s t) (ht : t ≠ 0) (hrow : s.tasks.lookup t = some task)
    (hsent : task.status ≠ .pending) : Forgotten (acsStep s x) t := by
  rintro c e he rfl
  rcases step_session he with hold | h0 | hsends
  · exact h c e hold rfl
  · exact ht h0
  · have hpending := hsends.2.1
    rw [Acs.status, hrow] at hpending
    exact hsent (Option.some.inj hpending)

/-- A task that is sent and that no session waits for is sent forever, whatever happens. -/
theorem pinned_forever (ht : t ≠ 0) (hrow : s.tasks.lookup t = some task)
    (hsent : task.status = .sent) (hforgotten : Forgotten s t) (steps : List AcsStep) :
    (run acsStep s steps).tasks.lookup t = some task := by
  have hne : task.status ≠ .pending := by
    rw [hsent]
    decide
  refine (inv (C := fun _ _ => True) (I := fun s : Acs => s.tasks.lookup t = some task ∧
    Forgotten s t) ?_ steps
    ⟨hrow, hforgotten⟩ ((meets_iff_forall steps).mpr fun _ _ _ => trivial)).1
  rintro u x ⟨hu, hforgot⟩ _
  have hturn := step_turn u x t
  rw [hu] at hturn
  exact ⟨turn_elsewhere hturn hne (hforgot.elsewhere x), forgotten_step hforgot ht hu hne⟩

end

/-- After a complete session, a task that was sent before it is no longer `sent` exactly if it was
    not when the session began; what has become of the session it was sent in makes no difference. -/
theorem complete_session_releases_iff (devices : Serial Device) (hist steps : List AcsStep) (t : ℤ)
    (sentIn cookie : String) (hsent : SentIn (.start devices) hist t sentIn)
    (hsession : CompleteSession t cookie (run acsStep (.start devices) hist) steps) :
    (run acsStep (.start devices) (hist ++ steps)).status t ≠ some .sent ↔
      (run acsStep (.start devices) hist).status t ≠ some .sent := by
  obtain ⟨pre, x, ⟨later, rfl⟩, hsends⟩ := hsent
  have hfirst := hsends.not_pending
  rw [← run_concat acsStep] at hfirst
  obtain ⟨task, hrow, hne⟩ := not_pending_later later hfirst
  rw [run_append _ (pre ++ [x] ++ later) steps, Acs.status, Acs.status,
    run_elsewhere hrow hne hsession.others, hrow]

/-! ### The bench again -/

/-- Twenty minutes on, twice the time to live. -/
def benchLater : Time := 1200000000

def benchReturnEnv (now : Time) : AcsEnv := { benchEnv now with sessionID := some "c2" }

def benchReturnInform : Request := ⟨true, .ok (some benchInform), ""⟩

def benchReturnEmpty : Request := ⟨true, .ok none, "c2"⟩

/-- The next contact of the device: an Inform, and an empty POST. -/
def benchReturn : List AcsStep :=
  [.post (benchReturnEnv benchLater) benchReturnInform,
    .post (benchReturnEnv (benchLater + 1)) benchReturnEmpty]

theorem benchReturn_complete {s : Acs}
    (hopens : (ServeHTTP (benchReturnEnv benchLater) benchReturnInform s).1 = .informResponse "c2")
    (hcloses : (ServeHTTP (benchReturnEnv (benchLater + 1)) benchReturnEmpty
      (acsStep s (.post (benchReturnEnv benchLater) benchReturnInform))).1 = .empty) :
    CompleteSession 1 "c2" s benchReturn where
  opens := ⟨_, _, benchInform, _, rfl, rfl, rfl, hopens⟩
  drains env r h _ := by
    obtain ⟨-, rfl⟩ := AcsStep.post.inj (List.mem_singleton.mp h)
    rfl
  closes := ⟨[.post (benchReturnEnv benchLater) benchReturnInform], _, _, rfl, rfl, hcloses⟩
  others := by
    refine ⟨?_, ?_, trivial⟩ <;> intro b hb
    · simp [benchReturnInform, benchInform, Request.answer] at hb
    · simp [benchReturnEmpty, Request.answer] at hb

/-- A reboot that was answered before the device came back. -/
theorem benchReboot_released :
    (run acsStep (.start .empty) (benchReboot ++ benchReturn)).status 1 ≠ some .sent :=
  (complete_session_releases_iff .empty benchReboot benchReturn 1 "c1" "c2"
    ⟨benchReboot.take 2, benchPost 2 none, ⟨benchReboot.drop 3, rfl⟩,
      ⟨_, _, rfl, rfl⟩, by decide +kernel⟩
    (benchReturn_complete (by decide +kernel) (by decide +kernel))).mpr (by decide +kernel)

/-- A reboot goes out and no response comes. Twenty minutes later its session has expired; the
    device opens another one and is told that there is nothing to do, and the reboot is still
    `sent`. -/
theorem unanswered_reboot_pinned :
    loadSession benchLater "c1" (run acsStep (.start .empty) (benchSent .reboot)) = none ∧
    (ServeHTTP (benchReturnEnv benchLater) benchReturnInform
      (run acsStep (.start .empty) (benchSent .reboot))).1 = .informResponse "c2" ∧
    (ServeHTTP (benchReturnEnv (benchLater + 1)) benchReturnEmpty
      (run acsStep (.start .empty) (benchSent .reboot ++ benchReturn.take 1))).1 = .empty ∧
    (run acsStep (.start .empty) (benchSent .reboot)).status 1 = some .sent ∧
    (run acsStep (.start .empty) (benchSent .reboot ++ benchReturn)).status 1 = some .sent := by
  decide +kernel

/-- A reboot that nobody answers, after the sweep has dropped its session. -/
def benchSwept : Acs := run acsStep (.start .empty) (benchSent .reboot ++ [.sweep benchLater])

theorem swept_reboot_pinned : (run acsStep benchSwept benchReturn).status 1 = some .sent := by
  have hsent : benchSwept.status 1 = some .sent := by decide +kernel
  have hempty : benchSwept.sessions.entries.entries = [] := by decide +kernel
  obtain ⟨task, hrow, hstatus⟩ := Option.map_eq_some_iff.mp hsent
  have hforgotten : Forgotten benchSwept 1 := fun c e he => by
    have hmem := AList.mem_lookup_iff.mp he
    rw [hempty] at hmem
    cases hmem
  rw [Acs.status, pinned_forever one_ne_zero hrow hstatus hforgotten benchReturn, ← hrow]
  exact hsent

end IspBss.Tr069
