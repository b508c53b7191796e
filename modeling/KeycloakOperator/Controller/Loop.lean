import Mathlib.Logic.Function.Basic
import KeycloakOperator.Controller.RealmChild

/-!
# The controller loop: resources, the work queue and the service

`SetupWithManager` of both controllers registers `Reconcile` for the resource kind with the predicate
`predicate.Funcs{UpdateFunc: isSpecUpdated}`: a created or deleted resource is always queued, an update only when
`isSpecUpdated` passes. The manager runs `Reconcile` on one queued request at a time (no `MaxConcurrentReconciles` is
set). After an error it queues the request again through `AddRateLimited`, after a positive `RequeueAfter` through
`AddAfter`: both arm a timer of the delaying queue, which adds the request when it fires and which a later success does
not cancel. A restart of the manager starts from an empty work queue, and the informer's first list queues every
resource.

A `Cluster` is the service and the resources of the kind, by index, each with the work queue's entry for its key
(`Entry`: a queued request and an armed timer), and the entries left by resources that are gone. `ClusterEvent` is what
can happen: a resource is created, edited, marked for deletion or resynced by the informer, a timer fires, the worker
processes a queued request, the manager restarts, or another writer changes the service. A resource is pending when a
request for it is queued or a timer will queue one. Both controllers' `Reconcile` are `reconcileWith` with their own
values, so the loop is stated once over it.

- `Reconcile` arms a timer exactly when its `Get`, its attempt or its status write failed, or, after a success, when
  the success delay is positive (`requeue_reconcileWith`).
- What a strategy does to the service, read through a view by realm and key (`Strategy.Lawful`): its sync sets the
  spec's value under its realm and key, its terminator clears them, and neither touches another realm or key. An
  attempt then changes only its own realm and key (`Strategy.Lawful.attempt_frame`), and a successful one sets them
  on an active resource and clears them on a terminating one (`Strategy.Lawful.attempt_ok`).
- **Convergence of the loop** (`loopInv_run`): when each resource keeps its realm and key, no two resources share
  both, and no one else writes the service, every resource that is neither pending nor terminating has its value in
  the service.
- The service under a realm and key that no resource is bound to is never touched (`run_undeclared`); a resource
  that is not pending stays as it is through every event that does not edit it, mark it or restart the manager, and
  the service under its realm and key changes only by other writers (`run_quiet`).
- A resource that is not being deleted never loses its value in the service: an attempt on an active resource
  removes nothing (`Strategy.Lawful.attempt_active_isSome`), so through every respecting run that does not mark it, a
  value under its realm and key stays (`run_keeps_live`).
- With a positive success delay every resource stays pending (`run_queued`); a successful `Reconcile` writes the value
  of an active resource again and clears that of a terminating one (`process_ok_view`). A terminating resource that
  lost the finalizer stays pending and without it (`lingering_run`).
- A resource that holds the finalizer leaves the cluster only through a `Reconcile` of it that cleared its realm and
  key (`step_gone_cleaned`).
- Every resource that is not pending shows `OK`: every failure is retried (`idleOK_run`).
- Resources that share a realm and key share one value, which the deletion of one of them clears
  (`process_clears_shared`).
-/

namespace KeycloakOperator

variable {σ α : Type}

/-! ## The cluster -/

/-- The work queue's hold on one request key: a request waiting for the worker, and a timer of `AddAfter` or
`AddRateLimited` that will add one (the delaying queue keeps one timer per key, at the earliest time asked for). -/
structure Entry where
  queued : Bool
  timer : Bool
deriving DecidableEq, Repr

/-- Nothing waits for the key. -/
def Entry.idle : Entry := ⟨false, false⟩

/-- The key will be reconciled: a request is queued, or a timer will queue one. -/
def Entry.pending (e : Entry) : Bool := e.queued || e.timer

@[simp] theorem Entry.pending_mk (queued timer : Bool) : Entry.pending ⟨queued, timer⟩ = (queued || timer) := rfl

/-- A resource of the cluster, and the work queue's entry for its key. -/
structure Queued (α : Type) where
  obj : Object α
  entry : Entry
deriving DecidableEq, Repr

/-- The resource will be reconciled again. -/
def Queued.pending (q : Queued α) : Bool := q.entry.pending

@[simp] theorem Queued.pending_mk (obj : Object α) (e : Entry) : Queued.pending ⟨obj, e⟩ = e.pending := rfl

/-- The service and the resources of one kind, by index (`none` is an index without a resource), and the work
queue's entries of the indices without one: a deleted resource's request and timer outlive it. -/
structure Cluster (σ α : Type) where
  store : σ
  res : Nat → Option (Queued α)
  orphan : Nat → Entry

/-- The cluster as the manager first starts: no resource, and an empty work queue. -/
def Cluster.empty (s : σ) : Cluster σ α := ⟨s, fun _ => none, fun _ => .idle⟩

/-- What can happen in the cluster. -/
inductive ClusterEvent (σ α : Type)
  /-- A resource is created at a free index, with the finalizers its creator put on it. -/
  | create (i : Nat) (spec : α) (finalizers : List String)
  /-- A user writes a new spec. -/
  | edit (i : Nat) (spec : α)
  /-- A user deletes the resource: the API server sets its deletion timestamp, once. -/
  | markDeleted (i : Nat) (t : Nat)
  /-- The informer's resync: an update whose old and new objects are the same. -/
  | resync (i : Nat)
  /-- The timer armed for the key of index `i` fires and adds its request. -/
  | fire (i : Nat)
  /-- The worker takes the queued request of index `i` and runs `Reconcile`: `get` is the error of `client.Get`, `env`
  what the attempt meets, `updateStatus` the error of the status write. -/
  | process (i : Nat) (get : Option String) (env : Env) (updateStatus : Option String)
  /-- The manager restarts: the new work queue is empty, and the informer's first list queues every resource. -/
  | restart
  /-- Another writer (an administrator, another operator) leaves the service as `s`. -/
  | external (s : σ)

/-- The index an event is about; a restart is about every index, a change of the service by another writer about
none. -/
def ClusterEvent.index : ClusterEvent σ α → Option Nat
  | .create i _ _ | .edit i _ | .markDeleted i _ | .resync i | .fire i | .process i _ _ _ => some i
  | .restart | .external _ => none

/-- What `client.Get` of an existing resource answers: the resource, or the call's error. -/
def fetchOf : Option String → Fetch
  | some err => .failed err
  | none => .found

/-- controller-runtime's decision after `Reconcile`: arm a timer for the request on an error or a positive
`RequeueAfter`. -/
def requeue (result : Nat × Option String) : Bool := decide (0 < result.1) || result.2.isSome

/-! ## `Reconcile` in the loop -/

section Reconcile

variable {k : Strategy σ α} {timeout : Int → Nat} {successAfter : Nat} {getError statusError : String → String}

/-- **When `Reconcile` queues the resource again.** With a positive failure delay: exactly when `client.Get`, the
attempt or the status write failed, or the success delay is positive. -/
theorem requeue_reconcileWith (htimeout : ∀ n, 0 < timeout n) (get updateStatus : Option String) (env : Env)
    (w : World σ α) :
    requeue (reconcileWith k timeout successAfter getError statusError (fetchOf get) updateStatus env w).1 =
      (get.isSome || updateStatus.isSome || (tryReconcileWith k env w).1.isSome || decide (0 < successAfter)) := by
  cases get with
  | some e => rfl
  | none =>
    simp only [fetchOf, reconcileWith]
    generalize tryReconcileWith k env w = r
    obtain ⟨_ | e, w'⟩ := r <;> cases updateStatus <;> simp [requeue, setFailureCount, htimeout]

/-- The world after `Reconcile` of an existing resource: as it was when `client.Get` failed, otherwise the attempt's
service and the attempt's resource with some status. -/
theorem reconcileWith_fetchOf (get updateStatus : Option String) (env : Env) (w : World σ α) :
    (reconcileWith k timeout successAfter getError statusError (fetchOf get) updateStatus env w).2 = w ∨
      get = none ∧ ∃ st, (reconcileWith k timeout successAfter getError statusError (fetchOf get) updateStatus env w).2 =
        ⟨(tryReconcileWith k env w).2.store, { (tryReconcileWith k env w).2.obj with status := st }⟩ := by
  cases get with
  | some e => exact .inl rfl
  | none => exact .inr ⟨rfl, reconcileWith_found_world _ _ _ _ _ _ _⟩

variable (timeout successAfter getError statusError) in
/-- `Reconcile` keeps the spec and the deletion mark of the resource. -/
theorem reconcileWith_obj (get updateStatus : Option String) (env : Env) (w : World σ α) :
    (reconcileWith k timeout successAfter getError statusError (fetchOf get) updateStatus env w).2.obj.spec =
        w.obj.spec ∧
      (reconcileWith k timeout successAfter getError statusError (fetchOf get) updateStatus env w).2.obj.deletionTimestamp =
        w.obj.deletionTimestamp := by
  rcases reconcileWith_fetchOf get updateStatus env w with h | ⟨-, st, h⟩ <;> rw [h]
  · exact ⟨rfl, rfl⟩
  · rw [tryReconcileWith_obj]; exact ⟨rfl, rfl⟩

/-- When `Reconcile` does not queue the resource again, it got the resource, wrote its status, and the attempt
succeeded. -/
theorem requeue_eq_false (htimeout : ∀ n, 0 < timeout n) {get updateStatus : Option String} {env : Env}
    {w : World σ α}
    (h : requeue (reconcileWith k timeout successAfter getError statusError (fetchOf get) updateStatus env w).1 = false) :
    get = none ∧ updateStatus = none ∧ (tryReconcileWith k env w).1 = none := by
  rw [requeue_reconcileWith htimeout] at h
  simp only [Bool.or_eq_false_iff, Option.not_isSome, Option.isNone_iff_eq_none] at h
  exact ⟨h.1.1.1, h.1.1.2, h.1.2⟩

end Reconcile

/-! ## Lawful strategies -/

/-- What a strategy's two writes do to the service, read through `view` (what the service holds under a realm and a
key): on a service where `Good` holds, which both writes keep, the sync sets the spec's value under its realm and key
and the terminator clears its realm and key, and neither touches another realm or key. -/
structure Strategy.Lawful {β : Type} (k : Strategy σ α) (view : σ → String → String → Option β) (expected : α → β)
    (Good : σ → Prop) : Prop where
  sync_good : ∀ {f r spec s s'}, Good s → k.sync f r spec s = .ok s' → Good s'
  sync_view : ∀ {f r spec s s'}, Good s → k.sync f r spec s = .ok s' →
    ∀ r' n, view s' r' n = if r' = r ∧ n = k.key spec then some (expected spec) else view s r' n
  term_good : ∀ {f r n s s'}, Good s → k.makeTerminator f r n s = .ok s' → Good s'
  term_view : ∀ {f r n s s'}, Good s → k.makeTerminator f r n s = .ok s' →
    ∀ r' n', view s' r' n' = if r' = r ∧ n' = n then none else view s r' n'

section Lawful

variable {β : Type} {k : Strategy σ α} {view : σ → String → String → Option β} {expected : α → β}
  {Good : σ → Prop} (hk : k.Lawful view expected Good)
include hk

variable {env : Env} {w : World σ α}

/-- Every attempt keeps `Good`. -/
theorem Strategy.Lawful.attempt_good (env : Env) (h : Good w.store) : Good (tryReconcileWith k env w).2.store := by
  rcases tryReconcileWith_store env w with hst | ⟨r, s, hs, hst | ⟨-, ht⟩⟩
  · rwa [hst]
  · rw [hst]; exact hk.sync_good h (synced_eq_some hs).2.2
  · exact hk.term_good (hk.sync_good h (synced_eq_some hs).2.2) ht

/-- **An attempt changes the service only under the realm it resolved and its spec's key.** -/
theorem Strategy.Lawful.attempt_frame {r n : String} (h : Good w.store)
    (hne : ¬(env.realm = .ok r ∧ n = k.key w.obj.spec)) :
    view (tryReconcileWith k env w).2.store r n = view w.store r n := by
  rcases tryReconcileWith_store env w with hst | ⟨r₀, s, hs, hst | ⟨-, ht⟩⟩
  · rw [hst]
  all_goals
    obtain ⟨hr, -, hsync⟩ := synced_eq_some hs
    have hne' : ¬(r = r₀ ∧ n = k.key w.obj.spec) := fun ⟨h₁, h₂⟩ => hne ⟨h₁ ▸ hr, h₂⟩
  · rw [hst, hk.sync_view h hsync, if_neg hne']
  · rw [hk.term_view (hk.sync_good h hsync) ht, if_neg hne', hk.sync_view h hsync, if_neg hne']

/-- **A successful attempt** resolved a realm, and under it and its spec's key the service holds nothing when the
resource is terminating, and the spec's value otherwise. -/
theorem Strategy.Lawful.attempt_ok (h : Good w.store) (hok : (tryReconcileWith k env w).1 = none) :
    ∃ r, env.realm = .ok r ∧ view (tryReconcileWith k env w).2.store r (k.key w.obj.spec) =
      if w.obj.deletionTimestamp.isSome then none else some (expected w.obj.spec) := by
  by_cases hdel : w.obj.deletionTimestamp.isSome
  · obtain ⟨r, s, s', hs, ht, hst⟩ := tryReconcileWith_terminating hdel hok
    obtain ⟨hr, -, hsync⟩ := synced_eq_some hs
    refine ⟨r, hr, ?_⟩
    rw [if_pos hdel, hst, hk.term_view (hk.sync_good h hsync) ht, if_pos ⟨rfl, rfl⟩]
  · obtain ⟨r, s, hs, hst⟩ := tryReconcileWith_active (Option.not_isSome_iff_eq_none.1 hdel) hok
    obtain ⟨hr, -, hsync⟩ := synced_eq_some hs
    refine ⟨r, hr, ?_⟩
    rw [if_neg hdel, hst, hk.sync_view h hsync, if_pos ⟨rfl, rfl⟩]

/-- **What a successful attempt does, read through the view**: under the realm it resolved and its spec's key it sets
the spec's value, or clears it when the resource is terminating; it changes nothing else. -/
theorem Strategy.Lawful.attempt_view (h : Good w.store) (hok : (tryReconcileWith k env w).1 = none) :
    ∃ r, env.realm = .ok r ∧ ∀ r' n, view (tryReconcileWith k env w).2.store r' n =
      if r' = r ∧ n = k.key w.obj.spec then
        (if w.obj.deletionTimestamp.isSome then none else some (expected w.obj.spec))
      else view w.store r' n := by
  obtain ⟨r, hr, hv⟩ := hk.attempt_ok h hok
  refine ⟨r, hr, fun r' n => ?_⟩
  by_cases hrn : r' = r ∧ n = k.key w.obj.spec
  · obtain ⟨rfl, rfl⟩ := hrn
    rw [if_pos ⟨rfl, rfl⟩, hv]
  · rw [if_neg hrn]
    exact hk.attempt_frame h fun ⟨h₁, h₂⟩ => hrn ⟨Except.ok.inj (h₁.symm.trans hr), h₂⟩

/-- **An attempt on an active resource removes nothing**: under every realm and key where the service held a value,
it still holds one. -/
theorem Strategy.Lawful.attempt_active_isSome (h : Good w.store) (hactive : w.obj.deletionTimestamp = none)
    {r n : String} (hv : (view w.store r n).isSome) : (view (tryReconcileWith k env w).2.store r n).isSome := by
  rcases tryReconcileWith_store env w with hst | ⟨r₀, s, hs, hst | ⟨hdel, -⟩⟩
  · rwa [hst]
  · rw [hst, hk.sync_view h (synced_eq_some hs).2.2]
    split_ifs
    · rfl
    · exact hv
  · simp [hactive] at hdel

end Lawful

variable [DecidableEq α]

/-- The resource after a write that leaves `o'`, with `e` the entry of its key: the API server deletes it once it is
marked and holds no finalizer; otherwise the update event queues a request when it passes `isSpecUpdated`. -/
def Queued.update (q : Queued α) (e : Entry) (o' : Object α) : Option (Queued α) :=
  if o'.deletionTimestamp.isSome && o'.finalizers.isEmpty then none
  else some ⟨o', { e with queued := e.queued || isSpecUpdated ⟨q.obj, o'⟩ }⟩

/-- Index `i` after a write leaves its resource `q` as `o'`, with `e` the entry of its key: the update of the
resource, or, when the API server deletes it, no resource, and the entry with the request of the delete event. -/
def Cluster.write (c : Cluster σ α) (i : Nat) (q : Queued α) (e : Entry) (o' : Object α) : Cluster σ α :=
  ⟨c.store, Function.update c.res i (q.update e o'),
    if (q.update e o').isSome then c.orphan else Function.update c.orphan i { e with queued := true }⟩

/-- A user's or the informer's write of the object at index `i`, when there is a resource. -/
def Cluster.modify (c : Cluster σ α) (i : Nat) (f : Object α → Object α) : Cluster σ α :=
  match c.res i with
  | some q => c.write i q q.entry (f q.obj)
  | none => c

/-- The timer of the key of index `i` fires, when one is armed: its request is added. -/
def Cluster.fire (c : Cluster σ α) (i : Nat) : Cluster σ α :=
  match c.res i with
  | some q =>
    if q.entry.timer then ⟨c.store, Function.update c.res i (some { q with entry := ⟨true, false⟩ }), c.orphan⟩ else c
  | none => if (c.orphan i).timer then ⟨c.store, c.res, Function.update c.orphan i ⟨true, false⟩⟩ else c

variable (rec : Fetch → Option String → Env → World σ α → (Nat × Option String) × World σ α)

/-- One event; `rec` is the controller's `Reconcile`. The worker takes only a queued request; for an index whose
resource is gone, `Reconcile` finds nothing, and only a failed `client.Get` arms a timer. -/
def Cluster.step (c : Cluster σ α) : ClusterEvent σ α → Cluster σ α
  | .create i spec finalizers =>
    match c.res i with
    | none =>
      ⟨c.store, Function.update c.res i
        (some ⟨{ Object.created spec with finalizers := finalizers }, ⟨true, (c.orphan i).timer⟩⟩),
        Function.update c.orphan i .idle⟩
    | some _ => c
  | .edit i spec => c.modify i fun o => { o with spec := spec }
  | .markDeleted i t => c.modify i fun o => { o with deletionTimestamp := some (o.deletionTimestamp.getD t) }
  | .resync i => c.modify i id
  | .fire i => c.fire i
  | .process i get env updateStatus =>
    match c.res i with
    | some q =>
      if q.entry.queued then
        let r := rec (fetchOf get) updateStatus env ⟨c.store, q.obj⟩
        Cluster.write ⟨r.2.store, c.res, c.orphan⟩ i q ⟨false, q.entry.timer || requeue r.1⟩ r.2.obj
      else c
    | none =>
      if (c.orphan i).queued then ⟨c.store, c.res, Function.update c.orphan i ⟨false, (c.orphan i).timer || get.isSome⟩⟩
      else c
  | .restart => ⟨c.store, fun i => (c.res i).map fun q => { q with entry := ⟨true, false⟩ }, fun _ => .idle⟩
  | .external s => ⟨s, c.res, c.orphan⟩

/-- The cluster after a run of events. -/
def Cluster.run (c : Cluster σ α) (evs : List (ClusterEvent σ α)) : Cluster σ α := evs.foldl (Cluster.step rec) c

variable {rec}

@[simp] theorem Cluster.run_nil (c : Cluster σ α) : Cluster.run rec c [] = c := rfl

@[simp] theorem Cluster.run_cons (c : Cluster σ α) (ev : ClusterEvent σ α) (evs : List (ClusterEvent σ α)) :
    Cluster.run rec c (ev :: evs) = Cluster.run rec (Cluster.step rec c ev) evs := rfl

@[simp] theorem Cluster.run_append (c : Cluster σ α) (evs evs' : List (ClusterEvent σ α)) :
    Cluster.run rec c (evs ++ evs') = Cluster.run rec (Cluster.run rec c evs) evs' := List.foldl_append _ _ _ _

/-- **A property that every allowed event keeps holds after every run of allowed events.** -/
theorem Cluster.run_invariant (P : Cluster σ α → Prop) (Q : ClusterEvent σ α → Prop)
    (hstep : ∀ c ev, Q ev → P c → P (Cluster.step rec c ev)) :
    ∀ {c : Cluster σ α} (evs : List (ClusterEvent σ α)), (∀ ev ∈ evs, Q ev) → P c → P (Cluster.run rec c evs)
  | _, [], _, h => h
  | _, ev :: evs, hq, h =>
    Cluster.run_invariant P Q hstep evs (fun e he => hq e (List.mem_cons_of_mem ev he))
      (hstep _ ev (hq ev (List.mem_cons_self ev evs)) h)

/-! ## One event -/

/-- An update that does not pass the predicate kept the spec and did not set the deletion mark. -/
theorem isSpecUpdated_eq_false_iff {o o' : Object α} :
    isSpecUpdated ⟨o, o'⟩ = false ↔ o.spec = o'.spec ∧ (o.deletionTimestamp = none → o'.deletionTimestamp = none) := by
  cases h : o.deletionTimestamp <;> cases h' : o'.deletionTimestamp <;> simp [isSpecUpdated, h, h']

theorem Queued.update_eq_some {q q' : Queued α} {e : Entry} {o' : Object α} (h : q.update e o' = some q') :
    q' = ⟨o', { e with queued := e.queued || isSpecUpdated ⟨q.obj, o'⟩ }⟩ := by
  unfold Queued.update at h
  split_ifs at h
  exact (Option.some.inj h).symm

/-- The API server deletes exactly the marked resources without finalizers. -/
theorem Queued.update_eq_none {q : Queued α} {e : Entry} {o' : Object α} :
    q.update e o' = none ↔ o'.deletionTimestamp.isSome ∧ o'.finalizers = [] := by
  unfold Queued.update
  split_ifs with h <;> simp_all

/-- An update leaves the resource pending when it was, or when the update passes the predicate. -/
theorem Queued.update_pending {q q' : Queued α} {e : Entry} {o' : Object α} (h : q.update e o' = some q') :
    q'.pending = (e.pending || isSpecUpdated ⟨q.obj, o'⟩) := by
  rw [Queued.update_eq_some h]
  obtain ⟨a, b⟩ := e
  cases a <;> cases b <;> simp [Queued.pending]

/-- A resource that is not pending after an update was not pending before, and the update kept its spec and did not
mark it. -/
theorem Queued.update_quiet {q q' : Queued α} {e : Entry} {o' : Object α} (h : q.update e o' = some q')
    (hp : q'.pending = false) :
    q' = ⟨o', e⟩ ∧ e.pending = false ∧ q.obj.spec = o'.spec ∧
      (q.obj.deletionTimestamp = none → o'.deletionTimestamp = none) := by
  rw [Queued.update_pending h] at hp
  obtain ⟨he, hs⟩ := Bool.or_eq_false_iff.1 hp
  refine ⟨?_, he, isSpecUpdated_eq_false_iff.1 hs⟩
  rw [Queued.update_eq_some h, hs, Bool.or_false]

@[simp] theorem Cluster.write_store (c : Cluster σ α) (i : Nat) (q : Queued α) (e : Entry) (o' : Object α) :
    (c.write i q e o').store = c.store := rfl

@[simp] theorem Cluster.write_res (c : Cluster σ α) (i : Nat) (q : Queued α) (e : Entry) (o' : Object α) :
    (c.write i q e o').res = Function.update c.res i (q.update e o') := rfl

theorem Cluster.modify_store (c : Cluster σ α) (i : Nat) (f : Object α → Object α) : (c.modify i f).store = c.store := by
  unfold Cluster.modify; split <;> rfl

theorem Cluster.modify_res (c : Cluster σ α) (i : Nat) (f : Object α → Object α) (j : Nat) :
    (c.modify i f).res j = if j = i then (c.res i).bind fun q => q.update q.entry (f q.obj) else c.res j := by
  unfold Cluster.modify
  split <;> rename_i h <;> by_cases hj : j = i
  · subst hj; simp [h]
  · simp [hj]
  · simp [hj, h]
  · simp [hj]

omit [DecidableEq α] in
theorem Cluster.fire_store (c : Cluster σ α) (i : Nat) : (c.fire i).store = c.store := by
  unfold Cluster.fire; split <;> split_ifs <;> rfl

omit [DecidableEq α] in
theorem Cluster.fire_res (c : Cluster σ α) (i j : Nat) :
    (c.fire i).res j = if j = i then (c.res i).map fun q => if q.entry.timer then { q with entry := ⟨true, false⟩ } else q
      else c.res j := by
  unfold Cluster.fire
  by_cases hj : j = i
  · subst hj; split <;> rename_i h <;> split_ifs <;> simp_all
  · split <;> split_ifs <;> simp [hj]

/-- What an update of a resource's object leaves at its index. -/
theorem modify_eq_some {c : Cluster σ α} {i : Nat} {f : Object α → Object α} {q' : Queued α}
    (h : (c.modify i f).res i = some q') : ∃ q, c.res i = some q ∧ q.update q.entry (f q.obj) = some q' := by
  rw [Cluster.modify_res, if_pos rfl, Option.bind_eq_some] at h
  exact h

/-- An event about another index, and not a restart, leaves a resource as it is. -/
theorem step_res_of_ne (c : Cluster σ α) {ev : ClusterEvent σ α} {j : Nat} (h : ev.index ≠ some j)
    (hr : ev ≠ .restart) : (Cluster.step rec c ev).res j = c.res j := by
  cases ev with
  | create i spec fins =>
    have hj : j ≠ i := fun e => h (congrArg some e.symm)
    simp only [Cluster.step]; split <;> simp [Function.update_noteq hj]
  | edit i spec => rw [Cluster.step, Cluster.modify_res, if_neg fun e => h (congrArg some e.symm)]
  | markDeleted i t => rw [Cluster.step, Cluster.modify_res, if_neg fun e => h (congrArg some e.symm)]
  | resync i => rw [Cluster.step, Cluster.modify_res, if_neg fun e => h (congrArg some e.symm)]
  | fire i => rw [Cluster.step, Cluster.fire_res, if_neg fun e => h (congrArg some e.symm)]
  | process i get env upd =>
    have hj : j ≠ i := fun e => h (congrArg some e.symm)
    simp only [Cluster.step]; split <;> split_ifs <;> simp [Function.update_noteq hj]
  | restart => exact absurd rfl hr
  | external s => rfl

/-- A run of events about other indices, without a restart, leaves a resource as it is. -/
theorem run_res_of_ne (c : Cluster σ α) {evs : List (ClusterEvent σ α)} {i : Nat}
    (h : ∀ ev ∈ evs, ev.index ≠ some i ∧ ev ≠ .restart) : (Cluster.run rec c evs).res i = c.res i :=
  Cluster.run_invariant (fun c' => c'.res i = c.res i) (fun ev => ev.index ≠ some i ∧ ev ≠ .restart)
    (fun c' _ hev h => (step_res_of_ne c' hev.1 hev.2).trans h) evs h rfl

/-- Processing a queued resource: the service after its `Reconcile`, and at its index the update of the resource,
with the request taken and a timer armed as the result decides. -/
theorem step_process {c : Cluster σ α} {i : Nat} {q : Queued α} (hq : c.res i = some q) (hp : q.entry.queued = true)
    (get : Option String) (env : Env) (upd : Option String) :
    Cluster.step rec c (.process i get env upd) =
      Cluster.write ⟨(rec (fetchOf get) upd env ⟨c.store, q.obj⟩).2.store, c.res, c.orphan⟩ i q
        ⟨false, q.entry.timer || requeue (rec (fetchOf get) upd env ⟨c.store, q.obj⟩).1⟩
        (rec (fetchOf get) upd env ⟨c.store, q.obj⟩).2.obj := by
  simp [Cluster.step, hq, hp]

/-- A process step changes neither the service nor a resource unless the resource is there with a queued request,
and then it is `step_process`. -/
theorem step_process_cases (c : Cluster σ α) (i : Nat) (get : Option String) (env : Env) (upd : Option String) :
    (∃ o, Cluster.step rec c (.process i get env upd) = ⟨c.store, c.res, o⟩) ∧
        (∀ q, c.res i = some q → q.entry.queued = false) ∨
      ∃ q, c.res i = some q ∧ q.entry.queued = true ∧
        Cluster.step rec c (.process i get env upd) =
          Cluster.write ⟨(rec (fetchOf get) upd env ⟨c.store, q.obj⟩).2.store, c.res, c.orphan⟩ i q
            ⟨false, q.entry.timer || requeue (rec (fetchOf get) upd env ⟨c.store, q.obj⟩).1⟩
            (rec (fetchOf get) upd env ⟨c.store, q.obj⟩).2.obj := by
  cases hq : c.res i with
  | none =>
    refine .inl ⟨?_, fun _ h => nomatch h⟩
    simp only [Cluster.step, hq]
    split_ifs
    · exact ⟨_, rfl⟩
    · exact ⟨c.orphan, rfl⟩
  | some q =>
    cases hp : q.entry.queued
    · exact .inl ⟨⟨c.orphan, by simp [Cluster.step, hq, hp]⟩, fun _ h => Option.some.inj h ▸ hp⟩
    · exact .inr ⟨q, rfl, hp, step_process hq hp get env upd⟩

/-- Apart from the worker, only another writer changes the service. -/
theorem step_store_of_ne (c : Cluster σ α) {ev : ClusterEvent σ α}
    (hp : ∀ i get env upd, ev ≠ .process i get env upd) (hx : ∀ s, ev ≠ .external s) :
    (Cluster.step rec c ev).store = c.store := by
  cases ev with
  | create i spec fins => simp only [Cluster.step]; split <;> rfl
  | edit i spec => exact Cluster.modify_store _ _ _
  | markDeleted i t => exact Cluster.modify_store _ _ _
  | resync i => exact Cluster.modify_store _ _ _
  | fire i => exact Cluster.fire_store _ _
  | process i get env upd => exact absurd rfl (hp i get env upd)
  | restart => rfl
  | external s => exact absurd rfl (hx s)

/-- **What an event leaves at a resource's index**: the resource as it was; a new resource of a creation, queued, with
the timer its key had; the resource with its request queued by a fired timer or a restart; an update of its object
that keeps its status and finalizers, keeps its spec unless it is the edit that writes it, and never unmarks it; or
the update after the resource's `Reconcile`. -/
theorem step_res_cases (c : Cluster σ α) (ev : ClusterEvent σ α) {i : Nat} {q' : Queued α}
    (h : (Cluster.step rec c ev).res i = some q') :
    c.res i = some q' ∨
      (∃ spec fins, ev = .create i spec fins ∧
        q' = ⟨{ Object.created spec with finalizers := fins }, ⟨true, (c.orphan i).timer⟩⟩) ∨
      (∃ q, c.res i = some q ∧ q' = { q with entry := ⟨true, false⟩ }) ∨
      (∃ q o', c.res i = some q ∧ (o'.spec = q.obj.spec ∨ ev = .edit i o'.spec) ∧ o'.status = q.obj.status ∧
        o'.finalizers = q.obj.finalizers ∧ (q.obj.deletionTimestamp.isSome → o'.deletionTimestamp.isSome) ∧
        ((∀ t, ev ≠ .markDeleted i t) → o'.deletionTimestamp = q.obj.deletionTimestamp) ∧
        q.update q.entry o' = some q') ∨
      (∃ q get env upd, ev = .process i get env upd ∧ c.res i = some q ∧ q.entry.queued = true ∧
        q.update ⟨false, q.entry.timer || requeue (rec (fetchOf get) upd env ⟨c.store, q.obj⟩).1⟩
          (rec (fetchOf get) upd env ⟨c.store, q.obj⟩).2.obj = some q') := by
  by_cases hr : ev = .restart
  · subst hr
    obtain ⟨q, hq, rfl⟩ := Option.map_eq_some'.1 h
    exact .inr (.inr (.inl ⟨q, hq, rfl⟩))
  by_cases hi : ev.index = some i
  swap; · exact .inl ((step_res_of_ne c hi hr).symm.trans h)
  cases ev with
  | create j spec fins =>
    obtain rfl := Option.some.inj hi
    simp only [Cluster.step] at h
    split at h
    · simp only [Function.update_same, Option.some.injEq] at h
      exact .inr (.inl ⟨spec, fins, rfl, h.symm⟩)
    · exact .inl h
  | edit j spec =>
    obtain rfl := Option.some.inj hi
    obtain ⟨q, hq, hu⟩ := modify_eq_some h
    exact .inr (.inr (.inr (.inl ⟨q, { q.obj with spec := spec }, hq, .inr rfl, rfl, rfl, id, fun _ => rfl, hu⟩)))
  | markDeleted j t =>
    obtain rfl := Option.some.inj hi
    obtain ⟨q, hq, hu⟩ := modify_eq_some h
    exact .inr (.inr (.inr (.inl ⟨q, { q.obj with deletionTimestamp := some (q.obj.deletionTimestamp.getD t) }, hq,
      .inl rfl, rfl, rfl, fun _ => rfl, fun h => absurd rfl (h t), hu⟩)))
  | resync j =>
    obtain rfl := Option.some.inj hi
    obtain ⟨q, hq, hu⟩ := modify_eq_some h
    exact .inr (.inr (.inr (.inl ⟨q, q.obj, hq, .inl rfl, rfl, rfl, id, fun _ => rfl, hu⟩)))
  | fire j =>
    obtain rfl := Option.some.inj hi
    rw [Cluster.step, Cluster.fire_res, if_pos rfl, Option.map_eq_some'] at h
    obtain ⟨q, hq, hfire⟩ := h
    split_ifs at hfire
    · exact .inr (.inr (.inl ⟨q, hq, hfire.symm⟩))
    · exact .inl (hfire ▸ hq)
  | process j get env upd =>
    obtain rfl := Option.some.inj hi
    rcases step_process_cases c j get env upd with ⟨⟨o, hs⟩, -⟩ | ⟨q, hq, hp, hs⟩ <;> rw [hs] at h
    · exact .inl h
    simp only [Cluster.write_res, Function.update_same] at h
    exact .inr (.inr (.inr (.inr ⟨q, get, env, upd, rfl, hq, hp, h⟩)))
  | restart => exact absurd rfl hr
  | external s => cases hi

/-! ## The loop over a lawful strategy -/

section Loop

variable {β : Type} {k : Strategy σ α} {view : σ → String → String → Option β} {expected : α → β}
  {Good : σ → Prop} {timeout : Int → Nat} {successAfter : Nat} {getError statusError : String → String}
  (realmOf keyOf : Nat → String)

/-- An event that leaves resource `i` alone: it neither edits nor marks it, and does not restart the manager. An edit
that keeps the spec is excluded too, since `reflect.DeepEqual` may see a change where the model's spec has none. -/
def Quiet (i : Nat) : ClusterEvent σ α → Prop
  | .edit j _ => j ≠ i
  | .markDeleted j _ => j ≠ i
  | .restart => False
  | _ => True

variable (k) in
/-- An event of a run in which resource `i` lives in realm `realmOf i` under key `keyOf i` and nobody else writes the
service: created and edited specs carry the index's key, and every realm an attempt resolves is the index's. -/
def Respects : ClusterEvent σ α → Prop
  | .create i spec _ => k.key spec = keyOf i
  | .edit i spec => k.key spec = keyOf i
  | .process i _ env _ => ∀ r, env.realm = .ok r → r = realmOf i
  | .external _ => False
  | _ => True

variable (k) in
/-- Every resource carries the key of its index. -/
def KeysFixed (c : Cluster σ α) : Prop := ∀ i q, c.res i = some q → k.key q.obj.spec = keyOf i

variable (view expected) in
/-- Every resource that is neither pending nor terminating has its value in the service under its realm and key. -/
def Converged (c : Cluster σ α) : Prop :=
  ∀ i q, c.res i = some q → q.pending = false → q.obj.deletionTimestamp = none →
    view c.store (realmOf i) (keyOf i) = some (expected q.obj.spec)

variable (k view expected Good) in
/-- The invariant of the loop. -/
structure LoopInv (c : Cluster σ α) : Prop where
  good : Good c.store
  keys : KeysFixed k keyOf c
  converged : Converged view expected realmOf keyOf c

omit [DecidableEq α] in
/-- The empty cluster over a good service. -/
theorem loopInv_empty {s : σ} (h : Good s) : LoopInv k view expected Good realmOf keyOf (.empty s) :=
  ⟨h, fun _ _ h => (nomatch h), fun _ _ h => (nomatch h)⟩

variable {realmOf keyOf}

/-- Another resource's attempt leaves the service under this one's realm and key, and so does a process step that
does not reach an attempt. -/
theorem step_process_view (hk : k.Lawful view expected Good) {c : Cluster σ α} (hgood : Good c.store) {i : Nat}
    {q : Queued α} (hq : c.res i = some q) {get upd : Option String} {env : Env} {r n : String}
    (hne : ¬(env.realm = .ok r ∧ n = k.key q.obj.spec)) :
    view (Cluster.step (reconcileWith k timeout successAfter getError statusError) c (.process i get env upd)).store
      r n = view c.store r n := by
  rcases step_process_cases c i get env upd with ⟨⟨o, h⟩, -⟩ | ⟨q', hq', -, h⟩ <;> rw [h]
  cases hq.symm.trans hq'
  simp only [Cluster.write_store]
  rcases reconcileWith_fetchOf get upd env ⟨c.store, q.obj⟩ with h | ⟨-, st, h⟩ <;> rw [h]
  exact hk.attempt_frame hgood hne

omit [DecidableEq α] in
/-- Under `Respects`, an attempt of resource `i` resolves no other resource's realm and key. -/
theorem respects_ne (hinj : ∀ i j, i ≠ j → realmOf i = realmOf j → keyOf i ≠ keyOf j) {c : Cluster σ α}
    (hkeys : KeysFixed k keyOf c) {i j : Nat} {q : Queued α} (hq : c.res i = some q) {get upd : Option String}
    {env : Env} (hev : Respects k realmOf keyOf (.process i get env upd)) (hji : j ≠ i) :
    ¬(env.realm = .ok (realmOf j) ∧ keyOf j = k.key q.obj.spec) := fun ⟨hr, hkey⟩ =>
  hinj j i hji (hev _ hr) (hkey.trans (hkeys i q hq))

/-- Another resource's `Reconcile` leaves the service under this one's realm and key. -/
theorem view_process_ne (hk : k.Lawful view expected Good)
    (hinj : ∀ i j, i ≠ j → realmOf i = realmOf j → keyOf i ≠ keyOf j) {c : Cluster σ α} (hgood : Good c.store)
    (hkeys : KeysFixed k keyOf c) {i j : Nat} (hij : i ≠ j) {get upd : Option String} {env : Env}
    (hev : Respects k realmOf keyOf (.process j get env upd)) :
    view (Cluster.step (reconcileWith k timeout successAfter getError statusError) c (.process j get env upd)).store
      (realmOf i) (keyOf i) = view c.store (realmOf i) (keyOf i) := by
  rcases step_process_cases c j get env upd with ⟨⟨o, hs⟩, -⟩ | ⟨q, hq, -, -⟩
  · rw [hs]
  · exact step_process_view hk hgood hq (respects_ne hinj hkeys hq hev hij)

/-- Every event keeps the service good, another writer's when it leaves a good service. -/
theorem good_step (hk : k.Lawful view expected Good) {c : Cluster σ α} (h : Good c.store) {ev : ClusterEvent σ α}
    (hx : ∀ s, ev = .external s → Good s) :
    Good (Cluster.step (reconcileWith k timeout successAfter getError statusError) c ev).store := by
  by_cases hp : ∃ i get env upd, ev = .process i get env upd
  · obtain ⟨i, get, env, upd, rfl⟩ := hp
    rcases step_process_cases c i get env upd with ⟨⟨o, hs⟩, -⟩ | ⟨q, -, -, hs⟩ <;> rw [hs]
    · exact h
    simp only [Cluster.write_store]
    rcases reconcileWith_fetchOf get upd env ⟨c.store, q.obj⟩ with hw | ⟨-, st, hw⟩ <;> rw [hw]
    · exact h
    · exact hk.attempt_good env h
  · by_cases he : ∃ s, ev = .external s
    · obtain ⟨s, rfl⟩ := he; exact hx s rfl
    · push_neg at hp he
      rwa [step_store_of_ne c hp he]

/-- Every run in which other writers leave good services keeps the service good. -/
theorem good_run (hk : k.Lawful view expected Good) {c : Cluster σ α} (h : Good c.store) (evs : List (ClusterEvent σ α))
    (hevs : ∀ ev ∈ evs, ∀ s, ev = .external s → Good s) :
    Good (Cluster.run (reconcileWith k timeout successAfter getError statusError) c evs).store :=
  Cluster.run_invariant (fun c => Good c.store) (fun ev => ∀ s, ev = .external s → Good s)
    (fun _ _ hev h => good_step hk h hev) evs hevs h

/-- Every event that keeps created and edited specs under their index's key keeps every key. -/
theorem keys_step {c : Cluster σ α} (h : KeysFixed k keyOf c) {ev : ClusterEvent σ α}
    (hev : Respects k realmOf keyOf ev) :
    KeysFixed k keyOf (Cluster.step (reconcileWith k timeout successAfter getError statusError) c ev) := by
  intro i q' hq'
  rcases step_res_cases c ev hq' with hq | ⟨spec, fins, rfl, rfl⟩ | ⟨q, hq, rfl⟩ |
    ⟨q, o', hq, hspec | rfl, -, -, -, -, hu⟩ | ⟨q, get, env, upd, -, hq, -, hu⟩
  · exact h i q' hq
  · exact hev
  · exact h i q hq
  · rw [Queued.update_eq_some hu]; exact hspec ▸ h i q hq
  · rw [Queued.update_eq_some hu]; exact hev
  · rw [Queued.update_eq_some hu]
    exact (congrArg k.key (reconcileWith_obj timeout successAfter getError statusError get upd env _).1).trans (h i q hq)

/-- An event other than the worker's and another writer's keeps `Converged`: it leaves the service, and it leaves a
resource neither pending nor terminating only when it was so, with the same spec. -/
theorem converged_step_of_ne {c : Cluster σ α} (h : Converged view expected realmOf keyOf c) {ev : ClusterEvent σ α}
    (hp : ∀ i get env upd, ev ≠ .process i get env upd) (hx : ∀ s, ev ≠ .external s) :
    Converged view expected realmOf keyOf (Cluster.step rec c ev) := by
  intro i q' hq' hpq hactive
  rw [step_store_of_ne c hp hx]
  rcases step_res_cases c ev hq' with hq | ⟨_, _, _, rfl⟩ | ⟨q, hq, rfl⟩ | ⟨q, o', hq, -, -, -, hdel, -, hu⟩ |
    ⟨_, get, env, upd, he, -⟩
  · exact h i q' hq hpq hactive
  · simp at hpq
  · simp [Queued.pending] at hpq
  · obtain ⟨rfl, hpe, hs, hdt⟩ := Queued.update_quiet hu hpq
    rw [← hs]
    exact h i q hq hpe (by simpa using mt hdel (by simpa using hactive))
  · exact absurd he (hp i get env upd)

variable (timeout successAfter getError statusError) in
/-- **A successful `Reconcile`**, whatever other writers did before, leaves under the realm it resolved and the
resource's key the resource's value when it is active, and nothing when it is terminating. -/
theorem process_ok_view (hk : k.Lawful view expected Good) {c : Cluster σ α} (hgood : Good c.store) {i : Nat}
    {q : Queued α} (hq : c.res i = some q) (hp : q.entry.queued = true) {env : Env} (upd : Option String)
    (hok : (tryReconcileWith k env ⟨c.store, q.obj⟩).1 = none) :
    ∃ r, env.realm = .ok r ∧
      view (Cluster.step (reconcileWith k timeout successAfter getError statusError) c (.process i none env upd)).store
        r (k.key q.obj.spec) = if q.obj.deletionTimestamp.isSome then none else some (expected q.obj.spec) := by
  obtain ⟨st, hw⟩ := reconcileWith_found_world (k := k) timeout successAfter getError statusError upd env
    ⟨c.store, q.obj⟩
  obtain ⟨r, hr, hv⟩ := hk.attempt_ok hgood hok
  refine ⟨r, hr, ?_⟩
  rw [step_process hq hp]
  simp only [fetchOf, hw, Cluster.write_store]
  exact hv

/-- After a successful `Reconcile` of a queued resource in its index's realm, the resource left at its index, when
active, has its value under its realm and key. -/
theorem process_self_view (hk : k.Lawful view expected Good) {c : Cluster σ α}
    (h : LoopInv k view expected Good realmOf keyOf c) {i : Nat} {q : Queued α} (hq : c.res i = some q)
    (hp : q.entry.queued = true) {env : Env} {upd : Option String}
    (hev : Respects k realmOf keyOf (.process i none env upd)) (hok : (tryReconcileWith k env ⟨c.store, q.obj⟩).1 = none)
    {q' : Queued α}
    (hq' : (Cluster.step (reconcileWith k timeout successAfter getError statusError) c (.process i none env upd)).res i =
      some q')
    (hactive : q'.obj.deletionTimestamp = none) :
    view (Cluster.step (reconcileWith k timeout successAfter getError statusError) c (.process i none env upd)).store
      (realmOf i) (keyOf i) = some (expected q'.obj.spec) := by
  obtain ⟨r, hr, hv⟩ := process_ok_view timeout successAfter getError statusError hk h.good hq hp upd hok
  obtain rfl := hev r hr
  rw [step_process hq hp] at hq'
  simp only [Cluster.write_res, Function.update_same] at hq'
  obtain rfl := Queued.update_eq_some hq'
  have hobj := reconcileWith_obj (k := k) timeout successAfter getError statusError none upd env ⟨c.store, q.obj⟩
  simp only [fetchOf] at hobj hactive ⊢
  rw [hobj.1, ← h.keys i q hq, hv, if_neg (by simp [← hobj.2, hactive])]

/-- **Processing a resource keeps `Converged`.** A resource left neither pending nor terminating had no timer and a
successful attempt, which wrote its value; another resource's attempt does not touch its realm and key. -/
theorem converged_process (hk : k.Lawful view expected Good) (htimeout : ∀ n, 0 < timeout n)
    (hinj : ∀ i j, i ≠ j → realmOf i = realmOf j → keyOf i ≠ keyOf j) {c : Cluster σ α}
    (h : LoopInv k view expected Good realmOf keyOf c) {i : Nat} {get upd : Option String} {env : Env}
    (hev : Respects k realmOf keyOf (.process i get env upd)) :
    Converged view expected realmOf keyOf
      (Cluster.step (reconcileWith k timeout successAfter getError statusError) c (.process i get env upd)) := by
  rcases step_process_cases c i get env upd with ⟨⟨o, hs⟩, -⟩ | ⟨q, hq, hp, hs⟩
  · rw [hs]; exact h.converged
  intro j qj hj hpj hactive
  by_cases hji : j = i
  · subst hji
    have hj' := hj
    rw [hs] at hj'
    simp only [Cluster.write_res, Function.update_same] at hj'
    obtain ⟨-, hre, -⟩ := Queued.update_quiet hj' hpj
    simp only [Entry.pending_mk, Bool.false_or, Bool.or_eq_false_iff] at hre
    obtain ⟨rfl, rfl, hok⟩ := requeue_eq_false htimeout hre.2
    exact process_self_view hk h hq hp hev hok hj hactive
  · rw [hs] at hj
    simp only [Cluster.write_res, Function.update_noteq hji] at hj
    rw [← h.converged j qj hj hpj hactive]
    exact view_process_ne hk hinj h.good h.keys hji hev

/-- **Every event of a respecting run keeps the invariant.** -/
theorem loopInv_step (hk : k.Lawful view expected Good) (htimeout : ∀ n, 0 < timeout n)
    (hinj : ∀ i j, i ≠ j → realmOf i = realmOf j → keyOf i ≠ keyOf j) {c : Cluster σ α}
    (h : LoopInv k view expected Good realmOf keyOf c) {ev : ClusterEvent σ α} (hev : Respects k realmOf keyOf ev) :
    LoopInv k view expected Good realmOf keyOf
      (Cluster.step (reconcileWith k timeout successAfter getError statusError) c ev) := by
  refine ⟨good_step hk h.good fun s h => by subst h; exact hev.elim, keys_step h.keys hev, ?_⟩
  by_cases hp : ∃ i get env upd, ev = .process i get env upd
  · obtain ⟨i, get, env, upd, rfl⟩ := hp
    exact converged_process hk htimeout hinj h hev
  · push_neg at hp
    exact converged_step_of_ne h.converged hp fun s e => by subst e; exact hev

/-- **Convergence of the loop.** When each resource keeps its realm and key, no two resources of a realm share a key,
the failure delay is positive and no one else writes the service, every run keeps the invariant: every resource that
is neither pending nor terminating has its value in the service under its realm and key. -/
theorem loopInv_run (hk : k.Lawful view expected Good) (htimeout : ∀ n, 0 < timeout n)
    (hinj : ∀ i j, i ≠ j → realmOf i = realmOf j → keyOf i ≠ keyOf j) {c : Cluster σ α}
    (h : LoopInv k view expected Good realmOf keyOf c) (evs : List (ClusterEvent σ α))
    (hevs : ∀ ev ∈ evs, Respects k realmOf keyOf ev) :
    LoopInv k view expected Good realmOf keyOf
      (Cluster.run (reconcileWith k timeout successAfter getError statusError) c evs) :=
  Cluster.run_invariant (LoopInv k view expected Good realmOf keyOf) (Respects k realmOf keyOf)
    (fun _ _ hev h => loopInv_step hk htimeout hinj h hev) evs hevs h

/-! ## A resource left alone -/

/-- A resource that is neither pending nor terminating stays as it is through an event that leaves it alone. -/
theorem step_quiet {rec : Fetch → Option String → Env → World σ α → (Nat × Option String) × World σ α}
    {c : Cluster σ α} {i : Nat} {q : Queued α} (hq : c.res i = some q) (hp : q.pending = false)
    (hactive : q.obj.deletionTimestamp = none) {ev : ClusterEvent σ α} (hev : Quiet i ev) :
    (Cluster.step rec c ev).res i = some q := by
  obtain ⟨hqueued, htimer⟩ := Bool.or_eq_false_iff.1 hp
  by_cases hr : ev = .restart
  · subst hr; exact hev.elim
  by_cases hi : ev.index = some i
  swap; · exact (step_res_of_ne c hi hr).trans hq
  cases ev with
  | create j spec fins => obtain rfl := Option.some.inj hi; simp [Cluster.step, hq]
  | edit j spec => exact absurd (Option.some.inj hi) hev
  | markDeleted j t => exact absurd (Option.some.inj hi) hev
  | resync j =>
    obtain rfl := Option.some.inj hi
    rw [Cluster.step, Cluster.modify_res, if_pos rfl, hq, Option.some_bind, Queued.update, id,
      isSpecUpdated_eq_false rfl rfl, Bool.or_false]
    simp [hactive]
  | fire j => obtain rfl := Option.some.inj hi; simp [Cluster.step, Cluster.fire_res, hq, htimer]
  | process j get env upd => obtain rfl := Option.some.inj hi; simp [Cluster.step, hq, hqueued]
  | restart => exact absurd rfl hr
  | external s => cases hi

/-- **The loop never comes back to a quiet resource by itself.** A resource that is neither pending nor terminating
stays as it is through every run that does not edit it, mark it or restart the manager. -/
theorem run_quiet_res {rec : Fetch → Option String → Env → World σ α → (Nat × Option String) × World σ α}
    {c : Cluster σ α} {i : Nat} {q : Queued α} (hq : c.res i = some q) (hp : q.pending = false)
    (hactive : q.obj.deletionTimestamp = none) (evs : List (ClusterEvent σ α)) (hevs : ∀ ev ∈ evs, Quiet i ev) :
    (Cluster.run rec c evs).res i = some q :=
  Cluster.run_invariant (fun c => c.res i = some q) (Quiet i) (fun _ _ hev h => step_quiet h hp hactive hev) evs hevs hq

/-- A respecting step changes the service under a realm and key only by processing a queued resource of that realm
and key. -/
theorem view_step (hk : k.Lawful view expected Good) {c : Cluster σ α} (hgood : Good c.store)
    (hkeys : KeysFixed k keyOf c) {ev : ClusterEvent σ α} (hev : Respects k realmOf keyOf ev) {r n : String}
    (hidle : ∀ j get env upd q, ev = .process j get env upd → c.res j = some q → q.entry.queued = true →
      ¬(realmOf j = r ∧ keyOf j = n)) :
    view (Cluster.step (reconcileWith k timeout successAfter getError statusError) c ev).store r n =
      view c.store r n := by
  by_cases hpr : ∃ j get env upd, ev = .process j get env upd
  · obtain ⟨j, get, env, upd, rfl⟩ := hpr
    rcases step_process_cases c j get env upd with ⟨⟨o, hs⟩, -⟩ | ⟨q, hq, hp, -⟩
    · rw [hs]
    refine step_process_view hk hgood hq fun ⟨hr, hn⟩ => hidle j get env upd q rfl hq hp ⟨?_, ?_⟩
    · exact (hev r hr).symm
    · exact (hkeys j q hq).symm.trans hn.symm
  · push_neg at hpr
    rw [step_store_of_ne c hpr fun s h => by subst h; exact hev]

/-- **What no resource declares is never touched.** Through every respecting run, the service under a realm and key
that no index is bound to stays as it is: the loop neither overwrites nor deletes it, and never collects it either. -/
theorem run_undeclared (hk : k.Lawful view expected Good) {c : Cluster σ α} (hgood : Good c.store)
    (hkeys : KeysFixed k keyOf c) {r n : String} (hfree : ∀ j, ¬(realmOf j = r ∧ keyOf j = n))
    (evs : List (ClusterEvent σ α)) (hevs : ∀ ev ∈ evs, Respects k realmOf keyOf ev) :
    view (Cluster.run (reconcileWith k timeout successAfter getError statusError) c evs).store r n =
      view c.store r n :=
  (@Cluster.run_invariant _ _ _ (reconcileWith k timeout successAfter getError statusError)
    (fun c' => Good c'.store ∧ KeysFixed k keyOf c' ∧ view c'.store r n = view c.store r n)
    (Respects k realmOf keyOf)
    (fun c' ev hev ⟨hg, hks, hv⟩ => ⟨good_step hk hg fun s h => by subst h; exact hev.elim, keys_step hks hev,
      (view_step hk hg hks hev fun j _ _ _ _ _ _ _ => hfree j).trans hv⟩)
    _ evs hevs ⟨hgood, hkeys, rfl⟩).2.2

/-- **Under a quiet resource, the service changes only by other writers.** Through every respecting run that does
not edit or mark a resource that is neither pending nor terminating and does not restart the manager, the resource
stays as it is and so does the service under its realm and key. -/
theorem run_quiet (hk : k.Lawful view expected Good) (hinj : ∀ i j, i ≠ j → realmOf i = realmOf j → keyOf i ≠ keyOf j)
    {c : Cluster σ α} (hgood : Good c.store) (hkeys : KeysFixed k keyOf c) {i : Nat} {q : Queued α}
    (hq : c.res i = some q) (hp : q.pending = false) (hactive : q.obj.deletionTimestamp = none)
    (evs : List (ClusterEvent σ α)) (hevs : ∀ ev ∈ evs, Respects k realmOf keyOf ev ∧ Quiet i ev) :
    (Cluster.run (reconcileWith k timeout successAfter getError statusError) c evs).res i = some q ∧
      view (Cluster.run (reconcileWith k timeout successAfter getError statusError) c evs).store (realmOf i) (keyOf i) =
        view c.store (realmOf i) (keyOf i) := by
  have hqueued : q.entry.queued = false := (Bool.or_eq_false_iff.1 hp).1
  have hrun := @Cluster.run_invariant _ _ _ (reconcileWith k timeout successAfter getError statusError)
    (fun c' => Good c'.store ∧ KeysFixed k keyOf c' ∧ c'.res i = some q ∧
      view c'.store (realmOf i) (keyOf i) = view c.store (realmOf i) (keyOf i))
    (fun ev => Respects k realmOf keyOf ev ∧ Quiet i ev)
    (fun c' ev hev ⟨hg, hks, hres, hv⟩ => by
      refine ⟨good_step hk hg fun s h => by subst h; exact hev.1.elim, keys_step hks hev.1,
        step_quiet hres hp hactive hev.2, (view_step hk hg hks hev.1 fun j _ _ _ qj _ hqj hpj => ?_).trans hv⟩
      rintro ⟨hr, hn⟩
      by_cases hji : j = i
      · subst hji; rw [hres] at hqj; cases hqj; rw [hqueued] at hpj; cases hpj
      · exact hinj j i hji hr hn)
    _ evs hevs ⟨hgood, hkeys, hq, rfl⟩
  exact ⟨hrun.2.2.1, hrun.2.2.2⟩

/-- A respecting event that does not mark resource `i` keeps it unmarked, and keeps a value under its realm and key. -/
theorem live_step (hk : k.Lawful view expected Good) (hinj : ∀ i j, i ≠ j → realmOf i = realmOf j → keyOf i ≠ keyOf j)
    {c : Cluster σ α} (hgood : Good c.store) (hkeys : KeysFixed k keyOf c) {i : Nat}
    (hlive : ∀ q, c.res i = some q → q.obj.deletionTimestamp = none)
    (hval : (view c.store (realmOf i) (keyOf i)).isSome) {ev : ClusterEvent σ α} (hev : Respects k realmOf keyOf ev)
    (hmark : ∀ t, ev ≠ .markDeleted i t) :
    (∀ q, (Cluster.step (reconcileWith k timeout successAfter getError statusError) c ev).res i = some q →
      q.obj.deletionTimestamp = none) ∧
    (view (Cluster.step (reconcileWith k timeout successAfter getError statusError) c ev).store
      (realmOf i) (keyOf i)).isSome := by
  constructor
  · intro q' hq'
    rcases step_res_cases c ev hq' with hq | ⟨_, _, _, rfl⟩ | ⟨q, hq, rfl⟩ | ⟨q, _, hq, -, -, -, -, hdt, hu⟩ |
      ⟨q, get, env, upd, -, hq, -, hu⟩
    · exact hlive q' hq
    · rfl
    · exact hlive q hq
    · rw [Queued.update_eq_some hu]
      exact (hdt hmark).trans (hlive q hq)
    · rw [Queued.update_eq_some hu]
      exact (reconcileWith_obj timeout successAfter getError statusError get upd env _).2.trans (hlive q hq)
  · by_cases hpr : ∃ j get env upd, ev = .process j get env upd
    · obtain ⟨j, get, env, upd, rfl⟩ := hpr
      by_cases hji : j = i
      · subst hji
        rcases step_process_cases c j get env upd with ⟨⟨o, hs⟩, -⟩ | ⟨q, hq, -, hs⟩ <;> rw [hs]
        · exact hval
        simp only [Cluster.write_store]
        rcases reconcileWith_fetchOf get upd env ⟨c.store, q.obj⟩ with hw | ⟨-, st, hw⟩ <;> rw [hw]
        · exact hval
        · exact hk.attempt_active_isSome hgood (hlive q hq) hval
      · rw [view_process_ne hk hinj hgood hkeys (Ne.symm hji) hev]
        exact hval
    · push_neg at hpr
      rwa [step_store_of_ne c hpr fun s e => by subst e; exact hev]

/-- **The loop never removes the value of a resource that is not being deleted.** Through every respecting run that
does not mark resource `i`, when its resource, if any, is not marked, a value in the service under its realm and key
stays there: it may be rewritten, never removed. -/
theorem run_keeps_live (hk : k.Lawful view expected Good)
    (hinj : ∀ i j, i ≠ j → realmOf i = realmOf j → keyOf i ≠ keyOf j) {c : Cluster σ α} (hgood : Good c.store)
    (hkeys : KeysFixed k keyOf c) {i : Nat} (hlive : ∀ q, c.res i = some q → q.obj.deletionTimestamp = none)
    (hval : (view c.store (realmOf i) (keyOf i)).isSome) (evs : List (ClusterEvent σ α))
    (hevs : ∀ ev ∈ evs, Respects k realmOf keyOf ev ∧ ∀ t, ev ≠ .markDeleted i t) :
    (view (Cluster.run (reconcileWith k timeout successAfter getError statusError) c evs).store
      (realmOf i) (keyOf i)).isSome :=
  (@Cluster.run_invariant _ _ _ (reconcileWith k timeout successAfter getError statusError)
    (fun c' => Good c'.store ∧ KeysFixed k keyOf c' ∧ (∀ q, c'.res i = some q → q.obj.deletionTimestamp = none) ∧
      (view c'.store (realmOf i) (keyOf i)).isSome)
    (fun ev => Respects k realmOf keyOf ev ∧ ∀ t, ev ≠ .markDeleted i t)
    (fun _ _ hev ⟨hg, hks, hl, hv⟩ => ⟨good_step hk hg fun s h => by subst h; exact hev.1.elim, keys_step hks hev.1,
      live_step hk hinj hg hks hl hv hev.1 hev.2⟩)
    _ evs hevs ⟨hgood, hkeys, hlive, hval⟩).2.2.2

/-! ## A resource that lost the finalizer -/

/-- With positive delays, a pending resource stays pending: every event keeps its request or timer or adds one, and
when the worker takes its request, `Reconcile` arms a timer. -/
theorem queued_step (htimeout : ∀ n, 0 < timeout n) (hs : 0 < successAfter) {c : Cluster σ α} {i : Nat}
    (h : ∀ q, c.res i = some q → q.pending = true) (ev : ClusterEvent σ α) (q' : Queued α)
    (hq' : (Cluster.step (reconcileWith k timeout successAfter getError statusError) c ev).res i = some q') :
    q'.pending = true := by
  rcases step_res_cases c ev hq' with hq | ⟨_, _, _, rfl⟩ | ⟨q, _, rfl⟩ | ⟨q, _, hq, -, -, -, -, -, hu⟩ |
    ⟨q, _, _, _, -, -, -, hu⟩
  · exact h q' hq
  · simp
  · simp [Queued.pending]
  · rw [Queued.update_pending hu, show q.entry.pending = true from h q hq, Bool.true_or]
  · rw [Queued.update_pending hu, requeue_reconcileWith htimeout]
    simp [hs]

/-- **With positive delays the loop never lets a resource go.** From a cluster whose resources are all pending, every
run keeps them all pending. -/
theorem run_queued (htimeout : ∀ n, 0 < timeout n) (hs : 0 < successAfter) {c : Cluster σ α}
    (h : ∀ i q, c.res i = some q → q.pending = true) (evs : List (ClusterEvent σ α)) :
    ∀ i q, (Cluster.run (reconcileWith k timeout successAfter getError statusError) c evs).res i = some q →
      q.pending = true :=
  Cluster.run_invariant (fun c => ∀ i q, c.res i = some q → q.pending = true) (fun _ => True)
    (fun _ ev _ h i => queued_step htimeout hs (h i) ev) evs (fun _ _ => trivial) h

/-- **A resource that holds the finalizer leaves the cluster only after its cleanup.** When an event removes a
resource that held the finalizer, the event was a `Reconcile` of it whose attempt resolved a realm, and the service
then holds nothing under that realm and the resource's key. -/
theorem step_gone_cleaned (hk : k.Lawful view expected Good) {c : Cluster σ α} (hgood : Good c.store) {i : Nat}
    {q : Queued α} (hq : c.res i = some q) (hfin : k.finalizerName ∈ q.obj.finalizers) {ev : ClusterEvent σ α}
    (hgone : (Cluster.step (reconcileWith k timeout successAfter getError statusError) c ev).res i = none) :
    ∃ get env upd r, ev = .process i get env upd ∧ env.realm = .ok r ∧
      view (Cluster.step (reconcileWith k timeout successAfter getError statusError) c ev).store r
        (k.key q.obj.spec) = none := by
  have hkeep : ∀ f : Object α → Object α, (∀ o, (f o).finalizers = o.finalizers) → (c.modify i f).res i ≠ none :=
    fun f hf h => by
      rw [Cluster.modify_res, if_pos rfl, hq, Option.some_bind, Queued.update_eq_none, hf] at h
      exact List.ne_nil_of_mem hfin h.2
  by_cases hr : ev = .restart
  · subst hr; simp [Cluster.step, hq] at hgone
  by_cases hi : ev.index = some i
  swap; · rw [step_res_of_ne c hi hr, hq] at hgone; cases hgone
  cases ev with
  | create j spec fins => obtain rfl := Option.some.inj hi; simp [Cluster.step, hq] at hgone
  | edit j spec =>
    obtain rfl := Option.some.inj hi
    exact absurd hgone (hkeep (fun o => { o with spec := spec }) fun _ => rfl)
  | markDeleted j t =>
    obtain rfl := Option.some.inj hi
    exact absurd hgone (hkeep (fun o => { o with deletionTimestamp := some (o.deletionTimestamp.getD t) }) fun _ => rfl)
  | resync j => obtain rfl := Option.some.inj hi; exact absurd hgone (hkeep id fun _ => rfl)
  | fire j =>
    obtain rfl := Option.some.inj hi
    rw [Cluster.step, Cluster.fire_res, if_pos rfl, hq] at hgone
    simp at hgone
  | process j get env upd =>
    obtain rfl := Option.some.inj hi
    rcases step_process_cases c j get env upd with ⟨⟨o, hs⟩, -⟩ | ⟨q', hq', hp, hs⟩
    · rw [hs, hq] at hgone; cases hgone
    cases hq.symm.trans hq'
    rw [hs] at hgone ⊢
    simp only [Cluster.write_res, Function.update_same, Queued.update_eq_none, Cluster.write_store] at hgone ⊢
    rcases reconcileWith_fetchOf get upd env ⟨c.store, q.obj⟩ with hw | ⟨-, st, hw⟩ <;> rw [hw] at hgone ⊢
    · exact absurd hgone.2 (List.ne_nil_of_mem hfin)
    · have hgone' : k.finalizerName ∉ (tryReconcileWith k env ⟨c.store, q.obj⟩).2.obj.finalizers := fun h =>
        List.not_mem_nil _ (hgone.2 ▸ h)
      obtain ⟨-, r, s, hs', ht⟩ := tryReconcileWith_finalizer_removed hfin hgone'
      obtain ⟨hr, -, hsync⟩ := synced_eq_some hs'
      refine ⟨get, env, upd, r, rfl, hr, ?_⟩
      rw [hk.term_view (hk.sync_good hgood hsync) ht, if_pos ⟨rfl, rfl⟩]
  | restart => exact absurd rfl hr
  | external s => cases hi

/-! ## Idle resources show `OK` -/

/-- Every resource that is not pending shows `OK` and no failures. -/
def IdleOK (c : Cluster σ α) : Prop := ∀ i q, c.res i = some q → q.pending = false → q.obj.status = ⟨statusOK, 0⟩

omit [DecidableEq α] in
theorem idleOK_empty (s : σ) : IdleOK (Cluster.empty s : Cluster σ α) := fun _ _ h => nomatch h

/-- With a positive failure delay every event keeps `IdleOK`: an update leaves a resource not pending only when it
was and its status stays, and `Reconcile` lets a resource go only after a success whose `OK` it wrote. -/
theorem idleOK_step (htimeout : ∀ n, 0 < timeout n) {c : Cluster σ α} (h : IdleOK c) (ev : ClusterEvent σ α) :
    IdleOK (Cluster.step (reconcileWith k timeout successAfter getError statusError) c ev) := by
  intro i q' hq' hp
  rcases step_res_cases c ev hq' with hq | ⟨_, _, _, rfl⟩ | ⟨q, _, rfl⟩ | ⟨q, _, hq, -, hst, -, -, -, hu⟩ |
    ⟨q, _, _, _, -, -, -, hu⟩
  · exact h i q' hq hp
  · simp at hp
  · simp [Queued.pending] at hp
  · obtain ⟨rfl, hpe, -⟩ := Queued.update_quiet hu hp
    exact hst.trans (h i q hq hpe)
  · obtain ⟨rfl, hre, -⟩ := Queued.update_quiet hu hp
    simp only [Entry.pending_mk, Bool.false_or, Bool.or_eq_false_iff] at hre
    obtain ⟨rfl, rfl, hok⟩ := requeue_eq_false htimeout hre.2
    simp only [fetchOf, reconcileWith_found, hok, outcomeStatus]

/-- **Every failure is retried.** With a positive failure delay, every run keeps `IdleOK`: a resource whose status
shows an error, or a failure count, is pending. -/
theorem idleOK_run (htimeout : ∀ n, 0 < timeout n) {c : Cluster σ α} (h : IdleOK c) (evs : List (ClusterEvent σ α)) :
    IdleOK (Cluster.run (reconcileWith k timeout successAfter getError statusError) c evs) :=
  Cluster.run_invariant IdleOK (fun _ => True) (fun _ ev _ h => idleOK_step htimeout h ev) evs (fun _ _ => trivial) h

/-! ## Resources that share a realm and key -/

/-- **Resources that share a realm and key share one value.** When a terminating resource is processed successfully,
the service holds nothing under its realm and key, while another resource with the same key is left as it is. -/
theorem process_clears_shared (hk : k.Lawful view expected Good) {c : Cluster σ α} (hgood : Good c.store)
    {i j : Nat} (hji : j ≠ i) {qi qj : Queued α} (hqi : c.res i = some qi) (hpi : qi.entry.queued = true)
    (hdel : qi.obj.deletionTimestamp.isSome) (hqj : c.res j = some qj) (hkey : k.key qj.obj.spec = k.key qi.obj.spec)
    {env : Env} {upd : Option String} (hok : (tryReconcileWith k env ⟨c.store, qi.obj⟩).1 = none) :
    ∃ r, env.realm = .ok r ∧
      (Cluster.step (reconcileWith k timeout successAfter getError statusError) c (.process i none env upd)).res j =
        some qj ∧
      view (Cluster.step (reconcileWith k timeout successAfter getError statusError) c (.process i none env upd)).store
        r (k.key qj.obj.spec) = none := by
  obtain ⟨r, hr, hv⟩ := process_ok_view timeout successAfter getError statusError hk hgood hqi hpi upd hok
  have hj : (ClusterEvent.process i none env upd : ClusterEvent σ α).index ≠ some j := fun e =>
    hji (Option.some.inj e).symm
  refine ⟨r, hr, (step_res_of_ne c hj nofun).trans hqj, ?_⟩
  rw [hkey, hv, if_pos hdel]

end Loop

end KeycloakOperator
