import KeycloakOperator.Helper

/-!
# One reconcile attempt of a realm child, and runs of them

The realm component and the auth flow controllers reconcile in the same four steps: find the owning realm, build a
client for it, write the spec to the realm, and hand the resource to `TryToDelete` with a terminator keyed on one spec
field. `tryReconcileWith` is that shape over a `Strategy` (the write, the terminator, the key, the finalizer, and the
word in the last error); each controller's `tryReconcile` is it applied to its own strategy.

- an attempt either stops before the write, changing nothing and failing (`tryReconcileWith_of_synced_none`), or
  writes and then runs `TryToDelete` on the written state, and succeeds iff that does (`tryReconcileWith_of_synced`);
- a success on an active resource leaves the written state (`tryReconcileWith_active`), one on a terminating resource
  what the terminator left of it (`tryReconcileWith_terminating`); the finalizer goes only after the terminator
  succeeded (`tryReconcileWith_finalizer_removed`);
- `Reconcile` records the attempt's outcome in the status (`reconcileWith_found`), and its own write never passes the
  update predicate `isSpecUpdated` (`isSpecUpdated_tryReconcileWith`);
- runs (`World.run`) of spec edits, the deletion marker and reconcile attempts keep every property that each event
  keeps (`World.run_invariant`).
-/

namespace KeycloakOperator

/-- The calls of a reconcile attempt that can fail. -/
inductive Call
  | createKeycloakClientForRealm
  | getComponent
  | updateComponent
  | createComponent
  | deleteComponent
  | syncAuthFlow
  | deleteAuthFlow
  /-- `client.Update` of the resource, in `TryToDelete`. -/
  | update
deriving DecidableEq, Repr

/-- What one reconcile attempt meets: the `Spec.RealmName` of the realm `GetOrCreateRealmOwnerRef` returns (or the
error it fails with), and the error, if any, of each call. -/
structure Env where
  realm : Except String String
  fault : Call → Option String

/-- The environment in which every call succeeds against `realmName`. -/
def Env.ok (realmName : String) : Env := ⟨.ok realmName, fun _ => none⟩

/-- The remote state and the resource. -/
structure World (σ α : Type) where
  store : σ
  obj : Object α

/-- What a realm-child controller supplies to the common reconcile. -/
structure Strategy (σ α : Type) where
  /-- Write the spec to the realm. -/
  sync : (Call → Option String) → String → α → σ → Except String σ
  /-- `makeTerminator realmName key`: the terminator's `DeleteResource`. -/
  makeTerminator : (Call → Option String) → String → String → σ → Except String σ
  /-- The spec field the terminator is keyed on. -/
  key : α → String
  finalizerName : String
  /-- The resource's name in `unable to tryToDelete ...`. -/
  what : String

variable {σ α : Type} (k : Strategy σ α)

/-- `Reconcile.tryReconcile` of a realm child: the error it returns (`none` for `nil`) and the state after it. -/
def tryReconcileWith (env : Env) (w : World σ α) : Option String × World σ α :=
  match env.realm with
  | .error e => (some (wrap "unable to get realm owner ref" e), w)
  | .ok realmName =>
    match env.fault .createKeycloakClientForRealm with
    | some e => (some (wrap "unable to create keycloak client" e), w)
    | none =>
      match k.sync env.fault realmName w.obj.spec w.store with
      | .error e => (some e, w)
      | .ok s =>
        match tryToDelete (k.makeTerminator env.fault realmName (k.key w.obj.spec)) (env.fault .update)
            k.finalizerName w.obj s with
        | (.error e, obj, s') => (some (wrap ("unable to tryToDelete " ++ k.what) e), ⟨s', obj⟩)
        | (.ok _, obj, s') => (none, ⟨s', obj⟩)

/-- The realm and the written state, when an attempt gets as far as the write. -/
def synced (env : Env) (w : World σ α) : Option (String × σ) :=
  match env.realm with
  | .error _ => none
  | .ok realmName =>
    match env.fault .createKeycloakClientForRealm with
    | some _ => none
    | none =>
      match k.sync env.fault realmName w.obj.spec w.store with
      | .error _ => none
      | .ok s => some (realmName, s)

/-- The `TryToDelete` call of an attempt that wrote `s` to `realmName`. -/
def finish (env : Env) (w : World σ α) (realmName : String) (s : σ) : Except String Bool × Object α × σ :=
  tryToDelete (k.makeTerminator env.fault realmName (k.key w.obj.spec)) (env.fault .update) k.finalizerName w.obj s

variable {k} {env : Env} {w : World σ α}

/-- An attempt that stops before the write changes nothing and fails. -/
theorem tryReconcileWith_of_synced_none (h : synced k env w = none) :
    (tryReconcileWith k env w).2 = w ∧ (tryReconcileWith k env w).1 ≠ none := by
  unfold synced at h
  unfold tryReconcileWith
  cases hr : env.realm with
  | error e => simp
  | ok r =>
    cases hc : env.fault .createKeycloakClientForRealm with
    | some e => simp
    | none =>
      cases hs : k.sync env.fault r w.obj.spec w.store with
      | error e => simp [hs]
      | ok s₀ => simp [hr, hc, hs] at h

theorem synced_eq_some {realmName : String} {s : σ} (h : synced k env w = some (realmName, s)) :
    env.realm = .ok realmName ∧ env.fault .createKeycloakClientForRealm = none ∧
      k.sync env.fault realmName w.obj.spec w.store = .ok s := by
  unfold synced at h
  split at h
  · cases h
  · split at h
    · cases h
    · split at h
      · cases h
      · cases h; exact ⟨‹_›, ‹_›, ‹_›⟩

/-- An attempt that writes `s` to `realmName` is the `TryToDelete` call on `s`, its error wrapped. -/
theorem tryReconcileWith_eq_finish {realmName : String} {s : σ} (h : synced k env w = some (realmName, s)) :
    tryReconcileWith k env w = match finish k env w realmName s with
      | (.error e, obj, s') => (some (wrap ("unable to tryToDelete " ++ k.what) e), ⟨s', obj⟩)
      | (.ok _, obj, s') => (none, ⟨s', obj⟩) := by
  obtain ⟨hr, hc, hs⟩ := synced_eq_some h
  simp only [tryReconcileWith, hr, hc, hs]
  rfl

/-- **An attempt that writes `s` to `realmName` then runs `TryToDelete` on it**, and succeeds iff that does. -/
theorem tryReconcileWith_of_synced {realmName : String} {s : σ} (h : synced k env w = some (realmName, s)) :
    (tryReconcileWith k env w).2 = ⟨(finish k env w realmName s).2.2, (finish k env w realmName s).2.1⟩ ∧
      ((tryReconcileWith k env w).1 = none ↔ ∃ b, (finish k env w realmName s).1 = .ok b) := by
  rw [tryReconcileWith_eq_finish h]
  rcases finish k env w realmName s with ⟨_ | _, obj, s'⟩ <;> simp

/-- A successful attempt got past the write, and its `TryToDelete` call on the written state succeeded. -/
theorem tryReconcileWith_ok (hok : (tryReconcileWith k env w).1 = none) :
    ∃ realmName s b, synced k env w = some (realmName, s) ∧ (finish k env w realmName s).1 = .ok b ∧
      (tryReconcileWith k env w).2 = ⟨(finish k env w realmName s).2.2, (finish k env w realmName s).2.1⟩ := by
  cases hs : synced k env w with
  | none => exact absurd hok (tryReconcileWith_of_synced_none hs).2
  | some p =>
    obtain ⟨hw, hok'⟩ := tryReconcileWith_of_synced hs
    obtain ⟨b, hb⟩ := hok'.1 hok
    exact ⟨p.1, p.2, b, rfl, hb, hw⟩

/-- A successful attempt on an active resource leaves the written state. -/
theorem tryReconcileWith_active (h : w.obj.deletionTimestamp = none) (hok : (tryReconcileWith k env w).1 = none) :
    ∃ realmName s, synced k env w = some (realmName, s) ∧ (tryReconcileWith k env w).2.store = s := by
  obtain ⟨r, s, -, hs, -, hw⟩ := tryReconcileWith_ok hok
  exact ⟨r, s, hs, by rw [hw]; exact (tryToDelete_active h).1⟩

/-- A successful attempt on a terminating resource wrote, then ran the terminator on what it wrote. -/
theorem tryReconcileWith_terminating (hdel : w.obj.deletionTimestamp.isSome)
    (hok : (tryReconcileWith k env w).1 = none) :
    ∃ realmName s s', synced k env w = some (realmName, s) ∧
      k.makeTerminator env.fault realmName (k.key w.obj.spec) s = .ok s' ∧
      (tryReconcileWith k env w).2.store = s' := by
  obtain ⟨r, s, b, hs, hb, hw⟩ := tryReconcileWith_ok hok
  obtain ⟨s', ht, hst, -⟩ := tryToDelete_terminating_success hdel hb
  exact ⟨r, s, s', hs, ht, by rw [hw]; exact hst⟩

/-- A successful attempt on a terminating resource removes the finalizer and leaves every other one on it. -/
theorem tryReconcileWith_terminating_finalizers (hdel : w.obj.deletionTimestamp.isSome)
    (hok : (tryReconcileWith k env w).1 = none) :
    (tryReconcileWith k env w).2.obj.finalizers = w.obj.finalizers.filter (· ≠ k.finalizerName) := by
  obtain ⟨r, s, b, -, hb, hw⟩ := tryReconcileWith_ok hok
  obtain ⟨-, -, -, hfins⟩ := tryToDelete_terminating_success hdel hb
  rw [hw]
  exact hfins

/-- An attempt that removes the finalizer was on a terminating resource, got past the write, and its terminator
succeeded on what it wrote, leaving the store as it is after. -/
theorem tryReconcileWith_finalizer_removed (hfin : k.finalizerName ∈ w.obj.finalizers)
    (hgone : k.finalizerName ∉ (tryReconcileWith k env w).2.obj.finalizers) :
    w.obj.deletionTimestamp.isSome ∧ ∃ realmName s, synced k env w = some (realmName, s) ∧
      k.makeTerminator env.fault realmName (k.key w.obj.spec) s = .ok (tryReconcileWith k env w).2.store := by
  cases hs : synced k env w with
  | none => rw [(tryReconcileWith_of_synced_none hs).1] at hgone; exact absurd hfin hgone
  | some p =>
    rw [(tryReconcileWith_of_synced hs).1] at hgone ⊢
    obtain ⟨hdel, hd⟩ := tryToDelete_finalizer_removed hfin hgone
    exact ⟨hdel, p.1, p.2, rfl, hd⟩

/-- The store after an attempt: unchanged, the written state, or, on a terminating resource, what the terminator left
of the written state. -/
theorem tryReconcileWith_store (env : Env) (w : World σ α) :
    (tryReconcileWith k env w).2.store = w.store ∨ ∃ realmName s, synced k env w = some (realmName, s) ∧
      ((tryReconcileWith k env w).2.store = s ∨ w.obj.deletionTimestamp.isSome ∧
        k.makeTerminator env.fault realmName (k.key w.obj.spec) s = .ok (tryReconcileWith k env w).2.store) := by
  cases hs : synced k env w with
  | none => exact .inl (congrArg World.store (tryReconcileWith_of_synced_none hs).1)
  | some p =>
    rw [(tryReconcileWith_of_synced hs).1]
    rcases @tryToDelete_store _ _ (k.makeTerminator env.fault p.1 (k.key w.obj.spec)) (env.fault .update)
      k.finalizerName w.obj p.2 with h | ⟨hd, s', ht, h⟩
    · exact .inr ⟨p.1, p.2, rfl, .inl h⟩
    · exact .inr ⟨p.1, p.2, rfl, .inr ⟨hd, h ▸ ht⟩⟩

/-- An attempt touches only the finalizers of the resource. -/
theorem tryReconcileWith_obj (env : Env) (w : World σ α) :
    (tryReconcileWith k env w).2.obj = { w.obj with finalizers := (tryReconcileWith k env w).2.obj.finalizers } := by
  cases h : synced k env w with
  | none => rw [(tryReconcileWith_of_synced_none h).1]
  | some p => rw [(tryReconcileWith_of_synced h).1, finish, tryToDelete_obj]

/-- What `client.Get` of the resource answers. -/
inductive Fetch
  | found
  | notFound
  | failed (err : String)

/-- The status an attempt's outcome is recorded as, when it is written: the error and one more failure, or
`OK` and none (`Reconcile` of both controllers, with `SetFailureCount` and `SetSuccessStatus`). -/
def outcomeStatus (old : Status) : Option String → Status
  | some e => ⟨e, old.failureCount + 1⟩
  | none => ⟨statusOK, 0⟩

variable (k) in
/-- `Reconcile` of a realm child: fetch the resource, run `tryReconcile`, record the outcome in the status and write
the status. Returns the requeue delay, the error, and the state after. `timeout` is the delay curve of
`SetFailureCount`, `successAfter` the delay a success asks for, and `getError`, `statusError` what a failed
`client.Get` and a failed status write return. -/
def reconcileWith (timeout : Int → Nat) (successAfter : Nat) (getError statusError : String → String) (fetch : Fetch)
    (updateStatus : Option String) (env : Env) (w : World σ α) : (Nat × Option String) × World σ α :=
  match fetch with
  | .notFound => ((0, none), w)
  | .failed err => ((0, some (getError err)), w)
  | .found =>
    match tryReconcileWith k env w with
    | (err, w') =>
      let (requeueAfter, obj) : Nat × Object α :=
        match err with
        | some e => setFailureCount timeout { w'.obj with status := { w'.obj.status with value := e } }
        | none => (successAfter, setSuccessStatus w'.obj)
      match updateStatus with
      | some e => ((requeueAfter, some (statusError e)), w')
      | none => ((requeueAfter, none), { w' with obj := obj })

section Reconcile

variable (timeout : Int → Nat) (successAfter : Nat) (getError statusError : String → String)

/-- **One `Reconcile` of a found resource whose status is written**: the attempt's state with its outcome in the
status; a failure requeues on the curve of the old count, a success after `successAfter`. -/
theorem reconcileWith_found (env : Env) (w : World σ α) :
    reconcileWith k timeout successAfter getError statusError .found none env w =
      ((if (tryReconcileWith k env w).1.isSome then timeout w.obj.status.failureCount else successAfter, none),
        { (tryReconcileWith k env w).2 with
          obj := { (tryReconcileWith k env w).2.obj with
            status := outcomeStatus w.obj.status (tryReconcileWith k env w).1 } }) := by
  have hst : (tryReconcileWith k env w).2.obj.status = w.obj.status := by rw [tryReconcileWith_obj]
  unfold reconcileWith
  generalize tryReconcileWith k env w = r at hst ⊢
  obtain ⟨_ | e, w'⟩ := r <;> dsimp only at hst <;> simp [setFailureCount, setSuccessStatus, outcomeStatus, hst]

/-- `Reconcile` of a found resource leaves the attempt's state, with some status on the resource. -/
theorem reconcileWith_found_world (updateStatus : Option String) (env : Env) (w : World σ α) :
    ∃ st, (reconcileWith k timeout successAfter getError statusError .found updateStatus env w).2 =
      ⟨(tryReconcileWith k env w).2.store, { (tryReconcileWith k env w).2.obj with status := st }⟩ := by
  unfold reconcileWith
  generalize tryReconcileWith k env w = r
  obtain ⟨_ | e, w'⟩ := r <;> cases updateStatus <;> exact ⟨_, rfl⟩

end Reconcile

/-! ## Which updates are reconciled -/

/-- `event.UpdateEvent`: the resource before and after a write. -/
structure UpdateEvent (α : Type) where
  objectOld : Object α
  objectNew : Object α

/-- `isSpecUpdated` of both controllers: an update is reconciled when the spec changed or the deletion timestamp was
just set. The spec is compared as the model has it: the fields the controller reads, with a Go map as the list of its
entries. `reflect.DeepEqual` also compares the spec's `Realm` field and tells a nil slice or map from an empty one;
an edit that changes only those is, here, an edit that keeps the spec. -/
def isSpecUpdated [DecidableEq α] (e : UpdateEvent α) : Bool :=
  !decide (e.objectOld.spec = e.objectNew.spec) ||
    (e.objectOld.deletionTimestamp.isNone && e.objectNew.deletionTimestamp.isSome)

/-- A write that keeps the spec and the deletion timestamp is not reconciled. -/
theorem isSpecUpdated_eq_false [DecidableEq α] {o o' : Object α} (hs : o'.spec = o.spec)
    (hd : o'.deletionTimestamp = o.deletionTimestamp) : isSpecUpdated ⟨o, o'⟩ = false := by
  simp only [isSpecUpdated, hs, hd, decide_True, Bool.not_true, Bool.false_or, Bool.and_eq_false_iff]
  cases o.deletionTimestamp <;> simp

/-- **An attempt's own write never triggers another attempt.** -/
theorem isSpecUpdated_tryReconcileWith [DecidableEq α] (env : Env) (w : World σ α) :
    isSpecUpdated ⟨w.obj, (tryReconcileWith k env w).2.obj⟩ = false := by
  rw [tryReconcileWith_obj]
  exact isSpecUpdated_eq_false rfl rfl

/-! ## Runs -/

/-- What can happen to one resource: an edit of its spec, the deletion marker (set once), or a reconcile attempt. -/
inductive Event (α : Type)
  | edit (spec : α)
  | markDeleted (t : Nat)
  | reconcile (env : Env)

variable (k)

/-- One event. -/
def World.step (w : World σ α) : Event α → World σ α
  | .edit spec => { w with obj := { w.obj with spec := spec } }
  | .markDeleted t => { w with obj := { w.obj with deletionTimestamp := some (w.obj.deletionTimestamp.getD t) } }
  | .reconcile env => (tryReconcileWith k env w).2

/-- The world after a run of events. -/
def World.run (w : World σ α) (evs : List (Event α)) : World σ α := evs.foldl (World.step k) w

variable {k}

@[simp] theorem World.run_nil (w : World σ α) : World.run k w [] = w := rfl

@[simp] theorem World.run_append (w : World σ α) (evs evs' : List (Event α)) :
    World.run k w (evs ++ evs') = World.run k (World.run k w evs) evs' := List.foldl_append _ _ _ _

@[simp] theorem World.run_cons (w : World σ α) (ev : Event α) (evs : List (Event α)) :
    World.run k w (ev :: evs) = World.run k (World.step k w ev) evs := rfl

/-- **A property that every event keeps holds after every run.** -/
theorem World.run_invariant (P : World σ α → Prop) (hstep : ∀ w ev, P w → P (World.step k w ev)) :
    ∀ {w : World σ α} (evs : List (Event α)), P w → P (World.run k w evs)
  | _, [], h => h
  | _, ev :: evs, h => World.run_invariant P hstep evs (hstep _ ev h)

/-- What one event wrote to the remote state, given what an attempt writes. -/
def stepWrites {β : Type} (writes : Env → World σ α → List β) (w : World σ α) : Event α → List β
  | .reconcile env => writes env w
  | _ => []

variable (k) in
/-- What a run wrote, in order. -/
def runWrites {β : Type} (writes : Env → World σ α → List β) (w : World σ α) : List (Event α) → List β
  | [] => []
  | ev :: evs => stepWrites writes w ev ++ runWrites writes (World.step k w ev) evs

end KeycloakOperator
