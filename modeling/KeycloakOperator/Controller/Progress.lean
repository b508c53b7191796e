import KeycloakOperator.Controller.Loop

/-!
# Progress of the loop: what a worker that meets no failure settles

The loop's invariant speaks only of the resources it is done with (`loopInv_run`). Here the worker serves each index
of a list in turn: the timer of its key fires, when one is armed, and the worker takes the request, while every call
of every `Reconcile` succeeds against the index's realm (`drain`). For a strategy whose writes succeed when no call
fails (`Strategy.Total`):

- every such attempt succeeds (`Strategy.Total.attempt_ok`); for any strategy, serving a pending resource whose
  attempt succeeds sets or clears its value under the realm it resolved, whatever other writers did before
  (`serve_ok_view`);
- serving a resource sets its value under its realm and key and leaves every other resource's value, so after the
  drain every active resource of a drained index has its value in the service (`settled_drain`), and when every
  pending index was drained, every active resource has (`drain_converges`);
- what serving a resource leaves of it depends only on the resource (`serve_res_total`), and what it does to the
  service is to set or clear the value under the resource's realm and key (`serve_view_total`); so the order in which
  the worker serves two resources of different realms or keys does not matter (`process_comm`).
-/

namespace KeycloakOperator

variable {σ α : Type}

/-- A strategy whose writes succeed when no call fails. -/
structure Strategy.Total (k : Strategy σ α) : Prop where
  sync_ok : ∀ r spec s, ∃ s', k.sync (fun _ => none) r spec s = .ok s'
  term_ok : ∀ r n s, ∃ s', k.makeTerminator (fun _ => none) r n s = .ok s'

section Total

variable {k : Strategy σ α} (hk : k.Total)
include hk

/-- An attempt that meets no failure gets past the write, and its terminator would succeed on what it wrote. -/
theorem Strategy.Total.synced_ok (r : String) (w : World σ α) :
    ∃ s, synced k (.ok r) w = some (r, s) ∧ ∃ s', k.makeTerminator (fun _ => none) r (k.key w.obj.spec) s = .ok s' := by
  obtain ⟨s, hs⟩ := hk.sync_ok r w.obj.spec w.store
  exact ⟨s, by simp [synced, Env.ok, hs], hk.term_ok r _ s⟩

/-- **An attempt that meets no failure succeeds.** -/
theorem Strategy.Total.attempt_ok (r : String) (w : World σ α) : (tryReconcileWith k (.ok r) w).1 = none := by
  obtain ⟨s, hs, s', ht⟩ := hk.synced_ok r w
  exact (tryReconcileWith_of_synced hs).2.2 (tryToDelete_ok_of_del ht)

/-- What an attempt that meets no failure leaves of the resource does not depend on the service. -/
theorem Strategy.Total.attempt_obj (r : String) (s s' : σ) (o : Object α) :
    (tryReconcileWith k (.ok r) ⟨s, o⟩).2.obj = (tryReconcileWith k (.ok r) ⟨s', o⟩).2.obj := by
  obtain ⟨s₁, h₁, t₁, ht₁⟩ := hk.synced_ok r ⟨s, o⟩
  obtain ⟨s₂, h₂, t₂, ht₂⟩ := hk.synced_ok r ⟨s', o⟩
  rw [(tryReconcileWith_of_synced h₁).1, (tryReconcileWith_of_synced h₂).1]
  exact tryToDelete_obj_of_del ht₁ ht₂

end Total

/-- The worker serves each index of `is` in turn: the timer of its key fires, and the worker takes its request, while
every call of every `Reconcile` succeeds against the index's realm. -/
def drain (realmOf : Nat → String) : List Nat → List (ClusterEvent σ α)
  | [] => []
  | i :: is => .fire i :: .process i none (.ok (realmOf i)) none :: drain realmOf is

theorem mem_drain {realmOf : Nat → String} {is : List Nat} {ev : ClusterEvent σ α} (h : ev ∈ drain realmOf is) :
    ∃ i ∈ is, ev = .fire i ∨ ev = .process i none (.ok (realmOf i)) none := by
  induction is with
  | nil => cases h
  | cons j is ih =>
    rcases List.mem_cons.1 h with rfl | h
    · exact ⟨j, List.mem_cons_self _ _, .inl rfl⟩
    rcases List.mem_cons.1 h with rfl | h
    · exact ⟨j, List.mem_cons_self _ _, .inr rfl⟩
    obtain ⟨i, hi, he⟩ := ih h
    exact ⟨i, List.mem_cons_of_mem _ hi, he⟩

variable [DecidableEq α]

section Fire

variable {rec : Fetch → Option String → Env → World σ α → (Nat × Option String) × World σ α}

variable (rec) in
/-- A fired timer leaves the service and every object as they are, and no timer armed for its key. -/
theorem step_fire (c : Cluster σ α) (j : Nat) :
    (Cluster.step rec c (.fire j)).store = c.store ∧
      (∀ q, (Cluster.step rec c (.fire j)).res j = some q → q.entry.timer = false) ∧
      ∀ i q', (Cluster.step rec c (.fire j)).res i = some q' → ∃ q, c.res i = some q ∧ q'.obj = q.obj := by
  refine ⟨Cluster.fire_store c j, fun q hq => ?_, fun i q' hq' => ?_⟩
  · rw [Cluster.step, Cluster.fire_res, if_pos rfl, Option.map_eq_some'] at hq
    obtain ⟨q₀, -, rfl⟩ := hq
    split_ifs with ht
    · rfl
    · simpa using ht
  · rw [Cluster.step, Cluster.fire_res] at hq'
    split_ifs at hq' with hi
    · obtain ⟨q, hq, rfl⟩ := Option.map_eq_some'.1 hq'
      exact ⟨q, hi ▸ hq, by split_ifs <;> rfl⟩
    · exact ⟨q', hq', rfl⟩

/-- The timer of a pending resource firing leaves its request queued and no timer armed. -/
theorem step_fire_pending {c : Cluster σ α} {j : Nat} {q : Queued α} (hq : c.res j = some q) (hp : q.pending = true) :
    (Cluster.step rec c (.fire j)).res j = some { q with entry := ⟨true, false⟩ } := by
  obtain ⟨o, ⟨queued, timer⟩⟩ := q
  rw [Cluster.step, Cluster.fire_res, if_pos rfl, hq]
  cases timer <;> simp_all

/-- Serving another index leaves a resource as it is. -/
theorem serve_res_of_ne (c : Cluster σ α) {a x : Nat} (h : a ≠ x) (get : Option String) (env : Env)
    (upd : Option String) : (Cluster.run rec c [.fire a, .process a get env upd]).res x = c.res x := by
  have hi : ∀ ev : ClusterEvent σ α, ev.index = some a → ev.index ≠ some x := fun ev he e =>
    h (Option.some.inj (he.symm.trans e))
  simp only [Cluster.run_cons, Cluster.run_nil]
  rw [step_res_of_ne _ (hi (.process a get env upd) rfl) nofun, step_res_of_ne _ (hi (.fire a) rfl) nofun]

end Fire

section Drain

variable {β : Type} {k : Strategy σ α} {view : σ → String → String → Option β} {expected : α → β}
  {Good : σ → Prop} {timeout : Int → Nat} {successAfter : Nat} {getError statusError : String → String}
  {realmOf keyOf : Nat → String}

/-- **Serving a pending resource with a successful attempt**, whatever other writers did before, leaves under the
realm it resolved and the resource's key the resource's value when it is active, and nothing when it is
terminating. -/
theorem serve_ok_view (hk : k.Lawful view expected Good) {c : Cluster σ α} (hgood : Good c.store) {i : Nat}
    {q : Queued α} (hq : c.res i = some q) (hp : q.pending = true) {env : Env} (upd : Option String)
    (hok : (tryReconcileWith k env ⟨c.store, q.obj⟩).1 = none) :
    ∃ r, env.realm = .ok r ∧
      view (Cluster.run (reconcileWith k timeout successAfter getError statusError) c
        [.fire i, .process i none env upd]).store r (k.key q.obj.spec) =
        if q.obj.deletionTimestamp.isSome then none else some (expected q.obj.spec) := by
  have hs := (step_fire (reconcileWith k timeout successAfter getError statusError) c i).1
  exact process_ok_view timeout successAfter getError statusError hk (hs ▸ hgood) (step_fire_pending hq hp) rfl upd
    (hs ▸ hok)

variable (view expected realmOf keyOf) in
/-- Every active resource of an index in `P` has its value in the service under its realm and key. -/
def Settled (P : Nat → Prop) (c : Cluster σ α) : Prop :=
  ∀ i, P i → ∀ q, c.res i = some q → q.obj.deletionTimestamp = none →
    view c.store (realmOf i) (keyOf i) = some (expected q.obj.spec)

omit [DecidableEq α] in
theorem Settled.mono {P P' : Nat → Prop} {c : Cluster σ α} (h : Settled view expected realmOf keyOf P c)
    (hP : ∀ i, P' i → P i) : Settled view expected realmOf keyOf P' c := fun i hi => h i (hP i hi)

omit [DecidableEq α] in
theorem respects_drain (i : Nat) : Respects k realmOf keyOf (.process i none (.ok (realmOf i)) none) :=
  fun _ hr => (Except.ok.inj hr).symm

/-- A fired timer keeps every settled resource settled. -/
theorem settled_fire {rec : Fetch → Option String → Env → World σ α → (Nat × Option String) × World σ α}
    {P : Nat → Prop} {c : Cluster σ α} (hP : Settled view expected realmOf keyOf P c) (j : Nat) :
    Settled view expected realmOf keyOf P (Cluster.step rec c (.fire j)) := by
  obtain ⟨hs, -, hres⟩ := step_fire rec c j
  intro i hi q' hq' hactive
  obtain ⟨q, hq, hobj⟩ := hres i q' hq'
  rw [hs, hobj]
  exact hP i hi q hq (hobj ▸ hactive)

/-- **A fault-free `Reconcile` of a resource without a timer settles it** and leaves every other settled resource
settled: it writes the value of a queued resource, and one that is not queued is not pending, so it has its value. -/
theorem settled_process (hk : k.Lawful view expected Good) (ht : k.Total)
    (hinj : ∀ i j, i ≠ j → realmOf i = realmOf j → keyOf i ≠ keyOf j) {c : Cluster σ α}
    (h : LoopInv k view expected Good realmOf keyOf c) {P : Nat → Prop} (hP : Settled view expected realmOf keyOf P c)
    {j : Nat} (hnt : ∀ q, c.res j = some q → q.entry.timer = false) :
    Settled view expected realmOf keyOf (fun i => i = j ∨ P i)
      (Cluster.step (reconcileWith k timeout successAfter getError statusError) c
        (.process j none (.ok (realmOf j)) none)) := by
  intro i hi q' hq' hactive
  by_cases hij : i = j
  · subst hij
    rcases step_process_cases c i none (.ok (realmOf i)) none with ⟨⟨o, hs⟩, hidle⟩ | ⟨q, hq, hp, -⟩
    · rw [hs] at hq' ⊢
      exact h.converged i q' hq' (by simp [Queued.pending, Entry.pending, hidle q' hq', hnt q' hq']) hactive
    · exact process_self_view hk h hq hp (respects_drain i) (ht.attempt_ok (realmOf i) _) hq' hactive
  · have hne : (ClusterEvent.process j none (.ok (realmOf j)) none : ClusterEvent σ α).index ≠ some i :=
      fun e => hij (Option.some.inj e).symm
    rw [step_res_of_ne c hne nofun] at hq'
    rw [view_process_ne hk hinj h.good h.keys hij (respects_drain j)]
    exact hP i (hi.resolve_left hij) q' hq' hactive

/-- **A drain settles every drained resource** and keeps the invariant. -/
theorem settled_drain (hk : k.Lawful view expected Good) (ht : k.Total) (htimeout : ∀ n, 0 < timeout n)
    (hinj : ∀ i j, i ≠ j → realmOf i = realmOf j → keyOf i ≠ keyOf j) {c : Cluster σ α}
    (h : LoopInv k view expected Good realmOf keyOf c) {P : Nat → Prop} (hP : Settled view expected realmOf keyOf P c)
    (is : List Nat) :
    LoopInv k view expected Good realmOf keyOf
        (Cluster.run (reconcileWith k timeout successAfter getError statusError) c (drain realmOf is)) ∧
      Settled view expected realmOf keyOf (fun i => i ∈ is ∨ P i)
        (Cluster.run (reconcileWith k timeout successAfter getError statusError) c (drain realmOf is)) := by
  induction is generalizing c P with
  | nil => exact ⟨h, hP.mono fun i hi => hi.resolve_left (List.not_mem_nil i)⟩
  | cons j is ih =>
    have h₁ : LoopInv k view expected Good realmOf keyOf
        (Cluster.step (reconcileWith k timeout successAfter getError statusError) c (.fire j)) :=
      loopInv_step hk htimeout hinj h trivial
    obtain ⟨h', hP'⟩ := ih (loopInv_step hk htimeout hinj h₁ (respects_drain j))
      (settled_process hk ht hinj h₁ (settled_fire hP j) (step_fire _ c j).2.1)
    refine ⟨h', hP'.mono fun i hi => ?_⟩
    rcases hi with hi | hi
    · rcases List.mem_cons.1 hi with rfl | hi
      · exact .inr (.inl rfl)
      · exact .inl hi
    · exact .inr (.inr hi)

/-- **Once the worker has served every pending index and met no failure, every active resource has its value.** -/
theorem drain_converges (hk : k.Lawful view expected Good) (ht : k.Total) (htimeout : ∀ n, 0 < timeout n)
    (hinj : ∀ i j, i ≠ j → realmOf i = realmOf j → keyOf i ≠ keyOf j) {c : Cluster σ α}
    (h : LoopInv k view expected Good realmOf keyOf c) (is : List Nat)
    (his : ∀ i q, c.res i = some q → q.pending = true → i ∈ is) :
    ∀ i q, (Cluster.run (reconcileWith k timeout successAfter getError statusError) c (drain realmOf is)).res i =
        some q → q.obj.deletionTimestamp = none →
      view (Cluster.run (reconcileWith k timeout successAfter getError statusError) c (drain realmOf is)).store
        (realmOf i) (keyOf i) = some (expected q.obj.spec) := by
  obtain ⟨h', hS⟩ := settled_drain hk ht htimeout hinj h (P := fun _ => False) (fun _ h => h.elim) is
  intro i q hq hactive
  by_cases hi : i ∈ is
  · exact hS i (.inl hi) q hq hactive
  · have hres : (Cluster.run (reconcileWith k timeout successAfter getError statusError) c (drain realmOf is)).res i =
        c.res i :=
      run_res_of_ne c fun ev hev => by
        obtain ⟨j, hj, rfl | rfl⟩ := mem_drain hev <;>
          exact ⟨fun e => hi ((Option.some.inj e : j = i) ▸ hj), nofun⟩
    exact h'.converged i q hq (Bool.eq_false_iff.2 fun hp => hi (his i q (hres ▸ hq) hp)) hactive

end Drain

/-! ## Two requests in either order -/

section Order

variable {β : Type} {k : Strategy σ α} {view : σ → String → String → Option β} {expected : α → β}
  {Good : σ → Prop} {timeout : Int → Nat} {successAfter : Nat} {getError statusError : String → String}

/-- What a fault-free `Reconcile` leaves at its resource's index depends only on the resource there. -/
theorem process_res_total (ht : k.Total) {c c' : Cluster σ α} {i : Nat} (hres : c.res i = c'.res i) (r : String) :
    (Cluster.step (reconcileWith k timeout successAfter getError statusError) c (.process i none (.ok r) none)).res i =
      (Cluster.step (reconcileWith k timeout successAfter getError statusError) c'
        (.process i none (.ok r) none)).res i := by
  rcases step_process_cases c i none (.ok r) none with ⟨⟨o, hs⟩, hidle⟩ | ⟨q, hq, hp, hs⟩ <;>
    rcases step_process_cases c' i none (.ok r) none with ⟨⟨o', hs'⟩, hidle'⟩ | ⟨q', hq', hp', hs'⟩ <;>
    rw [hs, hs']
  · exact hres
  · cases (hidle q' (hres.trans hq')).symm.trans hp'
  · cases (hidle' q (hres ▸ hq)).symm.trans hp
  · cases hq.symm.trans (hres.trans hq')
    simp [fetchOf, reconcileWith_found, ht.attempt_ok, ht.attempt_obj r c.store c'.store]

/-- What serving a resource without a failure leaves at its index depends only on the resource there. -/
theorem serve_res_total (ht : k.Total) {c c' : Cluster σ α} {i : Nat} (hres : c.res i = c'.res i) (r : String) :
    (Cluster.run (reconcileWith k timeout successAfter getError statusError) c
        [.fire i, .process i none (.ok r) none]).res i =
      (Cluster.run (reconcileWith k timeout successAfter getError statusError) c'
        [.fire i, .process i none (.ok r) none]).res i := by
  refine process_res_total ht ?_ r
  simp only [Cluster.step, Cluster.fire_res, if_pos rfl, hres]

/-- **What a fault-free `Reconcile` does to the service, read through the view**: for a queued resource, it sets the
spec's value under the realm and the spec's key, or clears it when the resource is terminating; it changes nothing
else. -/
theorem process_view_total (hk : k.Lawful view expected Good) (ht : k.Total) {c : Cluster σ α} (hgood : Good c.store)
    (i : Nat) (r r' n : String) :
    view (Cluster.step (reconcileWith k timeout successAfter getError statusError) c
        (.process i none (.ok r) none)).store r' n =
      match c.res i with
      | some q =>
        if q.entry.queued = true ∧ r' = r ∧ n = k.key q.obj.spec then
          (if q.obj.deletionTimestamp.isSome then none else some (expected q.obj.spec))
        else view c.store r' n
      | none => view c.store r' n := by
  rcases step_process_cases c i none (.ok r) none with ⟨⟨o, hs⟩, hidle⟩ | ⟨q, hq, hp, -⟩
  · rw [hs]
    cases hq : c.res i with
    | none => rfl
    | some q => exact (if_neg fun h => by simp [hidle q hq] at h).symm
  · obtain ⟨st, hw⟩ := reconcileWith_found_world (k := k) timeout successAfter getError statusError none (.ok r)
      ⟨c.store, q.obj⟩
    obtain ⟨r₀, hr, hv⟩ := hk.attempt_view hgood (ht.attempt_ok r ⟨c.store, q.obj⟩)
    obtain rfl : r = r₀ := Except.ok.inj hr
    rw [step_process hq hp]
    simp only [Cluster.write_store, fetchOf, hw]
    rw [hv r' n, hq]
    simp [hp]

/-- **What serving a resource without a failure does to the service**: for a pending resource, it sets the spec's
value under the realm and the spec's key, or clears it when the resource is terminating; it changes nothing else. -/
theorem serve_view_total (hk : k.Lawful view expected Good) (ht : k.Total) {c : Cluster σ α} (hgood : Good c.store)
    (i : Nat) (r r' n : String) :
    view (Cluster.run (reconcileWith k timeout successAfter getError statusError) c
        [.fire i, .process i none (.ok r) none]).store r' n =
      match c.res i with
      | some q =>
        if q.pending = true ∧ r' = r ∧ n = k.key q.obj.spec then
          (if q.obj.deletionTimestamp.isSome then none else some (expected q.obj.spec))
        else view c.store r' n
      | none => view c.store r' n := by
  have hfire := Cluster.fire_res c i i
  rw [if_pos rfl] at hfire
  simp only [Cluster.run_cons, Cluster.run_nil]
  rw [process_view_total hk ht (by rw [Cluster.step, Cluster.fire_store]; exact hgood), Cluster.step, hfire,
    Cluster.fire_store]
  cases c.res i with
  | none => rfl
  | some q =>
    obtain ⟨o, ⟨a, b⟩⟩ := q
    cases a <;> cases b <;> simp [Queued.pending]

/-- **The order in which the worker serves two requests does not matter.** Fault-free, serving resource `i` then `j`
or `j` then `i` leaves the same resources, and the same service as seen through the view, when the two are bound to
different realms or keys. -/
theorem process_comm (hk : k.Lawful view expected Good) (ht : k.Total) {realmOf keyOf : Nat → String}
    {c : Cluster σ α} (hgood : Good c.store) (hkeys : KeysFixed k keyOf c) {i j : Nat}
    (hij : ¬(realmOf i = realmOf j ∧ keyOf i = keyOf j)) :
    (Cluster.run (reconcileWith k timeout successAfter getError statusError) c
        (drain realmOf [i, j])).res =
      (Cluster.run (reconcileWith k timeout successAfter getError statusError) c (drain realmOf [j, i])).res ∧
    ∀ r n, view (Cluster.run (reconcileWith k timeout successAfter getError statusError) c
        (drain realmOf [i, j])).store r n =
      view (Cluster.run (reconcileWith k timeout successAfter getError statusError) c (drain realmOf [j, i])).store r n := by
  have hne : i ≠ j := fun e => hij ⟨congrArg realmOf e, congrArg keyOf e⟩
  have hdrain : ∀ a b : Nat, (drain realmOf [a, b] : List (ClusterEvent σ α)) =
      [.fire a, .process a none (.ok (realmOf a)) none] ++ [.fire b, .process b none (.ok (realmOf b)) none] :=
    fun _ _ => rfl
  have hgood' : ∀ a, Good (Cluster.run (reconcileWith k timeout successAfter getError statusError) c
      [.fire a, .process a none (.ok (realmOf a)) none]).store := fun a => good_run hk hgood _ (by simp)
  rw [hdrain, hdrain, Cluster.run_append, Cluster.run_append]
  refine ⟨funext fun x => ?_, fun r n => ?_⟩
  · by_cases hxj : x = j
    · subst hxj
      rw [serve_res_of_ne _ hne]
      exact serve_res_total ht (serve_res_of_ne c hne _ _ _) _
    · by_cases hxi : x = i
      · subst hxi
        rw [serve_res_of_ne _ (Ne.symm hne)]
        exact (serve_res_total ht (serve_res_of_ne c (Ne.symm hne) _ _ _) _).symm
      · rw [serve_res_of_ne _ (Ne.symm hxj), serve_res_of_ne _ (Ne.symm hxi), serve_res_of_ne _ (Ne.symm hxi),
          serve_res_of_ne _ (Ne.symm hxj)]
  · rw [serve_view_total hk ht (hgood' i) j, serve_view_total hk ht hgood i, serve_view_total hk ht (hgood' j) i,
      serve_view_total hk ht hgood j, serve_res_of_ne c hne, serve_res_of_ne c (Ne.symm hne)]
    cases hqi : c.res i with
    | none => cases c.res j <;> rfl
    | some qi =>
      cases hqj : c.res j with
      | none => rfl
      | some qj =>
        apply ite_ite_comm
        rintro ⟨-, hrj, hnj⟩ ⟨-, hri, hni⟩
        exact hij ⟨hri.symm.trans hrj, ((hkeys i qi hqi).symm.trans hni.symm).trans (hnj.trans (hkeys j qj hqj))⟩

end Order

end KeycloakOperator
