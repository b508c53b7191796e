import KeycloakOperator.Controller.Progress
import KeycloakOperator.Controller.Refinement

/-!
# The two controllers in the manager's loop

`SetupWithManager` of each controller runs its `Reconcile` in the loop of `Loop`: the realm component controller's
with `successReconcileTimeout` as its success delay, the auth flow controller's with none. Both strategies are lawful:
the realm component controller's for the view `abstract` (the spec of the first component of each realm and name) on
stores with unique names, the auth flow controller's for `flowAt` (the flow under each realm and alias) on every store.

- **Convergence.** In every run from an empty cluster in which resources keep their realm and key, no two share both,
  and no one else writes the service, every resource that is neither pending nor terminating has its component
  (`RealmComponent.loop_converges`) or its flow (`AuthFlow.loop_converges_by_alias`) in the service.
- **Progress.** Once the worker has served every pending resource without a failure, every active realm component
  resource has its component (`RealmComponent.loop_settles`).
- Every resource that is not pending shows `OK` (`idle_resources_show_ok`).
- An auth flow resource that is neither pending nor terminating is not reconciled again until it is edited or marked,
  or the manager restarts: a change of its flow by another writer stays (`AuthFlow.external_change_persists`), and so
  does the removal of its flow by another resource of the same alias (`AuthFlow.shared_alias_removed`).
- The loop never touches a component that no resource declares, so one left behind by a rename stays
  (`RealmComponent.loop_leaves_undeclared`), and it never deletes the component of a resource that is not being
  deleted (`RealmComponent.loop_keeps_live_component`).
- With a positive `successReconcileTimeout` every resource stays pending, and each successful `Reconcile` of an active
  one writes its component again (`RealmComponent.loop_repairs`); a resource that another finalizer keeps after its
  own finalizer is gone is served again and again, and each success deletes its component once more
  (`RealmComponent.deleted_again_after_finalizer_gone`).
- A resource that holds the finalizer leaves the cluster only at a `Reconcile` of it after which its realm has no
  component of its name (`RealmComponent.deleted_only_after_cleanup`), and the order in which the worker serves two
  resources does not matter (`RealmComponent.serve_order_irrelevant`).
-/

namespace KeycloakOperator

/-- The realm of resource `i` in the examples: `master`, and for every other index a realm of its own. -/
def realmAt (i : Nat) : String := "master" ++ String.mk (List.replicate i 'x')

theorem realmAt_inj {i j : Nat} (h : realmAt i = realmAt j) : i = j := by
  simpa [realmAt, String.length_append] using congrArg String.length h

/-- Resources in the realms `realmAt` never share a realm, whatever their keys. -/
theorem realmAt_sep (key : String) :
    ∀ i j, i ≠ j → realmAt i = realmAt j → (fun _ => key : Nat → String) i ≠ (fun _ => key) j :=
  fun _ _ hij hr => absurd (realmAt_inj hr) hij

/-! ## Realm components -/

namespace RealmComponent

open ComponentStore

/-- The realm component controller's writes, read through `abstract`, on stores with unique names. -/
theorem strategy_lawful : strategy.Lawful abstract id NamesUnique where
  sync_good h hs := syncComponent_ok hs ▸ namesUnique_upsert h
  sync_view h hs _ _ := by rw [syncComponent_ok hs, abstract_upsert h]; rfl
  term_good h ht := namesUnique_makeTerminator h ht
  term_view h ht _ _ := by rw [abstract_makeTerminator h ht]; rfl

/-- The realm component controller's writes succeed when no call fails. -/
theorem strategy_total : strategy.Total where
  sync_ok r spec s := by cases hg : s.getComponent r spec.name <;> simp [strategy, syncComponent, getComponent, write, hg]
  term_ok r n s := by cases hg : s.getComponent r n <;> simp [strategy, makeTerminator, write, hg]

/-- **The realm component loop converges.** With a positive failure delay, in every run from an empty cluster over a
store with unique names in which each resource keeps its realm and name, no two resources of a realm share a name,
and no one else writes the service, names stay unique and every resource that is neither pending nor terminating has
its spec as the component of its name in its realm. A resource is ever not pending only when
`successReconcileTimeout` is zero: a positive one arms a timer after every success (`loop_repairs`), and what the loop
then reaches is said by `loop_settles`. -/
theorem loop_converges {timeout : Int → Nat} (htimeout : ∀ n, 0 < timeout n) (t : Nat) {realmOf nameOf : Nat → String}
    (hinj : ∀ i j, i ≠ j → realmOf i = realmOf j → nameOf i ≠ nameOf j) {s₀ : ComponentStore} (h₀ : s₀.NamesUnique)
    (evs : List (ClusterEvent ComponentStore KeycloakComponentSpec))
    (hevs : ∀ ev ∈ evs, Respects strategy realmOf nameOf ev) :
    (Cluster.run (reconcile timeout t) (.empty s₀) evs).store.NamesUnique ∧
      ∀ i q, (Cluster.run (reconcile timeout t) (.empty s₀) evs).res i = some q → q.pending = false →
        q.obj.deletionTimestamp = none →
        abstract (Cluster.run (reconcile timeout t) (.empty s₀) evs).store (realmOf i) (nameOf i) =
          some q.obj.spec :=
  have h := loopInv_run strategy_lawful htimeout hinj (loopInv_empty realmOf nameOf h₀) evs hevs
  ⟨h.good, h.converged⟩

theorem loop_converges_created :
    (∀ n : Int, 0 < (fun _ => 30 : Int → Nat) n) ∧
      (∀ i j, i ≠ j → realmAt i = realmAt j → (fun _ => "a" : Nat → String) i ≠ (fun _ => "a") j) ∧
      ComponentStore.empty.NamesUnique ∧
      (∀ ev ∈ [.create 0 (ldap "a") [], .process 0 none (.ok "master") none, .restart,
          .process 0 none (.ok "master") none],
        Respects strategy realmAt (fun _ => "a") ev) ∧
      (Cluster.run (reconcile (fun _ => 30) 0) (.empty .empty)
          [.create 0 (ldap "a") [], .process 0 none (.ok "master") none, .restart,
            .process 0 none (.ok "master") none]).store.NamesUnique ∧
      ∀ i q, (Cluster.run (reconcile (fun _ => 30) 0) (.empty .empty)
          [.create 0 (ldap "a") [], .process 0 none (.ok "master") none, .restart,
            .process 0 none (.ok "master") none]).res i = some q → q.pending = false →
        q.obj.deletionTimestamp = none →
        abstract (Cluster.run (reconcile (fun _ => 30) 0) (.empty .empty)
          [.create 0 (ldap "a") [], .process 0 none (.ok "master") none, .restart,
            .process 0 none (.ok "master") none]).store (realmAt i) "a" = some q.obj.spec :=
  have hevs : ∀ ev ∈ [.create 0 (ldap "a") [], .process 0 none (.ok "master") none, .restart,
      .process 0 none (.ok "master") none], Respects strategy realmAt (fun _ => "a") ev := by
    simp [Respects, strategy, ldap, realmAt, Env.ok]
  ⟨fun _ => Nat.succ_pos _, realmAt_sep _, namesUnique_empty, hevs,
    loop_converges (fun _ => Nat.succ_pos _) 0 (realmAt_sep _) namesUnique_empty _ hevs⟩

/-- **A component that no resource declares is never touched.** Through every run of the realm component loop that
keeps realms and names and has no other writer, on a store with unique names, the component of a realm and name that
no resource is bound to stays as it is: a component created by someone else is neither overwritten nor deleted, and
one left behind by a renamed resource stays for good. -/
theorem loop_leaves_undeclared {timeout : Int → Nat} {t : Nat} {realmOf nameOf : Nat → String}
    {c : Cluster ComponentStore KeycloakComponentSpec} (hgood : c.store.NamesUnique) (hkeys : KeysFixed strategy nameOf c)
    {r n : String} (hfree : ∀ j, ¬(realmOf j = r ∧ nameOf j = n))
    (evs : List (ClusterEvent ComponentStore KeycloakComponentSpec))
    (hevs : ∀ ev ∈ evs, Respects strategy realmOf nameOf ev) :
    abstract (Cluster.run (reconcile timeout t) c evs).store r n = abstract c.store r n :=
  run_undeclared strategy_lawful hgood hkeys hfree evs hevs

/-- A resource renamed from `a` to `b` after its component `a` was written, waiting to be reconciled. -/
def renamedCluster : Cluster ComponentStore KeycloakComponentSpec :=
  ⟨upsert "master" (ldap "a") .empty,
    Function.update (fun _ => none) 0
      (some ⟨{ Object.created (ldap "b") with finalizers := [finalizerName] }, ⟨true, false⟩⟩),
    fun _ => .idle⟩

theorem loop_leaves_undeclared_renamed :
    renamedCluster.store.NamesUnique ∧ KeysFixed strategy (fun _ => "b") renamedCluster ∧
      (∀ j, ¬(realmAt j = "master" ∧ (fun _ => "b" : Nat → String) j = "a")) ∧
      (∀ ev ∈ [.process 0 none (.ok "master") none], Respects strategy realmAt (fun _ => "b") ev) ∧
      abstract (Cluster.run (reconcile (fun _ => 30) 60) renamedCluster [.process 0 none (.ok "master") none]).store
          "master" "a" = abstract renamedCluster.store "master" "a" := by
  have hgood : renamedCluster.store.NamesUnique := namesUnique_upsert namesUnique_empty
  have hkeys : KeysFixed strategy (fun _ => "b") renamedCluster := fun j q hq => by
    by_cases hj : j = 0
    · subst hj; simp only [renamedCluster, Function.update_same, Option.some.injEq] at hq; subst hq; rfl
    · simp [renamedCluster, hj] at hq
  have hfree : ∀ j, ¬(realmAt j = "master" ∧ (fun _ => "b" : Nat → String) j = "a") := fun _ h => absurd h.2 (by simp)
  have hevs : ∀ ev ∈ [.process 0 none (.ok "master") none], Respects strategy realmAt (fun _ => "b") ev := by
    simp [Respects, realmAt, Env.ok]
  exact ⟨hgood, hkeys, hfree, hevs, loop_leaves_undeclared hgood hkeys hfree _ hevs⟩

/-- **The realm component loop repairs drift.** With positive delays, from a cluster whose resources are all pending
and whose store has unique names, in every run in which other writers leave stores with unique names, every resource
stays pending, and for an active one, when its timer fires and the worker takes its request, every successful
`Reconcile` writes its spec again as the component of its name in the realm it resolved, whatever other writers did
to it. -/
theorem loop_repairs {timeout : Int → Nat} (htimeout : ∀ n, 0 < timeout n) {t : Nat} (ht : 0 < t)
    {c : Cluster ComponentStore KeycloakComponentSpec} (hgood : c.store.NamesUnique)
    (hqueued : ∀ i q, c.res i = some q → q.pending = true) (evs : List (ClusterEvent ComponentStore KeycloakComponentSpec))
    (hevs : ∀ ev ∈ evs, ∀ s, ev = .external s → s.NamesUnique) :
    ∀ i q, (Cluster.run (reconcile timeout t) c evs).res i = some q → q.pending = true ∧
      (q.obj.deletionTimestamp = none → ∀ env upd,
        (tryReconcile env ⟨(Cluster.run (reconcile timeout t) c evs).store, q.obj⟩).1 = none →
        ∃ r, env.realm = .ok r ∧
          abstract (Cluster.run (reconcile timeout t) c (evs ++ [.fire i, .process i none env upd])).store r
            q.obj.spec.name = some q.obj.spec) := by
  intro i q hq
  have hp := run_queued htimeout ht hqueued evs i q hq
  refine ⟨hp, fun hactive env upd hok => ?_⟩
  rw [Cluster.run_append]
  exact (serve_ok_view strategy_lawful (good_run strategy_lawful hgood evs hevs) hq hp upd hok).imp
    fun r h => ⟨h.1, h.2.trans (if_neg (by simp [hactive]))⟩

theorem loop_repairs_wiped :
    (∀ n : Int, 0 < (fun _ => 30 : Int → Nat) n) ∧ 0 < 60 ∧ ComponentStore.empty.NamesUnique ∧
      (∀ i q, (Cluster.empty .empty : Cluster ComponentStore KeycloakComponentSpec).res i = some q →
        q.pending = true) ∧
      (∀ ev ∈ [(.create 0 (ldap "a") [] : ClusterEvent ComponentStore KeycloakComponentSpec),
        .process 0 none (.ok "master") none, .external .empty], ∀ s, ev = .external s → s.NamesUnique) ∧
      ∀ i q, (Cluster.run (reconcile (fun _ => 30) 60) (.empty .empty)
          [.create 0 (ldap "a") [], .process 0 none (.ok "master") none, .external .empty]).res i = some q →
        q.pending = true ∧
        (q.obj.deletionTimestamp = none → ∀ env upd,
          (tryReconcile env ⟨(Cluster.run (reconcile (fun _ => 30) 60) (.empty .empty)
            [.create 0 (ldap "a") [], .process 0 none (.ok "master") none, .external .empty]).store, q.obj⟩).1 =
              none →
          ∃ r, env.realm = .ok r ∧
            abstract (Cluster.run (reconcile (fun _ => 30) 60) (.empty .empty)
              ([.create 0 (ldap "a") [], .process 0 none (.ok "master") none, .external .empty] ++
                [.fire i, .process i none env upd])).store r q.obj.spec.name = some q.obj.spec) :=
  have hevs : ∀ ev ∈ [(.create 0 (ldap "a") [] : ClusterEvent ComponentStore KeycloakComponentSpec),
      .process 0 none (.ok "master") none, .external .empty], ∀ s, ev = .external s → s.NamesUnique := by
    simp [namesUnique_empty]
  ⟨fun _ => Nat.succ_pos _, Nat.succ_pos _, namesUnique_empty, fun _ _ h => (nomatch h), hevs,
    loop_repairs (c := .empty .empty) (fun _ => Nat.succ_pos _) (Nat.succ_pos _) namesUnique_empty
      (fun _ _ h => (nomatch h)) _ hevs⟩

/-- **The realm component loop never deletes the component of a resource that is not being deleted.** Through every
run of the realm component loop over a store with unique names that keeps realms and names, has no two resources of a
realm with one name, no other writer and no deletion of resource `i`, whose resource, if any, is not marked, once the
realm of `i` has a component of its name, `GetComponent` keeps finding one. -/
theorem loop_keeps_live_component {timeout : Int → Nat} {t : Nat} {realmOf nameOf : Nat → String}
    (hinj : ∀ i j, i ≠ j → realmOf i = realmOf j → nameOf i ≠ nameOf j)
    {c : Cluster ComponentStore KeycloakComponentSpec} (hgood : c.store.NamesUnique) (hkeys : KeysFixed strategy nameOf c)
    {i : Nat} (hlive : ∀ q, c.res i = some q → q.obj.deletionTimestamp = none)
    (hval : (c.store.getComponent (realmOf i) (nameOf i)).isSome)
    (evs : List (ClusterEvent ComponentStore KeycloakComponentSpec))
    (hevs : ∀ ev ∈ evs, Respects strategy realmOf nameOf ev ∧ ∀ stamp, ev ≠ .markDeleted i stamp) :
    ((Cluster.run (reconcile timeout t) c evs).store.getComponent (realmOf i) (nameOf i)).isSome := by
  have h : (abstract (Cluster.run (reconcile timeout t) c evs).store (realmOf i) (nameOf i)).isSome :=
    run_keeps_live strategy_lawful hinj hgood hkeys hlive (by simpa [abstract] using hval) evs hevs
  simpa [abstract] using h

/-- A resource reconciled once: its component exists. -/
def liveCluster : Cluster ComponentStore KeycloakComponentSpec :=
  Cluster.run (reconcile (fun _ => 30) 60) (.empty .empty) [.create 0 (ldap "a") [], .process 0 none (.ok "master") none]

/-- The resource of `liveCluster`: reconciled, with the finalizer, and the timer of `successReconcileTimeout` armed. -/
def liveQueued : Queued KeycloakComponentSpec := ⟨⟨none, [finalizerName], ldap "a", ⟨statusOK, 0⟩⟩, ⟨false, true⟩⟩

theorem loop_keeps_live_component_edited :
    (∀ i j, i ≠ j → realmAt i = realmAt j → (fun _ => "a" : Nat → String) i ≠ (fun _ => "a") j) ∧
      liveCluster.store.NamesUnique ∧ KeysFixed strategy (fun _ => "a") liveCluster ∧
      (∀ q, liveCluster.res 0 = some q → q.obj.deletionTimestamp = none) ∧
      (liveCluster.store.getComponent (realmAt 0) "a").isSome ∧
      (∀ ev ∈ [.edit 0 (ldap "a"), .fire 0, .process 0 none (.ok "master") none, .markDeleted 1 5],
        Respects strategy realmAt (fun _ => "a") ev ∧ ∀ stamp, ev ≠ .markDeleted 0 stamp) ∧
      ((Cluster.run (reconcile (fun _ => 30) 60) liveCluster
          [.edit 0 (ldap "a"), .fire 0, .process 0 none (.ok "master") none, .markDeleted 1 5]).store.getComponent
            (realmAt 0) "a").isSome := by
  have hinj := realmAt_sep "a"
  have hinv : LoopInv strategy abstract id NamesUnique realmAt (fun _ => "a") liveCluster :=
    loopInv_run strategy_lawful (fun _ => Nat.succ_pos 29) hinj (loopInv_empty realmAt _ namesUnique_empty) _
      (by simp [Respects, strategy, ldap, realmAt, Env.ok])
  have hlive : ∀ q, liveCluster.res 0 = some q → q.obj.deletionTimestamp = none := fun q hq => by
    rw [show liveCluster.res 0 = some liveQueued by decide] at hq
    cases hq
    rfl
  have hval : (liveCluster.store.getComponent (realmAt 0) "a").isSome := by decide
  have hevs : ∀ ev ∈ [.edit 0 (ldap "a"), .fire 0, .process 0 none (.ok "master") none, .markDeleted 1 5],
      Respects strategy realmAt (fun _ => "a") ev ∧ ∀ stamp, ev ≠ .markDeleted 0 stamp := by
    simp [Respects, strategy, ldap, realmAt, Env.ok]
  exact ⟨hinj, hinv.good, hinv.keys, hlive, hval, hevs,
    loop_keeps_live_component hinj hinv.good hinv.keys hlive hval _ hevs⟩

/-- **The order in which the worker serves two realm component requests does not matter.** On a store with unique
names whose resources keep their names, serving two resources bound to different realms or names with no failure, in
either order, leaves the same resources and the same spec under every realm and name; only the IDs the components get
may differ. -/
theorem serve_order_irrelevant {timeout : Int → Nat} {t : Nat} {realmOf nameOf : Nat → String}
    {c : Cluster ComponentStore KeycloakComponentSpec} (hgood : c.store.NamesUnique) (hkeys : KeysFixed strategy nameOf c)
    {i j : Nat} (hij : ¬(realmOf i = realmOf j ∧ nameOf i = nameOf j)) :
    (Cluster.run (reconcile timeout t) c (drain realmOf [i, j])).res =
        (Cluster.run (reconcile timeout t) c (drain realmOf [j, i])).res ∧
      ∀ r n, abstract (Cluster.run (reconcile timeout t) c (drain realmOf [i, j])).store r n =
        abstract (Cluster.run (reconcile timeout t) c (drain realmOf [j, i])).store r n :=
  process_comm strategy_lawful strategy_total hgood hkeys hij

/-- Two resources of one name, in two realms, waiting to be reconciled. -/
def twoCluster : Cluster ComponentStore KeycloakComponentSpec :=
  Cluster.run (reconcile (fun _ => 30) 60) (.empty .empty) [.create 0 (ldap "a") [], .create 1 (ldap "a") []]

theorem serve_order_irrelevant_two :
    twoCluster.store.NamesUnique ∧ KeysFixed strategy (fun _ => "a") twoCluster ∧
      ¬(realmAt 0 = realmAt 1 ∧ (fun _ => "a" : Nat → String) 0 = (fun _ => "a") 1) ∧
      (Cluster.run (reconcile (fun _ => 30) 60) twoCluster (drain realmAt [0, 1])).res =
        (Cluster.run (reconcile (fun _ => 30) 60) twoCluster (drain realmAt [1, 0])).res ∧
      ∀ r n, abstract (Cluster.run (reconcile (fun _ => 30) 60) twoCluster (drain realmAt [0, 1])).store r n =
        abstract (Cluster.run (reconcile (fun _ => 30) 60) twoCluster (drain realmAt [1, 0])).store r n := by
  have hinj := realmAt_sep "a"
  have hinv : LoopInv strategy abstract id NamesUnique realmAt (fun _ => "a") twoCluster :=
    loopInv_run strategy_lawful (fun _ => Nat.succ_pos 29) hinj (loopInv_empty realmAt _ namesUnique_empty) _
      (by simp [Respects, strategy, ldap])
  have hij : ¬(realmAt 0 = realmAt 1 ∧ (fun _ => "a" : Nat → String) 0 = (fun _ => "a") 1) := fun h =>
    absurd (realmAt_inj h.1) (by decide)
  exact ⟨hinv.good, hinv.keys, hij, serve_order_irrelevant hinv.good hinv.keys hij⟩

/-- **Once every pending resource has been served without a failure, every active realm component resource has its
component.** In every run of the realm component loop from an empty cluster over a store with unique names that keeps
realms and names, has no two resources of a realm with one name and no other writer, once the worker has then served
each pending resource (its timer fired, its request taken) and every call succeeded, every active resource has its
spec as the component of its name in its realm. -/
theorem loop_settles {timeout : Int → Nat} (htimeout : ∀ n, 0 < timeout n) (t : Nat) {realmOf nameOf : Nat → String}
    (hinj : ∀ i j, i ≠ j → realmOf i = realmOf j → nameOf i ≠ nameOf j) {s₀ : ComponentStore} (h₀ : s₀.NamesUnique)
    (evs : List (ClusterEvent ComponentStore KeycloakComponentSpec))
    (hevs : ∀ ev ∈ evs, Respects strategy realmOf nameOf ev) (is : List Nat)
    (his : ∀ i q, (Cluster.run (reconcile timeout t) (.empty s₀) evs).res i = some q → q.pending = true →
      i ∈ is) :
    ∀ i q, (Cluster.run (reconcile timeout t) (.empty s₀) (evs ++ drain realmOf is)).res i = some q →
      q.obj.deletionTimestamp = none →
      abstract (Cluster.run (reconcile timeout t) (.empty s₀) (evs ++ drain realmOf is)).store (realmOf i)
        (nameOf i) = some q.obj.spec := by
  rw [Cluster.run_append]
  exact drain_converges strategy_lawful strategy_total htimeout hinj
    (loopInv_run strategy_lawful htimeout hinj (loopInv_empty realmOf nameOf h₀) evs hevs) is his

theorem loop_settles_created :
    (∀ n : Int, 0 < (fun _ => 30 : Int → Nat) n) ∧
      (∀ i j, i ≠ j → realmAt i = realmAt j → (fun _ => "a" : Nat → String) i ≠ (fun _ => "a") j) ∧
      ComponentStore.empty.NamesUnique ∧
      (∀ ev ∈ [(.create 0 (ldap "a") [] : ClusterEvent ComponentStore KeycloakComponentSpec),
          .process 0 none ⟨.error "not found", fun _ => none⟩ none],
        Respects strategy realmAt (fun _ => "a") ev) ∧
      (∀ i q, (Cluster.run (reconcile (fun _ => 30) 60) (.empty .empty)
          [.create 0 (ldap "a") [], .process 0 none ⟨.error "not found", fun _ => none⟩ none]).res i =
        some q → q.pending = true → i ∈ [0]) ∧
      ∀ i q, (Cluster.run (reconcile (fun _ => 30) 60) (.empty .empty)
          ([.create 0 (ldap "a") [], .process 0 none ⟨.error "not found", fun _ => none⟩ none] ++
            drain realmAt [0])).res i = some q →
        q.obj.deletionTimestamp = none →
        abstract (Cluster.run (reconcile (fun _ => 30) 60) (.empty .empty)
          ([.create 0 (ldap "a") [], .process 0 none ⟨.error "not found", fun _ => none⟩ none] ++
            drain realmAt [0])).store (realmAt i) "a" = some q.obj.spec := by
  have hinj := realmAt_sep "a"
  have hevs : ∀ ev ∈ [(.create 0 (ldap "a") [] : ClusterEvent ComponentStore KeycloakComponentSpec),
      .process 0 none ⟨.error "not found", fun _ => none⟩ none], Respects strategy realmAt (fun _ => "a") ev := by
    simp [Respects, strategy, ldap]
  have his : ∀ i q, (Cluster.run (reconcile (fun _ => 30) 60) (.empty .empty)
      [.create 0 (ldap "a") [], .process 0 none ⟨.error "not found", fun _ => none⟩ none]).res i =
      some q → q.pending = true → i ∈ [0] := fun i q hq _ => by
    by_cases hi : i = 0
    · simp [hi]
    · have hne : ∀ ev ∈ [(.create 0 (ldap "a") [] : ClusterEvent ComponentStore KeycloakComponentSpec),
          .process 0 none ⟨.error "not found", fun _ => none⟩ none], ev.index ≠ some i ∧ ev ≠ .restart := by
        simp [ClusterEvent.index, Ne.symm hi]
      rw [run_res_of_ne _ hne] at hq
      cases hq
  exact ⟨fun _ => Nat.succ_pos _, hinj, namesUnique_empty, hevs, his,
    loop_settles (fun _ => Nat.succ_pos _) 60 hinj namesUnique_empty _ hevs _ his⟩

/-- A resource created without finalizers, reconciled, then deleted. -/
def deletingCluster : Cluster ComponentStore KeycloakComponentSpec :=
  Cluster.run (reconcile (fun _ => 30) 60) (.empty .empty)
    [.create 0 (ldap "a") [], .process 0 none (.ok "master") none, .markDeleted 0 5]

/-- The resource of `deletingCluster`: terminating, held by the controller's finalizer, queued by the deletion mark
and with the timer of `successReconcileTimeout` armed. -/
def deletingQueued : Queued KeycloakComponentSpec :=
  ⟨⟨some 5, [finalizerName], ldap "a", ⟨statusOK, 0⟩⟩, ⟨true, true⟩⟩

/-- **A realm component resource that holds the finalizer leaves the cluster only after its component is gone.** In
every run of the realm component loop over a store with unique names in which other writers leave stores with unique
names, when an event removes a resource that held the controller's finalizer, that event was a `Reconcile` of the
resource, and right after it the realm it resolved has no component of the resource's name. -/
theorem deleted_only_after_cleanup {timeout : Int → Nat} {t : Nat} {c : Cluster ComponentStore KeycloakComponentSpec}
    (hgood : c.store.NamesUnique) (evs : List (ClusterEvent ComponentStore KeycloakComponentSpec))
    (hevs : ∀ ev ∈ evs, ∀ s, ev = .external s → s.NamesUnique) {i : Nat} {q : Queued KeycloakComponentSpec}
    (hq : (Cluster.run (reconcile timeout t) c evs).res i = some q) (hfin : finalizerName ∈ q.obj.finalizers)
    (ev : ClusterEvent ComponentStore KeycloakComponentSpec)
    (hgone : (Cluster.run (reconcile timeout t) c (evs ++ [ev])).res i = none) :
    ∃ get env upd r, ev = .process i get env upd ∧ env.realm = .ok r ∧
      abstract (Cluster.run (reconcile timeout t) c (evs ++ [ev])).store r q.obj.spec.name = none := by
  rw [Cluster.run_append, Cluster.run_cons, Cluster.run_nil] at hgone ⊢
  exact step_gone_cleaned strategy_lawful (good_run strategy_lawful hgood evs hevs) hq hfin hgone

theorem deleted_only_after_cleanup_deleted :
    deletingCluster.store.NamesUnique ∧
      (∀ ev ∈ ([] : List (ClusterEvent ComponentStore KeycloakComponentSpec)), ∀ s, ev = .external s →
        s.NamesUnique) ∧
      (Cluster.run (reconcile (fun _ => 30) 60) deletingCluster []).res 0 = some deletingQueued ∧
      finalizerName ∈ deletingQueued.obj.finalizers ∧
      (Cluster.run (reconcile (fun _ => 30) 60) deletingCluster ([] ++ [.process 0 none (.ok "master") none])).res 0 =
        none ∧
      ∃ get env upd r, (.process 0 none (.ok "master") none : ClusterEvent ComponentStore KeycloakComponentSpec) =
          .process 0 get env upd ∧ env.realm = .ok r ∧
        abstract (Cluster.run (reconcile (fun _ => 30) 60) deletingCluster
          ([] ++ [.process 0 none (.ok "master") none])).store r deletingQueued.obj.spec.name = none := by
  have hgood : deletingCluster.store.NamesUnique := good_run strategy_lawful namesUnique_empty _ (by simp)
  have hq : (Cluster.run (reconcile (fun _ => 30) 60) deletingCluster []).res 0 = some deletingQueued := by decide
  have hgone : (Cluster.run (reconcile (fun _ => 30) 60) deletingCluster
      ([] ++ [.process 0 none (.ok "master") none])).res 0 = none := by decide
  have hfin : finalizerName ∈ deletingQueued.obj.finalizers := List.mem_singleton_self _
  exact ⟨hgood, fun _ h => (nomatch h), hq, hfin, hgone,
    deleted_only_after_cleanup hgood [] (fun _ h => (nomatch h)) hq hfin _ hgone⟩

end RealmComponent

/-! ## Auth flows -/

namespace AuthFlow

/-- The auth flow controller's writes, read through `flowAt`, on every store. -/
theorem strategy_lawful : strategy.Lawful FlowStore.flowAt authFlowSpecToAdapterAuthFlow fun _ => True where
  sync_good _ _ := trivial
  sync_view _ hs _ _ := by
    rw [syncAuthFlow_ok hs, FlowStore.flowAt_syncAuthFlow, alias_authFlowSpecToAdapterAuthFlow]; rfl
  term_good _ _ := trivial
  term_view _ ht _ _ := by rw [makeTerminator_ok ht, FlowStore.flowAt_deleteAuthFlow]

/-- **The auth flow loop converges.** With a positive failure delay, in every run from an empty cluster in which each
resource keeps its realm and alias, no two resources of a realm share an alias, and no one else writes the service,
every resource that is neither pending nor terminating has its converted spec as the flow under its realm and
alias. -/
theorem loop_converges_by_alias {timeout : Int → Nat} (htimeout : ∀ n, 0 < timeout n) {realmOf aliasOf : Nat → String}
    (hinj : ∀ i j, i ≠ j → realmOf i = realmOf j → aliasOf i ≠ aliasOf j) (s₀ : FlowStore)
    (evs : List (ClusterEvent FlowStore KeycloakAuthFlowSpec))
    (hevs : ∀ ev ∈ evs, Respects strategy realmOf aliasOf ev) :
    ∀ i q, (Cluster.run (reconcile timeout) (.empty s₀) evs).res i = some q → q.pending = false →
      q.obj.deletionTimestamp = none →
      (Cluster.run (reconcile timeout) (.empty s₀) evs).store.flowAt (realmOf i) (aliasOf i) =
        some (authFlowSpecToAdapterAuthFlow q.obj.spec) :=
  (loopInv_run strategy_lawful htimeout hinj (loopInv_empty realmOf aliasOf trivial) evs hevs).converged

theorem loop_converges_by_alias_created :
    (∀ n : Int, 0 < (fun _ => 30 : Int → Nat) n) ∧
      (∀ i j, i ≠ j → realmAt i = realmAt j → (fun _ => "browser" : Nat → String) i ≠ (fun _ => "browser") j) ∧
      (∀ ev ∈ [.create 0 browserFlow [], .process 0 none (.ok "master") none],
        Respects strategy realmAt (fun _ => "browser") ev) ∧
      ∀ i q, (Cluster.run (reconcile (fun _ => 30)) (.empty .empty)
          [.create 0 browserFlow [], .process 0 none (.ok "master") none]).res i = some q → q.pending = false →
        q.obj.deletionTimestamp = none →
        (Cluster.run (reconcile (fun _ => 30)) (.empty .empty)
          [.create 0 browserFlow [], .process 0 none (.ok "master") none]).store.flowAt (realmAt i) "browser" =
          some (authFlowSpecToAdapterAuthFlow q.obj.spec) :=
  have hevs : ∀ ev ∈ [.create 0 browserFlow [], .process 0 none (.ok "master") none],
      Respects strategy realmAt (fun _ => "browser") ev := by simp [Respects, strategy, browserFlow, realmAt, Env.ok]
  ⟨fun _ => Nat.succ_pos _, realmAt_sep _, hevs,
    loop_converges_by_alias (fun _ => Nat.succ_pos _) (realmAt_sep _) _ _ hevs⟩

/-- **A change by another writer under a quiet resource stays.** Once an auth flow resource is neither pending (no
request queued, no timer armed) nor terminating, the controller does not come back to it: through every respecting
run that neither edits nor marks it and does not restart the manager, the resource stays as it is, and the flow under
its realm and alias stays whatever another writer left, even when the flow was removed. -/
theorem external_change_persists {timeout : Int → Nat} {realmOf aliasOf : Nat → String}
    (hinj : ∀ i j, i ≠ j → realmOf i = realmOf j → aliasOf i ≠ aliasOf j) {c : Cluster FlowStore KeycloakAuthFlowSpec}
    (hkeys : KeysFixed strategy aliasOf c) {i : Nat} {q : Queued KeycloakAuthFlowSpec} (hq : c.res i = some q)
    (hp : q.pending = false) (hactive : q.obj.deletionTimestamp = none) (s : FlowStore)
    (evs : List (ClusterEvent FlowStore KeycloakAuthFlowSpec))
    (hevs : ∀ ev ∈ evs, Respects strategy realmOf aliasOf ev ∧ Quiet i ev) :
    (Cluster.run (reconcile timeout) c (.external s :: evs)).res i = some q ∧
      (Cluster.run (reconcile timeout) c (.external s :: evs)).store.flowAt (realmOf i) (aliasOf i) =
        s.flowAt (realmOf i) (aliasOf i) :=
  run_quiet (c := ⟨s, c.res, c.orphan⟩) strategy_lawful hinj trivial hkeys hq hp hactive evs hevs

/-- A `browser` resource, reconciled once. -/
def browserCluster : Cluster FlowStore KeycloakAuthFlowSpec :=
  Cluster.run (reconcile (fun _ => 30)) (.empty .empty) [.create 0 browserFlow [], .process 0 none (.ok "master") none]

/-- The resource of `browserCluster`: reconciled, with the finalizer, not pending. -/
def browserQueued : Queued KeycloakAuthFlowSpec := ⟨⟨none, [finalizerName], browserFlow, ⟨statusOK, 0⟩⟩, .idle⟩

theorem external_change_persists_removed :
    (∀ i j, i ≠ j → realmAt i = realmAt j → (fun _ => "browser" : Nat → String) i ≠ (fun _ => "browser") j) ∧
      KeysFixed strategy (fun _ => "browser") browserCluster ∧ browserCluster.res 0 = some browserQueued ∧
      browserQueued.pending = false ∧ browserQueued.obj.deletionTimestamp = none ∧
      (∀ ev ∈ [.resync 0, .fire 0, .process 0 none (.ok "master") none],
        Respects strategy realmAt (fun _ => "browser") ev ∧ Quiet 0 ev) ∧
      (Cluster.run (reconcile (fun _ => 30)) browserCluster
          [.external .empty, .resync 0, .fire 0, .process 0 none (.ok "master") none]).res 0 = some browserQueued ∧
      (Cluster.run (reconcile (fun _ => 30)) browserCluster
          [.external .empty, .resync 0, .fire 0, .process 0 none (.ok "master") none]).store.flowAt (realmAt 0)
          "browser" = FlowStore.empty.flowAt (realmAt 0) "browser" := by
  have hinj := realmAt_sep "browser"
  have hkeys : KeysFixed strategy (fun _ => "browser") browserCluster :=
    (loopInv_run strategy_lawful (fun _ => Nat.succ_pos 29) hinj (loopInv_empty realmAt _ trivial) _
      (by simp [Respects, strategy, browserFlow, realmAt, Env.ok])).keys
  have hq : browserCluster.res 0 = some browserQueued := by decide
  have hevs : ∀ ev ∈ [.resync 0, .fire 0, .process 0 none (.ok "master") none],
      Respects strategy realmAt (fun _ => "browser") ev ∧ Quiet 0 ev := by
    simp [Respects, Quiet, realmAt, Env.ok]
  exact ⟨hinj, hkeys, hq, rfl, rfl, hevs, external_change_persists hinj hkeys hq rfl rfl _ _ hevs⟩

/-- **Resources of one alias share one flow.** When the worker takes the request of a terminating auth flow resource
and its attempt succeeds, the flow under its realm and alias is removed, though another resource of the same alias is
left as it is; and when that one is neither pending nor terminating, it stays so through every run that neither edits
nor marks it and does not restart the manager: no `Reconcile` of it writes the flow back. -/
theorem shared_alias_removed {timeout : Int → Nat} {c : Cluster FlowStore KeycloakAuthFlowSpec} {i j : Nat}
    (hji : j ≠ i) {qi qj : Queued KeycloakAuthFlowSpec} (hqi : c.res i = some qi) (hpi : qi.entry.queued = true)
    (hdel : qi.obj.deletionTimestamp.isSome) (hqj : c.res j = some qj) (hpj : qj.pending = false)
    (hactive : qj.obj.deletionTimestamp = none) (halias : qj.obj.spec.alias_ = qi.obj.spec.alias_) {env : Env}
    {upd : Option String} (hok : (tryReconcile env ⟨c.store, qi.obj⟩).1 = none) :
    ∃ r, env.realm = .ok r ∧
      (Cluster.step (reconcile timeout) c (.process i none env upd)).store.flowAt r qj.obj.spec.alias_ = none ∧
      ∀ evs, (∀ ev ∈ evs, Quiet j ev) →
        (Cluster.run (reconcile timeout) (Cluster.step (reconcile timeout) c (.process i none env upd)) evs).res j =
          some qj := by
  obtain ⟨r, hr, hres, hview⟩ := process_clears_shared strategy_lawful trivial hji hqi hpi hdel hqj halias hok
  exact ⟨r, hr, hview, fun evs hevs => run_quiet_res hres hpj hactive evs hevs⟩

/-- Two `browser` resources in one realm, both reconciled, the first then deleted. -/
def sharedCluster : Cluster FlowStore KeycloakAuthFlowSpec :=
  Cluster.run (reconcile (fun _ => 30)) (.empty .empty)
    [.create 0 browserFlow [], .create 1 browserFlow [], .process 0 none (.ok "master") none,
      .process 1 none (.ok "master") none, .markDeleted 0 5]

/-- The deleted resource of `sharedCluster`: terminating, with the finalizer, queued by the deletion mark. -/
def deletedQueued : Queued KeycloakAuthFlowSpec := ⟨⟨some 5, [finalizerName], browserFlow, ⟨statusOK, 0⟩⟩, ⟨true, false⟩⟩

theorem shared_alias_removed_browser :
    (1 : Nat) ≠ 0 ∧ sharedCluster.res 0 = some deletedQueued ∧ deletedQueued.entry.queued = true ∧
      deletedQueued.obj.deletionTimestamp.isSome ∧
      sharedCluster.res 1 = some browserQueued ∧ browserQueued.pending = false ∧
      browserQueued.obj.deletionTimestamp = none ∧ browserQueued.obj.spec.alias_ = deletedQueued.obj.spec.alias_ ∧
      (tryReconcile (.ok "master") ⟨sharedCluster.store, deletedQueued.obj⟩).1 = none ∧
      ∃ r, (Env.ok "master").realm = .ok r ∧
        (Cluster.step (reconcile (fun _ => 30)) sharedCluster (.process 0 none (.ok "master") none)).store.flowAt r
          browserQueued.obj.spec.alias_ = none ∧
        ∀ evs, (∀ ev ∈ evs, Quiet 1 ev) →
          (Cluster.run (reconcile (fun _ => 30))
            (Cluster.step (reconcile (fun _ => 30)) sharedCluster (.process 0 none (.ok "master") none)) evs).res 1 =
            some browserQueued := by
  have h0 : sharedCluster.res 0 = some deletedQueued := by decide
  have h1 : sharedCluster.res 1 = some browserQueued := by decide
  have hok : (tryReconcile (.ok "master") ⟨sharedCluster.store, deletedQueued.obj⟩).1 = none := by decide
  exact ⟨by decide, h0, rfl, rfl, h1, rfl, rfl, rfl, hok, shared_alias_removed (by decide) h0 rfl rfl h1 rfl rfl rfl hok⟩

end AuthFlow

/-- **An idle resource shows `OK`.** With a positive failure delay, in every run from an empty cluster, other writers
included, every resource of either controller that is not pending shows `OK` and no failures: a resource whose status
shows an error is always pending for another `Reconcile`. For the realm component controller a resource is ever not
pending only when `successReconcileTimeout` is zero; with a positive one every resource stays pending
(`RealmComponent.loop_repairs`), and what the loop reaches is said by `RealmComponent.loop_settles`. -/
theorem idle_resources_show_ok {timeout : Int → Nat} (htimeout : ∀ n, 0 < timeout n) (t : Nat) (s₀ : ComponentStore)
    (f₀ : FlowStore) (evs : List (ClusterEvent ComponentStore KeycloakComponentSpec))
    (evs' : List (ClusterEvent FlowStore KeycloakAuthFlowSpec)) :
    (∀ i q, (Cluster.run (RealmComponent.reconcile timeout t) (.empty s₀) evs).res i = some q →
      q.pending = false → q.obj.status = ⟨statusOK, 0⟩) ∧
    ∀ i q, (Cluster.run (AuthFlow.reconcile timeout) (.empty f₀) evs').res i = some q →
      q.pending = false → q.obj.status = ⟨statusOK, 0⟩ :=
  ⟨idleOK_run htimeout (idleOK_empty s₀) evs, idleOK_run htimeout (idleOK_empty f₀) evs'⟩

theorem idle_resources_show_ok_failed :
    (∀ n : Int, 0 < (fun _ => 30 : Int → Nat) n) ∧
      (Cluster.run (RealmComponent.reconcile (fun _ => 30) 0) (.empty .empty)
          [.create 0 (RealmComponent.ldap "a") [], .process 0 none ⟨.error "not found", fun _ => none⟩ none]).res 0 =
        some ⟨{ Object.created (RealmComponent.ldap "a") with
          status := ⟨"unable to get realm owner ref: not found", 1⟩ }, ⟨false, true⟩⟩ ∧
      (Cluster.run (AuthFlow.reconcile (fun _ => 30)) (.empty .empty)
          [.create 0 AuthFlow.browserFlow [], .process 0 none (.ok "master") none]).res 0 =
        some AuthFlow.browserQueued ∧
      (∀ i q, (Cluster.run (RealmComponent.reconcile (fun _ => 30) 0) (.empty .empty)
          [.create 0 (RealmComponent.ldap "a") [], .process 0 none ⟨.error "not found", fun _ => none⟩ none]).res i =
            some q → q.pending = false → q.obj.status = ⟨statusOK, 0⟩) ∧
      ∀ i q, (Cluster.run (AuthFlow.reconcile (fun _ => 30)) (.empty .empty)
          [.create 0 AuthFlow.browserFlow [], .process 0 none (.ok "master") none]).res i = some q →
        q.pending = false → q.obj.status = ⟨statusOK, 0⟩ :=
  ⟨fun _ => Nat.succ_pos _, by decide, by decide, idle_resources_show_ok (fun _ => Nat.succ_pos _) 0 _ _ _ _⟩

end KeycloakOperator
