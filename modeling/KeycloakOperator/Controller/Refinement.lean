import KeycloakOperator.Controller.Runs

/-!
# The realm component controller refines setting a realm's spec under a name

What the controller is for, stated without IDs: the service holds at most one spec under each realm and name
(`Desired`), and an attempt on a resource either leaves it, sets the resource's spec under the realm it resolved and
the spec's name, or, once the resource is terminating, clears that name (`AbsAttempt`). A store is read this way
through `GetComponent` (`abstract`).

* On a store with unique names, `upsert` sets the spec and the terminator clears the name (`abstract_upsert`,
  `abstract_makeTerminator`), so every attempt is one of the abstract moves (`abstract_tryReconcile`) and a
  successful one is determined by the resource: it clears the name of a terminating resource and sets the spec
  otherwise (`abstract_tryReconcile_ok`).
* Every run keeps names unique, so every step of every run refines the abstract reconciler (`abstract_run`), and
  every successful attempt of every run makes the move its resource determines (`abstract_run_ok`).
-/

namespace KeycloakOperator

namespace RealmComponent

open ComponentStore

/-! ## The abstract service -/

/-- What the service holds under each realm and name: a spec, or nothing. -/
def Desired : Type := String → String → Option KeycloakComponentSpec

/-- `m` with `v` under realm `r` and name `n`. -/
def Desired.set (m : Desired) (r n : String) (v : Option KeycloakComponentSpec) : Desired :=
  fun r' n' => if r' = r ∧ n' = n then v else m r' n'

@[simp] theorem Desired.set_set (m : Desired) (r n : String) (v v' : Option KeycloakComponentSpec) :
    (m.set r n v).set r n v' = m.set r n v' := by
  funext r' n'
  unfold Desired.set
  split_ifs <;> rfl

/-- The spec a stored component carries. -/
def specOf (c : Component) : KeycloakComponentSpec := ⟨c.name, c.providerID, c.providerType, c.config⟩

@[simp] theorem specOf_written (realmName : String) (spec : KeycloakComponentSpec) (s : ComponentStore) :
    specOf (written realmName spec s) = spec := rfl

/-- A store as the controller sees it: the spec of the first component of each realm and name. -/
def abstract (s : ComponentStore) : Desired := fun r n => (s.getComponent r n).map specOf

/-- The abstract attempt of `env` on `obj`: leave the service, set the spec under the realm and the spec's name, or,
on a terminating resource, clear that name. -/
inductive AbsAttempt (env : Env) (obj : Object KeycloakComponentSpec) : Desired → Desired → Prop
  | keep (m : Desired) : AbsAttempt env obj m m
  | write (m : Desired) (r : String) : env.realm = .ok r →
      AbsAttempt env obj m (m.set r obj.spec.name (some obj.spec))
  | clear (m : Desired) (r : String) : env.realm = .ok r → obj.deletionTimestamp.isSome →
      AbsAttempt env obj m (m.set r obj.spec.name none)

/-- The abstract event: an edit and the deletion marker leave the service as it is. -/
def AbsEvent (obj : Object KeycloakComponentSpec) : Event KeycloakComponentSpec → Desired → Desired → Prop
  | .reconcile env, m, m' => AbsAttempt env obj m m'
  | .edit _, m, m' => m' = m
  | .markDeleted _, m, m' => m' = m

/-! ## The store operations, abstractly -/

variable {s s' : ComponentStore} {realmName : String} {spec : KeycloakComponentSpec}

/-- With unique names, a successful write sets the spec under its realm and name. -/
theorem abstract_upsert (h : s.NamesUnique) :
    abstract (upsert realmName spec s) = (abstract s).set realmName spec.name (some spec) := by
  funext r n
  unfold abstract Desired.set
  split_ifs with hk
  · obtain ⟨rfl, rfl⟩ := hk
    rw [getComponent_eq_head, named_upsert (h _ _)]
    rfl
  · congr 1
    unfold upsert
    cases hg : s.getComponent realmName spec.name with
    | some c₀ =>
      obtain ⟨h₀, hname⟩ := getComponent_spec hg
      have hid : c₀.id = ({ createKeycloakComponentFromSpec spec with id := c₀.id } : Component).id := rfl
      exact getComponent_updateComponent_of_ne h₀ hid hname hk
    | none => exact getComponent_createComponent_of_ne fun ⟨h₁, h₂⟩ => hk ⟨h₁.symm, h₂.symm⟩

/-- With unique names, the terminator clears its realm and name. -/
theorem abstract_makeTerminator {fault : Call → Option String} {name : String} (h : s.NamesUnique)
    (ht : makeTerminator fault realmName name s = .ok s') : abstract s' = (abstract s).set realmName name none := by
  funext r n
  unfold abstract Desired.set
  rcases makeTerminator_ok ht with ⟨hg, rfl⟩ | ⟨c, hg, rfl⟩
  · split_ifs with hk
    · obtain ⟨rfl, rfl⟩ := hk
      rw [hg]
      rfl
    · rfl
  · split_ifs with hk
    · obtain ⟨rfl, rfl⟩ := hk
      rw [getComponent_deleteComponent_self hg (h _ _)]
      rfl
    · rw [getComponent_deleteComponent_of_ne hg hk]

/-! ## Refinement -/

variable {env : Env} {w w₀ : World ComponentStore KeycloakComponentSpec}

/-- Every attempt on a store with unique names is an abstract attempt. -/
theorem abstract_tryReconcile (h : w.store.NamesUnique) (env : Env) :
    AbsAttempt env w.obj (abstract w.store) (abstract (tryReconcile env w).2.store) := by
  rcases tryReconcile_store env w with ⟨-, hst⟩ | ⟨r, hs, hst | ⟨hdel, hst⟩⟩
  · rw [hst]
    exact .keep _
  · rw [hst, abstract_upsert h]
    exact .write _ _ (synced_eq_some hs).1
  · rw [abstract_makeTerminator (namesUnique_upsert h) hst, abstract_upsert h, Desired.set_set]
    exact .clear _ _ (synced_eq_some hs).1 hdel

/-- **A success is determined by the resource.** On a store with unique names, a successful attempt clears the
realm's name of a terminating resource, and otherwise sets the resource's spec under it. -/
theorem abstract_tryReconcile_ok (h : w.store.NamesUnique) (hok : (tryReconcile env w).1 = none) :
    ∃ realmName, env.realm = .ok realmName ∧
      abstract (tryReconcile env w).2.store = (abstract w.store).set realmName w.obj.spec.name
        (if w.obj.deletionTimestamp.isSome then none else some w.obj.spec) := by
  by_cases hdel : w.obj.deletionTimestamp.isSome
  · obtain ⟨r, s₁, s₂, hs, ht, hstore⟩ := tryReconcileWith_terminating hdel hok
    obtain ⟨hr, -, hsync⟩ := synced_eq_some hs
    obtain rfl := syncComponent_ok hsync
    have ht : makeTerminator env.fault r w.obj.spec.name (upsert r w.obj.spec w.store) = .ok s₂ := ht
    refine ⟨r, hr, ?_⟩
    rw [if_pos hdel, tryReconcile, hstore, abstract_makeTerminator (namesUnique_upsert h) ht, abstract_upsert h,
      Desired.set_set]
  · obtain ⟨r, hr, hstore⟩ := tryReconcile_active_store (Option.not_isSome_iff_eq_none.1 hdel) hok
    refine ⟨r, hr, ?_⟩
    rw [if_neg hdel, hstore, abstract_upsert h]

/-- Every event on a store with unique names is an abstract event. -/
theorem abstract_step (h : w.store.NamesUnique) :
    ∀ ev, AbsEvent w.obj ev (abstract w.store) (abstract (World.step strategy w ev).store)
  | .edit _ => rfl
  | .markDeleted _ => rfl
  | .reconcile env => abstract_tryReconcile h env

/-- **Every step of every run refines the abstract reconciler.** From a store with unique names, whatever events
came before, the next event moves the abstract service as the abstract event of the resource at that point. -/
theorem abstract_run (h : w₀.store.NamesUnique) (pre : List (Event KeycloakComponentSpec))
    (ev : Event KeycloakComponentSpec) :
    AbsEvent (World.run strategy w₀ pre).obj ev (abstract (World.run strategy w₀ pre).store)
      (abstract (World.run strategy w₀ (pre ++ [ev])).store) := by
  rw [World.run_append]
  exact abstract_step (World.run_invariant (fun w : World ComponentStore KeycloakComponentSpec => w.store.NamesUnique)
    (fun _ ev h => namesUnique_step h ev) pre h) ev

/-- **Every successful attempt of every run makes the move its resource determines.** From a store with unique names,
whatever events came before, a successful attempt clears the realm's name of a terminating resource and otherwise sets
the resource's spec under it, and leaves every other realm and name as it was. -/
theorem abstract_run_ok (h : w₀.store.NamesUnique) (pre : List (Event KeycloakComponentSpec)) (env : Env)
    (hok : (tryReconcile env (World.run strategy w₀ pre)).1 = none) :
    ∃ realmName, env.realm = .ok realmName ∧
      abstract (World.run strategy w₀ (pre ++ [.reconcile env])).store =
        (abstract (World.run strategy w₀ pre).store).set realmName (World.run strategy w₀ pre).obj.spec.name
          (if (World.run strategy w₀ pre).obj.deletionTimestamp.isSome then none
            else some (World.run strategy w₀ pre).obj.spec) := by
  rw [World.run_append]
  exact abstract_tryReconcile_ok (namesUnique_run h pre) hok

theorem abstract_run_ok_deleted :
    ComponentStore.empty.NamesUnique ∧
      (tryReconcile (.ok "master") (World.run strategy ⟨.empty, .created (ldap "a")⟩
        [.reconcile (.ok "master"), .markDeleted 1])).1 = none ∧
      ∃ realmName, (Env.ok "master").realm = .ok realmName ∧
        abstract (World.run strategy ⟨.empty, .created (ldap "a")⟩
            ([.reconcile (.ok "master"), .markDeleted 1] ++ [.reconcile (.ok "master")])).store =
          (abstract (World.run strategy ⟨.empty, .created (ldap "a")⟩
              [.reconcile (.ok "master"), .markDeleted 1]).store).set realmName
            (World.run strategy ⟨.empty, .created (ldap "a")⟩
              [.reconcile (.ok "master"), .markDeleted 1]).obj.spec.name
            (if (World.run strategy ⟨.empty, .created (ldap "a")⟩
                [.reconcile (.ok "master"), .markDeleted 1]).obj.deletionTimestamp.isSome then none
              else some (World.run strategy ⟨.empty, .created (ldap "a")⟩
                [.reconcile (.ok "master"), .markDeleted 1]).obj.spec) :=
  ⟨namesUnique_empty, by decide, abstract_run_ok namesUnique_empty _ _ (by decide)⟩

theorem abstract_run_renamed :
    ComponentStore.empty.NamesUnique ∧
      AbsEvent (World.run strategy ⟨.empty, .created (ldap "a")⟩ [.reconcile (.ok "master"), .edit (ldap "b")]).obj
        (.reconcile (.ok "master"))
        (abstract (World.run strategy ⟨.empty, .created (ldap "a")⟩
          [.reconcile (.ok "master"), .edit (ldap "b")]).store)
        (abstract (World.run strategy ⟨.empty, .created (ldap "a")⟩
          ([.reconcile (.ok "master"), .edit (ldap "b")] ++ [.reconcile (.ok "master")])).store) :=
  ⟨namesUnique_empty, abstract_run namesUnique_empty _ _⟩

end RealmComponent

end KeycloakOperator
