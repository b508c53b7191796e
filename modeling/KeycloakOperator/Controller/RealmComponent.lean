import KeycloakOperator.Adapter.Component
import KeycloakOperator.Controller.RealmChild

/-!
# The realm component controller

`tryReconcile` of the realm component controller is the common reconcile with `syncComponent` (look the component up
by name; update it under its ID, or create it) and a terminator for the component of the spec's name.

- a successful write leaves `upsert` (`syncComponent_ok`), and on an active resource so does a successful attempt
  (`tryReconcile_active_store`);
- with at most one component of the name in the realm, `upsert` leaves exactly one, carrying the spec (`named_upsert`),
  keeps every other key (`others_upsert`), and is idempotent (`upsert_idem`);
- hence reconciliation converges and a second success changes nothing (`tryReconcile_converges`).
-/

namespace KeycloakOperator

/-- `v1alpha1.KeycloakComponentSpec`, the fields the controller reads. -/
structure KeycloakComponentSpec where
  name : String
  providerID : String
  providerType : String
  config : List (String × List String)
deriving DecidableEq, Repr

namespace RealmComponent

open ComponentStore

/-- `finalizerName`. -/
def finalizerName : String := "keycloak.realmcomponent.operator.finalizer.name"

/-- `createKeycloakComponentFromSpec`; the ID stays at its zero value. -/
def createKeycloakComponentFromSpec (spec : KeycloakComponentSpec) : Component :=
  { id := 0, name := spec.name, config := spec.config, providerID := spec.providerID,
    providerType := spec.providerType }

/-- The errors of `GetComponent`: the typed not-found error, or any other. -/
inductive GetError
  | notFound
  | other (err : String)

/-- `kClient.GetComponent`: the environment's error for the call, or the store's answer. -/
def getComponent (fault : Call → Option String) (s : ComponentStore) (realmName name : String) :
    Except GetError Component :=
  match fault .getComponent, s.getComponent realmName name with
  | some err, _ => .error (.other err)
  | none, some c => .ok c
  | none, none => .error .notFound

/-- A write of the client: the environment's error for the call, or the written store. -/
def write (fault : Call → Option String) (c : Call) (s : ComponentStore) : Except String ComponentStore :=
  match fault c with
  | some err => .error err
  | none => .ok s

/-- Lines 111–126 of `tryReconcile`: the component is updated under its ID when `GetComponent` finds it, created
when it reports not-found. -/
def syncComponent (fault : Call → Option String) (realmName : String) (spec : KeycloakComponentSpec)
    (s : ComponentStore) : Except String ComponentStore :=
  let keycloakComponent := createKeycloakComponentFromSpec spec
  match getComponent fault s realmName spec.name with
  | .ok cmp =>
    match write fault .updateComponent (s.updateComponent realmName { keycloakComponent with id := cmp.id }) with
    | .error err => .error (wrap "unable to update component" err)
    | .ok s' => .ok s'
  | .error .notFound =>
    match write fault .createComponent (s.createComponent realmName keycloakComponent) with
    | .error err => .error (wrap "unable to create component" err)
    | .ok s' => .ok s'
  | .error (.other err) => .error (wrap "unable to get component, unexpected error" err)

/-- Modelled from the spec: the terminator of `makeTerminator realmName componentName` deletes the realm's component
with the name, and has nothing to do when there is none (§4.3). -/
def makeTerminator (fault : Call → Option String) (realmName componentName : String) (s : ComponentStore) :
    Except String ComponentStore :=
  match s.getComponent realmName componentName with
  | some c => write fault .deleteComponent (s.deleteComponent realmName c.id)
  | none => .ok s

/-- The controller's part of the common reconcile. -/
def strategy : Strategy ComponentStore KeycloakComponentSpec where
  sync := syncComponent
  makeTerminator := makeTerminator
  key := KeycloakComponentSpec.name
  finalizerName := finalizerName
  what := "realm component"

/-- `Reconcile.tryReconcile`. -/
def tryReconcile (env : Env) (w : World ComponentStore KeycloakComponentSpec) :
    Option String × World ComponentStore KeycloakComponentSpec :=
  tryReconcileWith strategy env w

/-- `Reconcile`: the common `Reconcile` with this controller's values. A success asks to be run again after
`successReconcileTimeout` (set by `SetupWithManager`), and the errors of `client.Get` and of the status write are
wrapped. -/
def reconcile (timeout : Int → Nat) (successReconcileTimeout : Nat) :
    Fetch → Option String → Env → World ComponentStore KeycloakComponentSpec →
      (Nat × Option String) × World ComponentStore KeycloakComponentSpec :=
  reconcileWith strategy timeout successReconcileTimeout (wrap "unable to get keycloak realm component from k8s")
    (wrap "unable to update status")

/-- `isSpecUpdated`. -/
def isSpecUpdated (e : UpdateEvent KeycloakComponentSpec) : Bool := KeycloakOperator.isSpecUpdated e

/-! ## A successful write -/

/-- The ID a successful write lands on: the found component's, or the fresh one. -/
def writtenID (realmName : String) (spec : KeycloakComponentSpec) (s : ComponentStore) : Nat :=
  match s.getComponent realmName spec.name with
  | some cmp => cmp.id
  | none => s.nextID

/-- The component a successful write leaves under `writtenID`. -/
def written (realmName : String) (spec : KeycloakComponentSpec) (s : ComponentStore) : Component :=
  { createKeycloakComponentFromSpec spec with id := writtenID realmName spec s }

/-- The store a successful write leaves. -/
def upsert (realmName : String) (spec : KeycloakComponentSpec) (s : ComponentStore) : ComponentStore :=
  match s.getComponent realmName spec.name with
  | some cmp => s.updateComponent realmName { createKeycloakComponentFromSpec spec with id := cmp.id }
  | none => s.createComponent realmName (createKeycloakComponentFromSpec spec)

variable {fault : Call → Option String} {realmName : String} {spec : KeycloakComponentSpec} {s s' : ComponentStore}

theorem syncComponent_ok (h : syncComponent fault realmName spec s = .ok s') : s' = upsert realmName spec s := by
  unfold syncComponent getComponent write at h
  unfold upsert
  cases hf : fault .getComponent <;> cases hg : s.getComponent realmName spec.name <;>
    cases hu : fault .updateComponent <;> cases hc : fault .createComponent <;> simp_all

/-- What the terminator can do: nothing when the realm holds no component of the name, or delete the first one. -/
theorem makeTerminator_ok {name : String} (h : makeTerminator fault realmName name s = .ok s') :
    (s.getComponent realmName name = none ∧ s' = s) ∨
      ∃ c, s.getComponent realmName name = some c ∧ s' = s.deleteComponent realmName c.id := by
  unfold makeTerminator write at h
  cases hg : s.getComponent realmName name with
  | none => simp only [hg, Except.ok.injEq] at h; exact .inl ⟨rfl, h.symm⟩
  | some c =>
    cases hf : fault .deleteComponent <;> simp only [hg, hf, Except.ok.injEq, reduceCtorEq] at h
    exact .inr ⟨c, rfl, h.symm⟩

theorem named_upsert (h1 : (s.named realmName spec.name).length ≤ 1) :
    (upsert realmName spec s).named realmName spec.name = [written realmName spec s] := by
  unfold upsert written writtenID
  cases hg : s.getComponent realmName spec.name with
  | some c₀ =>
    obtain ⟨h₀, hname⟩ := getComponent_spec hg
    dsimp only
    rw [named_updateComponent (c := { createKeycloakComponentFromSpec spec with id := c₀.id }) h₀ rfl hname,
      named_eq_of_getComponent hg h1]
    simp
  | none =>
    rw [named_createComponent, getComponent_eq_none.1 hg]
    simp [createKeycloakComponentFromSpec]

theorem others_upsert :
    (upsert realmName spec s).others (realmName, writtenID realmName spec s) =
      s.others (realmName, writtenID realmName spec s) := by
  unfold upsert writtenID
  cases s.getComponent realmName spec.name with
  | some c₀ => exact others_updateComponent realmName _
  | none => rw [others_createComponent, others_fresh]

theorem upsert_idem (h1 : (s.named realmName spec.name).length ≤ 1) :
    upsert realmName spec (upsert realmName spec s) = upsert realmName spec s := by
  have hn := named_upsert h1
  have hg : (upsert realmName spec s).getComponent realmName spec.name = some (written realmName spec s) := by
    rw [getComponent_eq_head, hn]; rfl
  rw [upsert, hg]
  exact updateComponent_self (mem_named.1 (hn ▸ List.mem_singleton_self _)).1

/-- An LDAP user-storage component named `name`. -/
def ldap (name : String) : KeycloakComponentSpec := ⟨name, "ldap", "org.keycloak.storage.UserStorageProvider", []⟩

/-- The LDAP component `name` in read-only edit mode. -/
def ldapReadOnly (name : String) : KeycloakComponentSpec := { ldap name with config := [("editMode", ["READ_ONLY"])] }

/-! ## Convergence -/

variable {env : Env} {w : World ComponentStore KeycloakComponentSpec}

/-- A successful attempt on an active resource leaves `upsert`. -/
theorem tryReconcile_active_store (hactive : w.obj.deletionTimestamp = none) (hok : (tryReconcile env w).1 = none) :
    ∃ realmName, env.realm = .ok realmName ∧
      (tryReconcile env w).2.store = upsert realmName w.obj.spec w.store := by
  obtain ⟨r, s, hs, hstore⟩ := tryReconcileWith_active hactive hok
  obtain ⟨hr, -, hsync⟩ := synced_eq_some hs
  exact ⟨r, hr, hstore.trans (syncComponent_ok hsync)⟩

/-- **Convergence and idempotence.** -/
theorem tryReconcile_converges (hrealm : env.realm = .ok realmName) (hactive : w.obj.deletionTimestamp = none)
    (h1 : (w.store.named realmName w.obj.spec.name).length ≤ 1) (hok : (tryReconcile env w).1 = none) :
    ∃ c, (tryReconcile env w).2.store.named realmName w.obj.spec.name = [c] ∧
      c.providerID = w.obj.spec.providerID ∧ c.providerType = w.obj.spec.providerType ∧
      c.config = w.obj.spec.config ∧ (∀ c₀ ∈ w.store.named realmName w.obj.spec.name, c.id = c₀.id) ∧
      (tryReconcile env w).2.store.others (realmName, c.id) = w.store.others (realmName, c.id) ∧
      ∀ (env' : Env) (obj : Object KeycloakComponentSpec), env'.realm = .ok realmName → obj.spec = w.obj.spec →
        obj.deletionTimestamp = none → (tryReconcile env' ⟨(tryReconcile env w).2.store, obj⟩).1 = none →
        (tryReconcile env' ⟨(tryReconcile env w).2.store, obj⟩).2.store = (tryReconcile env w).2.store := by
  obtain ⟨r, hr, hstore⟩ := tryReconcile_active_store hactive hok
  obtain rfl : r = realmName := Except.ok.inj (hr.symm.trans hrealm)
  rw [hstore]
  refine ⟨_, named_upsert h1, rfl, rfl, rfl, fun c₀ hc₀ => ?_, others_upsert,
    fun env' obj hr' hspec hactive' hok' => ?_⟩
  · have hg : w.store.getComponent r w.obj.spec.name = some c₀ := by
      rw [getComponent_eq_head]
      match hn : w.store.named r w.obj.spec.name, h1, hc₀ with
      | [x], _, hx => rw [List.mem_singleton.1 hx]; rfl
    simp [written, writtenID, hg]
  · obtain ⟨r', hr'', hstore'⟩ := tryReconcile_active_store hactive' hok'
    obtain rfl : r' = r := Except.ok.inj (hr''.symm.trans hr')
    rw [hstore', hspec, upsert_idem h1]

theorem tryReconcile_converges_created :
    ((Env.ok "master").realm = .ok "master" ∧ (Object.created (ldap "a")).deletionTimestamp = none ∧
      (ComponentStore.empty.named "master" "a").length ≤ 1 ∧
      (tryReconcile (.ok "master") ⟨.empty, .created (ldap "a")⟩).1 = none ∧
      ∃ c, (tryReconcile (.ok "master") ⟨.empty, .created (ldap "a")⟩).2.store.named "master" "a" = [c] ∧
        c.providerID = "ldap" ∧ c.providerType = "org.keycloak.storage.UserStorageProvider" ∧ c.config = [] ∧
        (∀ c₀ ∈ ComponentStore.empty.named "master" "a", c.id = c₀.id) ∧
        (tryReconcile (.ok "master") ⟨.empty, .created (ldap "a")⟩).2.store.others ("master", c.id) =
          ComponentStore.empty.others ("master", c.id) ∧
        ∀ (env' : Env) (obj : Object KeycloakComponentSpec), env'.realm = .ok "master" → obj.spec = ldap "a" →
          obj.deletionTimestamp = none →
          (tryReconcile env' ⟨(tryReconcile (.ok "master") ⟨.empty, .created (ldap "a")⟩).2.store, obj⟩).1 = none →
          (tryReconcile env' ⟨(tryReconcile (.ok "master") ⟨.empty, .created (ldap "a")⟩).2.store, obj⟩).2.store =
            (tryReconcile (.ok "master") ⟨.empty, .created (ldap "a")⟩).2.store) ∧
    ((Env.ok "master").realm = .ok "master" ∧ (Object.created (ldapReadOnly "a")).deletionTimestamp = none ∧
      ((upsert "master" (ldap "a") .empty).named "master" "a").length ≤ 1 ∧
      (tryReconcile (.ok "master") ⟨upsert "master" (ldap "a") .empty, .created (ldapReadOnly "a")⟩).1 = none ∧
      ∃ c, (tryReconcile (.ok "master")
          ⟨upsert "master" (ldap "a") .empty, .created (ldapReadOnly "a")⟩).2.store.named "master" "a" = [c] ∧
        c.providerID = "ldap" ∧ c.providerType = "org.keycloak.storage.UserStorageProvider" ∧
        c.config = [("editMode", ["READ_ONLY"])] ∧
        (∀ c₀ ∈ (upsert "master" (ldap "a") .empty).named "master" "a", c.id = c₀.id) ∧
        (tryReconcile (.ok "master")
            ⟨upsert "master" (ldap "a") .empty, .created (ldapReadOnly "a")⟩).2.store.others ("master", c.id) =
          (upsert "master" (ldap "a") .empty).others ("master", c.id) ∧
        ∀ (env' : Env) (obj : Object KeycloakComponentSpec), env'.realm = .ok "master" →
          obj.spec = ldapReadOnly "a" → obj.deletionTimestamp = none →
          (tryReconcile env' ⟨(tryReconcile (.ok "master")
            ⟨upsert "master" (ldap "a") .empty, .created (ldapReadOnly "a")⟩).2.store, obj⟩).1 = none →
          (tryReconcile env' ⟨(tryReconcile (.ok "master")
            ⟨upsert "master" (ldap "a") .empty, .created (ldapReadOnly "a")⟩).2.store, obj⟩).2.store =
            (tryReconcile (.ok "master")
              ⟨upsert "master" (ldap "a") .empty, .created (ldapReadOnly "a")⟩).2.store) :=
  ⟨⟨rfl, rfl, by decide, by decide, tryReconcile_converges rfl rfl (by decide) (by decide)⟩,
    ⟨rfl, rfl, by decide, by decide, tryReconcile_converges rfl rfl (by decide) (by decide)⟩⟩

end RealmComponent

end KeycloakOperator

