import KeycloakOperator.Controller.RealmComponent
import KeycloakOperator.Controller.AuthFlow

/-!
# Runs of the realm-child controllers: what the final delete removes

A run is any sequence of spec edits, the deletion marker and reconcile attempts, each of which may fail at any call.
Every attempt that gets past the write created or updated one component (`writes`); `runWrites` collects them.

- What an attempt does to the store: nothing, the write, or the write and the terminator (`tryReconcile_store`).
- No run gives a realm two components of one name (`namesUnique_run`), so in every run each success on an active
  resource converges (`run_attempt_converges`).
- The invariant `WritesFirst`: every write still stored is the first component of the realm and name it was
  written under. Writes keep it (`writesFirst_upsert`), the terminator keeps it (`writesFirst_makeTerminator`), so
  every step and every run does (`writesFirst_step`, `writesFirst_run`).
- When the run ends with a successful attempt on a terminating resource that holds the finalizer, nothing the run
  wrote under the final realm and name is left, and every component of another realm or name is left as it was
  (`final_attempt`; for auth flows, keyed on the alias, likewise; both in `deletion_removes_final_pair`). A rename
  therefore leaves the old component behind (`rename_leaves_component`); without a rename or a realm change the
  cleanup is complete (`cleanup_complete_of_stable`).
- For both controllers, a run takes the finalizer off the resource only through an attempt on the terminating
  resource whose terminator succeeded (`run_finalizer_removed`).
-/

namespace KeycloakOperator

namespace RealmComponent

open ComponentStore

/-! ## One attempt -/

variable {env : Env} {w : World ComponentStore KeycloakComponentSpec}

/-- The store after an attempt: unchanged, the write, or the write followed by the terminator, on a terminating
resource. -/
theorem tryReconcile_store (env : Env) (w : World ComponentStore KeycloakComponentSpec) :
    (synced strategy env w = none ∧ (tryReconcile env w).2.store = w.store) ∨
      ∃ realmName, synced strategy env w = some (realmName, upsert realmName w.obj.spec w.store) ∧
        ((tryReconcile env w).2.store = upsert realmName w.obj.spec w.store ∨
          w.obj.deletionTimestamp.isSome ∧
            makeTerminator env.fault realmName w.obj.spec.name (upsert realmName w.obj.spec w.store) =
              .ok (tryReconcile env w).2.store) := by
  cases hs : synced strategy env w with
  | none => exact .inl ⟨rfl, congrArg World.store (tryReconcileWith_of_synced_none hs).1⟩
  | some p =>
    obtain ⟨r, s⟩ := p
    obtain rfl := syncComponent_ok (synced_eq_some hs).2.2
    refine .inr ⟨r, rfl, ?_⟩
    rw [tryReconcile, (tryReconcileWith_of_synced hs).1]
    rcases tryToDelete_store with h | ⟨hdel, s', hd, h⟩
    · exact .inl h
    · exact .inr ⟨hdel, h ▸ hd⟩

/-! ## Names stay unique -/

variable {s s' : ComponentStore} {realmName : String} {spec : KeycloakComponentSpec}

theorem namesUnique_upsert (h : s.NamesUnique) : (upsert realmName spec s).NamesUnique := by
  unfold upsert
  cases hg : s.getComponent realmName spec.name with
  | some c₀ =>
    obtain ⟨h₀, hname⟩ := getComponent_spec hg
    exact namesUnique_updateComponent h h₀ rfl hname
  | none => exact namesUnique_createComponent h (getComponent_eq_none.1 hg)

theorem namesUnique_makeTerminator {fault : Call → Option String} {name : String} (h : s.NamesUnique)
    (ht : makeTerminator fault realmName name s = .ok s') : s'.NamesUnique := by
  rcases makeTerminator_ok ht with ⟨-, rfl⟩ | ⟨c, -, rfl⟩
  · exact h
  · exact namesUnique_deleteComponent h _ _

theorem namesUnique_step (h : w.store.NamesUnique) (ev : Event KeycloakComponentSpec) :
    (World.step strategy w ev).store.NamesUnique := by
  cases ev with
  | edit spec => exact h
  | markDeleted t => exact h
  | reconcile env =>
    rcases tryReconcile_store env w with ⟨-, hst⟩ | ⟨r, -, hst | ⟨-, hst⟩⟩
    · exact hst ▸ h
    · exact hst ▸ namesUnique_upsert h
    · exact namesUnique_makeTerminator (namesUnique_upsert h) hst

/-- **No run gives a realm two components of one name.** -/
theorem namesUnique_run (h : w.store.NamesUnique) (evs : List (Event KeycloakComponentSpec)) :
    (World.run strategy w evs).store.NamesUnique :=
  World.run_invariant (fun w : World ComponentStore KeycloakComponentSpec => w.store.NamesUnique)
    (fun _ ev h => namesUnique_step h ev) evs h

theorem namesUnique_run_renamed :
    ComponentStore.empty.NamesUnique ∧
      (World.run strategy ⟨.empty, .created (ldap "a")⟩
        [.reconcile (.ok "master"), .edit (ldap "b"), .reconcile (.ok "master")]).store.NamesUnique :=
  ⟨namesUnique_empty, namesUnique_run namesUnique_empty _⟩

/-- **Every success on an active resource converges, in every run.** From a store with unique names, after any run,
a successful attempt on an active resource leaves exactly one component of the spec's name in the realm it found,
and that component carries the spec. -/
theorem run_attempt_converges {w₀ : World ComponentStore KeycloakComponentSpec} (h : w₀.store.NamesUnique)
    (evs : List (Event KeycloakComponentSpec)) (env : Env)
    (hactive : (World.run strategy w₀ evs).obj.deletionTimestamp = none)
    (hok : (tryReconcile env (World.run strategy w₀ evs)).1 = none) :
    ∃ realmName c, env.realm = .ok realmName ∧
      (tryReconcile env (World.run strategy w₀ evs)).2.store.named realmName
        (World.run strategy w₀ evs).obj.spec.name = [c] ∧
      c.providerID = (World.run strategy w₀ evs).obj.spec.providerID ∧
      c.providerType = (World.run strategy w₀ evs).obj.spec.providerType ∧
      c.config = (World.run strategy w₀ evs).obj.spec.config := by
  obtain ⟨r, hr, hstore⟩ := tryReconcile_active_store hactive hok
  have hu := World.run_invariant (fun w : World ComponentStore KeycloakComponentSpec => w.store.NamesUnique)
    (fun _ ev h => namesUnique_step h ev) evs h
  rw [hstore]
  exact ⟨r, _, hr, named_upsert (hu r _), rfl, rfl, rfl⟩

theorem run_attempt_converges_renamed :
    ComponentStore.empty.NamesUnique ∧
      (World.run strategy ⟨.empty, .created (ldap "a")⟩
        [.reconcile (.ok "master"), .edit (ldap "b")]).obj.deletionTimestamp = none ∧
      (tryReconcile (.ok "master") (World.run strategy ⟨.empty, .created (ldap "a")⟩
        [.reconcile (.ok "master"), .edit (ldap "b")])).1 = none ∧
      ∃ realmName c, (Env.ok "master").realm = .ok realmName ∧
        (tryReconcile (.ok "master") (World.run strategy ⟨.empty, .created (ldap "a")⟩
          [.reconcile (.ok "master"), .edit (ldap "b")])).2.store.named realmName "b" = [c] ∧
        c.providerID = "ldap" ∧ c.providerType = "org.keycloak.storage.UserStorageProvider" ∧ c.config = [] :=
  ⟨namesUnique_empty, rfl, by decide, run_attempt_converges namesUnique_empty _ _ rfl (by decide)⟩

/-! ## Writes -/

/-- A component an attempt created or updated: the realm and name it was written under, and its ID. -/
structure Write where
  realm : String
  name : String
  id : Nat
deriving DecidableEq, Repr

/-- What an attempt created or updated: one component when it got past the write, none otherwise. -/
def writes (env : Env) (w : World ComponentStore KeycloakComponentSpec) : List Write :=
  match synced strategy env w with
  | some (realmName, _) => [⟨realmName, w.obj.spec.name, writtenID realmName w.obj.spec w.store⟩]
  | none => []

/-- A write is under the realm the attempt resolved and the spec's name. -/
theorem mem_writes {env : Env} {w : World ComponentStore KeycloakComponentSpec} {x : Write} (hx : x ∈ writes env w) :
    env.realm = .ok x.realm ∧ x.name = w.obj.spec.name := by
  unfold writes at hx
  split at hx
  · obtain rfl := List.mem_singleton.1 hx
    exact ⟨(synced_eq_some ‹_›).1, rfl⟩
  · cases hx

/-! ## The invariant -/

/-- Every write has an ID the service has handed out, and each write still stored is the first component of the
realm and name it was written under. -/
structure WritesFirst (s : ComponentStore) (ws : List Write) : Prop where
  id_lt : ∀ x ∈ ws, x.id < s.nextID
  first : ∀ x ∈ ws, (x.realm, x.id) ∈ s.keys → (s.getComponent x.realm x.name).map Component.id = some x.id

variable {ws : List Write}

theorem writesFirst_nil (s : ComponentStore) : WritesFirst s [] := ⟨by simp, by simp⟩

/-- A write that keeps the invariant for itself can be added to it. -/
theorem WritesFirst.snoc {x : Write} (h : WritesFirst s ws) (hlt : x.id < s.nextID)
    (hfirst : (x.realm, x.id) ∈ s.keys → (s.getComponent x.realm x.name).map Component.id = some x.id) :
    WritesFirst s (ws ++ [x]) := by
  refine ⟨fun y hy => ?_, fun y hy => ?_⟩ <;> obtain hy | hy := List.mem_append.1 hy
  · exact h.id_lt y hy
  · exact List.mem_singleton.1 hy ▸ hlt
  · exact h.first y hy
  · exact List.mem_singleton.1 hy ▸ hfirst

theorem writesFirst_updateComponent {realm : String} {c₀ c : Component} (h : WritesFirst s ws)
    (h₀ : (realm, c₀) ∈ s.components) (hid : c₀.id = c.id) (hname : c₀.name = c.name) :
    WritesFirst (s.updateComponent realm c) ws :=
  ⟨fun x hx => by simpa using h.id_lt x hx, fun x hx hk => by
    rw [getComponent_updateComponent h₀ hid hname]; exact h.first x hx (by simpa using hk)⟩

theorem writesFirst_createComponent {realm : String} {c : Component} (h : WritesFirst s ws) :
    WritesFirst (s.createComponent realm c) ws := by
  refine ⟨fun x hx => by simpa using Nat.lt_succ_of_lt (h.id_lt x hx), fun x hx hk => ?_⟩
  simp only [keys_createComponent, List.mem_append, List.mem_singleton] at hk
  rw [getComponent_createComponent]
  rcases hk with hk | hk
  · obtain ⟨c', hc, hid⟩ := Option.map_eq_some'.1 (h.first x hx hk)
    simp [hc, hid]
  · exact absurd (congrArg Prod.snd hk) (h.id_lt x hx).ne

theorem writesFirst_deleteComponent (h : WritesFirst s ws) (realm : String) (id : Nat) :
    WritesFirst (s.deleteComponent realm id) ws := by
  refine ⟨fun x hx => by simpa using h.id_lt x hx, fun x hx hk => ?_⟩
  simp only [keys_deleteComponent, List.mem_filter, decide_eq_true_eq] at hk
  obtain ⟨c', hc', hid⟩ := Option.map_eq_some'.1 (h.first x hx hk.1)
  rw [getComponent_deleteComponent hc' (by rw [hid]; exact hk.2), Option.map_some', hid]

/-- A write keeps the invariant, and adds itself to it. -/
theorem writesFirst_upsert (h : WritesFirst s ws) :
    WritesFirst (upsert realmName spec s) (ws ++ [⟨realmName, spec.name, writtenID realmName spec s⟩]) := by
  unfold upsert writtenID
  cases hg : s.getComponent realmName spec.name with
  | some c₀ =>
    obtain ⟨h₀, hname⟩ := getComponent_spec hg
    have hid : c₀.id = ({ createKeycloakComponentFromSpec spec with id := c₀.id } : Component).id := rfl
    refine (writesFirst_updateComponent h h₀ hid hname).snoc (by simpa using s.id_lt _ h₀) fun _ => ?_
    rw [getComponent_updateComponent h₀ hid hname, hg]
    rfl
  | none =>
    refine (writesFirst_createComponent h).snoc (by simp) fun _ => ?_
    simp [getComponent_createComponent, hg, createKeycloakComponentFromSpec]

/-- The terminator keeps the invariant. -/
theorem writesFirst_makeTerminator {fault : Call → Option String} {name : String} (h : WritesFirst s ws)
    (ht : makeTerminator fault realmName name s = .ok s') : WritesFirst s' ws := by
  rcases makeTerminator_ok ht with ⟨-, rfl⟩ | ⟨c, -, rfl⟩
  · exact h
  · exact writesFirst_deleteComponent h _ _

/-- **One step keeps the invariant.** -/
theorem writesFirst_step (h : WritesFirst w.store ws) (ev : Event KeycloakComponentSpec) :
    WritesFirst (World.step strategy w ev).store (ws ++ stepWrites writes w ev) := by
  cases ev with
  | edit spec => simpa [World.step, stepWrites] using h
  | markDeleted t => simpa [World.step, stepWrites] using h
  | reconcile env =>
    simp only [World.step, stepWrites, writes]
    rcases tryReconcile_store env w with ⟨hs, hst⟩ | ⟨r, hs, hst | ⟨-, hst⟩⟩
    · rw [hs, List.append_nil]; exact hst ▸ h
    · rw [hs]; exact hst ▸ writesFirst_upsert h
    · rw [hs]; exact writesFirst_makeTerminator (writesFirst_upsert h) hst

/-- **Every run keeps the invariant.** -/
theorem writesFirst_run (h : WritesFirst w.store ws) :
    ∀ evs, WritesFirst (World.run strategy w evs).store (ws ++ runWrites strategy writes w evs) := by
  intro evs
  induction evs generalizing w ws with
  | nil => simpa [runWrites] using h
  | cons ev evs ih => simpa [runWrites] using ih (writesFirst_step h ev)

/-! ## The end of a run -/

/-- The terminator leaves no write of its realm and name. -/
theorem makeTerminator_removes {fault : Call → Option String} {name : String} (h : WritesFirst s ws)
    (ht : makeTerminator fault realmName name s = .ok s') :
    ∀ x ∈ ws, x.realm = realmName → x.name = name → (x.realm, x.id) ∉ s'.keys := by
  rintro x hx rfl rfl hk
  rcases makeTerminator_ok ht with ⟨hg, rfl⟩ | ⟨c, hg, rfl⟩
  · simpa [hg] using h.first x hx hk
  · simp only [keys_deleteComponent, List.mem_filter, decide_eq_true_eq] at hk
    have hid := h.first x hx hk.1
    simp only [hg, Option.map_some', Option.some.injEq] at hid
    exact hk.2 (by rw [hid])

/-- A write keeps every component of another realm or name. -/
theorem mem_upsert {e : String × Component} (he : e ∈ s.components)
    (hn : ¬(e.1 = realmName ∧ e.2.name = spec.name)) :
    e ∈ (upsert realmName spec s).components := by
  unfold upsert
  cases hg : s.getComponent realmName spec.name with
  | some c₀ => exact mem_updateComponent he (key_ne_of_getComponent (c := c₀) hg he hn)
  | none => exact List.mem_append_left _ he

/-- The terminator keeps every component of another realm or name. -/
theorem mem_makeTerminator {fault : Call → Option String} {name : String} {e : String × Component}
    (he : e ∈ s.components) (hn : ¬(e.1 = realmName ∧ e.2.name = name))
    (ht : makeTerminator fault realmName name s = .ok s') : e ∈ s'.components := by
  rcases makeTerminator_ok ht with ⟨-, rfl⟩ | ⟨c, hg, rfl⟩
  · exact he
  · exact (mem_deleteComponent _ _ _ e).2 ⟨he, key_ne_of_getComponent hg he hn⟩

/-- A successful attempt on a terminating resource removes every write of its realm and name and keeps every
component of another realm or name. -/
theorem final_attempt (h : WritesFirst w.store ws) (hrealm : env.realm = .ok realmName)
    (hdel : w.obj.deletionTimestamp.isSome) (hok : (tryReconcile env w).1 = none) :
    (∀ x ∈ ws ++ writes env w, x.realm = realmName → x.name = w.obj.spec.name →
        (x.realm, x.id) ∉ (tryReconcile env w).2.store.keys) ∧
      ∀ e ∈ w.store.components, ¬(e.1 = realmName ∧ e.2.name = w.obj.spec.name) →
        e ∈ (tryReconcile env w).2.store.components := by
  obtain ⟨r, s₁, s₂, hs, ht, hstore⟩ := tryReconcileWith_terminating hdel hok
  obtain ⟨hr, -, hsync⟩ := synced_eq_some hs
  obtain rfl : r = realmName := Except.ok.inj (hr.symm.trans hrealm)
  obtain rfl := syncComponent_ok hsync
  have hwrites : writes env w = [⟨r, w.obj.spec.name, writtenID r w.obj.spec w.store⟩] := by simp [writes, hs]
  rw [tryReconcile, hstore, hwrites]
  exact ⟨makeTerminator_removes (writesFirst_upsert h) ht,
    fun e he hn => mem_makeTerminator (mem_upsert he hn) hn ht⟩

/-- A run whose edits keep the name and whose attempts resolve no realm but `realmName`. -/
structure StableRun (realmName name : String) (evs : List (Event KeycloakComponentSpec)) : Prop where
  name : ∀ spec, Event.edit spec ∈ evs → spec.name = name
  realm : ∀ env, Event.reconcile env ∈ evs → ∀ r, env.realm = .ok r → r = realmName

theorem StableRun.tail {realmName name : String} {ev : Event KeycloakComponentSpec}
    {evs : List (Event KeycloakComponentSpec)} (h : StableRun realmName name (ev :: evs)) :
    StableRun realmName name evs :=
  ⟨fun spec hs => h.name spec (List.mem_cons_of_mem _ hs), fun env he => h.realm env (List.mem_cons_of_mem _ he)⟩

/-- In a stable run the name stays, and every write is under the realm and the name. -/
theorem stableRun_writes {realmName : String} :
    ∀ {w : World ComponentStore KeycloakComponentSpec} {evs : List (Event KeycloakComponentSpec)},
      StableRun realmName w.obj.spec.name evs →
      (World.run strategy w evs).obj.spec.name = w.obj.spec.name ∧
        ∀ x ∈ runWrites strategy writes w evs, x.realm = realmName ∧ x.name = w.obj.spec.name
  | _, [], _ => ⟨rfl, by simp [runWrites]⟩
  | w, ev :: evs, h => by
    have hname : (World.step strategy w ev).obj.spec.name = w.obj.spec.name := by
      cases ev with
      | edit spec => exact h.name spec (List.mem_cons_self _ _)
      | markDeleted t => rfl
      | reconcile env => rw [World.step, tryReconcileWith_obj]
    have ih := stableRun_writes (w := World.step strategy w ev) (hname ▸ h.tail)
    rw [hname] at ih
    refine ⟨ih.1, fun x hx => ?_⟩
    obtain hx | hx := List.mem_append.1 hx
    · cases ev with
      | edit spec => cases hx
      | markDeleted t => cases hx
      | reconcile env =>
        obtain ⟨hr, hn⟩ := mem_writes hx
        exact ⟨h.realm env (List.mem_cons_self _ _) _ hr, hn⟩
    · exact ih.2 x hx

/-- **Without a rename or a realm change, cleanup is complete.** In a run whose edits keep the name and whose
attempts resolve no other realm, a final successful attempt on a terminating resource with the finalizer leaves
nothing that the run wrote. -/
theorem cleanup_complete_of_stable {w₀ : World ComponentStore KeycloakComponentSpec}
    {evs : List (Event KeycloakComponentSpec)} {env : Env} {realmName : String}
    (hstable : StableRun realmName w₀.obj.spec.name evs) (hrealm : env.realm = .ok realmName)
    (hdel : (World.run strategy w₀ evs).obj.deletionTimestamp.isSome)
    (hfin : finalizerName ∈ (World.run strategy w₀ evs).obj.finalizers)
    (hok : (tryReconcile env (World.run strategy w₀ evs)).1 = none) :
    ∀ x ∈ runWrites strategy writes w₀ evs ++ writes env (World.run strategy w₀ evs),
      (x.realm, x.id) ∉ (tryReconcile env (World.run strategy w₀ evs)).2.store.keys := by
  obtain ⟨hname, hws⟩ := stableRun_writes hstable
  have hfirst := writesFirst_run (writesFirst_nil w₀.store) evs
  rw [List.nil_append] at hfirst
  intro x hx
  have hpair : x.realm = realmName ∧ x.name = (World.run strategy w₀ evs).obj.spec.name := by
    obtain hx | hx := List.mem_append.1 hx
    · rw [hname]; exact hws x hx
    · obtain ⟨hr, hn⟩ := mem_writes hx
      exact ⟨Except.ok.inj (hr.symm.trans hrealm), hn⟩
  exact (final_attempt hfirst hrealm hdel hok).1 x hx hpair.1 hpair.2

theorem cleanup_complete_of_stable_deleted :
    StableRun "master" "a" [.reconcile (.ok "master"), .markDeleted 1] ∧ (Env.ok "master").realm = .ok "master" ∧
      (World.run strategy ⟨.empty, .created (ldap "a")⟩
        [.reconcile (.ok "master"), .markDeleted 1]).obj.deletionTimestamp.isSome ∧
      finalizerName ∈ (World.run strategy ⟨.empty, .created (ldap "a")⟩
        [.reconcile (.ok "master"), .markDeleted 1]).obj.finalizers ∧
      (tryReconcile (.ok "master") (World.run strategy ⟨.empty, .created (ldap "a")⟩
        [.reconcile (.ok "master"), .markDeleted 1])).1 = none ∧
      ∀ x ∈ runWrites strategy writes ⟨.empty, .created (ldap "a")⟩
          [.reconcile (.ok "master"), .markDeleted 1] ++
          writes (.ok "master") (World.run strategy ⟨.empty, .created (ldap "a")⟩
            [.reconcile (.ok "master"), .markDeleted 1]),
        (x.realm, x.id) ∉ (tryReconcile (.ok "master") (World.run strategy ⟨.empty, .created (ldap "a")⟩
          [.reconcile (.ok "master"), .markDeleted 1])).2.store.keys :=
  have hstable : StableRun "master" "a" [.reconcile (.ok "master"), .markDeleted 1] :=
    ⟨by simp, by simp [Env.ok]⟩
  ⟨hstable, rfl, by decide, by decide, by decide, cleanup_complete_of_stable hstable rfl (by decide) (by decide)
    (by decide)⟩

/-- Reconcile the component as `a`, rename it to `b`, reconcile again, and mark the resource for deletion. -/
def renameRun : List (Event KeycloakComponentSpec) :=
  [.reconcile (.ok "master"), .edit (ldap "b"), .reconcile (.ok "master"), .markDeleted 1]

/-- **A rename leaves the old component behind**: the run ends as a completed deletion, yet the component that the
first attempt created under `a` is still stored. -/
theorem rename_leaves_component :
    (World.run strategy ⟨.empty, .created (ldap "a")⟩ renameRun).obj.deletionTimestamp.isSome ∧
      finalizerName ∈ (World.run strategy ⟨.empty, .created (ldap "a")⟩ renameRun).obj.finalizers ∧
      (tryReconcile (.ok "master") (World.run strategy ⟨.empty, .created (ldap "a")⟩ renameRun)).1 = none ∧
      ⟨"master", "a", 0⟩ ∈ runWrites strategy writes ⟨.empty, .created (ldap "a")⟩ renameRun ∧
      ("master", 0) ∈
        (tryReconcile (.ok "master") (World.run strategy ⟨.empty, .created (ldap "a")⟩ renameRun)).2.store.keys := by
  decide

end RealmComponent

/-! ## Auth flows -/

namespace AuthFlow

/-- What an attempt wrote: the flow under its realm and alias, when the attempt got past the write. -/
def writes (env : Env) (w : World FlowStore KeycloakAuthFlowSpec) : List (String × String) :=
  match synced strategy env w with
  | some (realmName, _) => [(realmName, w.obj.spec.alias_)]
  | none => []

/-- A successful attempt on a terminating resource removes the flow under its realm and alias, and keeps every other
flow. -/
theorem final_attempt {env : Env} {w : World FlowStore KeycloakAuthFlowSpec} {realmName : String}
    (hrealm : env.realm = .ok realmName) (hdel : w.obj.deletionTimestamp.isSome) (hok : (tryReconcile env w).1 = none) :
    (realmName, w.obj.spec.alias_) ∉ (tryReconcile env w).2.store.keys ∧
      ∀ e ∈ w.store.flows, flowKey e ≠ (realmName, w.obj.spec.alias_) →
        e ∈ (tryReconcile env w).2.store.flows := by
  obtain ⟨r, s₁, s₂, hs, ht, hstore⟩ := tryReconcileWith_terminating hdel hok
  obtain ⟨hr, -, hsync⟩ := synced_eq_some hs
  obtain rfl : r = realmName := Except.ok.inj (hr.symm.trans hrealm)
  obtain rfl := syncAuthFlow_ok hsync
  obtain rfl := makeTerminator_ok ht
  rw [tryReconcile, hstore]
  refine ⟨by simp [FlowStore.keys_deleteAuthFlow, strategy], fun e he hk => ?_⟩
  exact (FlowStore.mem_deleteAuthFlow _ _ e).2 ⟨FlowStore.mem_syncAuthFlow he (by simpa using hk), hk⟩

end AuthFlow

/-! ## Both controllers -/

/-- **In every run, the finalizer goes only after the terminator ran.** When a run takes the finalizer off the
resource, some attempt of the run did so: it held the finalizer before and not after; it was on a terminating
resource, got past the write, and its terminator succeeded on what it wrote. -/
theorem run_finalizer_removed {σ α : Type} {k : Strategy σ α} {w : World σ α}
    (hfin : k.finalizerName ∈ w.obj.finalizers) (evs : List (Event α))
    (hgone : k.finalizerName ∉ (World.run k w evs).obj.finalizers) :
    ∃ pre env post, evs = pre ++ .reconcile env :: post ∧
      k.finalizerName ∈ (World.run k w pre).obj.finalizers ∧
      k.finalizerName ∉ (World.step k (World.run k w pre) (.reconcile env)).obj.finalizers ∧
      (World.run k w pre).obj.deletionTimestamp.isSome ∧
      ∃ realmName s, synced k env (World.run k w pre) = some (realmName, s) ∧
        k.makeTerminator env.fault realmName (k.key (World.run k w pre).obj.spec) s =
          .ok (World.step k (World.run k w pre) (.reconcile env)).store := by
  induction evs generalizing w with
  | nil => exact absurd hfin hgone
  | cons ev evs ih =>
    by_cases hstep : k.finalizerName ∈ (World.step k w ev).obj.finalizers
    · obtain ⟨pre, env, post, rfl, h⟩ := ih hstep hgone
      exact ⟨ev :: pre, env, post, rfl, h⟩
    · cases ev with
      | edit spec => exact absurd hfin hstep
      | markDeleted t => exact absurd hfin hstep
      | reconcile env =>
        obtain ⟨hdel, r, s, hs, ht⟩ := tryReconcileWith_finalizer_removed hfin hstep
        exact ⟨[], env, evs, rfl, hfin, hstep, hdel, r, s, hs, ht⟩

/-- A resource that holds the finalizer and has `ldap "a"` as its spec, before anything is written. -/
def RealmComponent.guarded : World ComponentStore KeycloakComponentSpec :=
  ⟨.empty, { Object.created (RealmComponent.ldap "a") with finalizers := [RealmComponent.finalizerName] }⟩

theorem run_finalizer_removed_deleted :
    RealmComponent.finalizerName ∈ RealmComponent.guarded.obj.finalizers ∧
      RealmComponent.finalizerName ∉ (World.run RealmComponent.strategy RealmComponent.guarded
        [.markDeleted 1, .reconcile (.ok "master")]).obj.finalizers ∧
      ∃ pre env post, [.markDeleted 1, .reconcile (.ok "master")] = pre ++ .reconcile env :: post ∧
        RealmComponent.finalizerName ∈
          (World.run RealmComponent.strategy RealmComponent.guarded pre).obj.finalizers ∧
        RealmComponent.finalizerName ∉ (World.step RealmComponent.strategy
          (World.run RealmComponent.strategy RealmComponent.guarded pre) (.reconcile env)).obj.finalizers ∧
        (World.run RealmComponent.strategy RealmComponent.guarded pre).obj.deletionTimestamp.isSome ∧
        ∃ realmName s,
          synced RealmComponent.strategy env (World.run RealmComponent.strategy RealmComponent.guarded pre) =
            some (realmName, s) ∧
          RealmComponent.makeTerminator env.fault realmName
              (World.run RealmComponent.strategy RealmComponent.guarded pre).obj.spec.name s =
            .ok (World.step RealmComponent.strategy (World.run RealmComponent.strategy RealmComponent.guarded pre)
              (.reconcile env)).store :=
  ⟨List.mem_singleton_self _, by decide, run_finalizer_removed (List.mem_singleton_self _) _ (by decide)⟩

/-- **What deleting a realm child removes.** For the realm component and the auth flow controllers alike: a run that
ends with a successful attempt on a terminating resource holding the finalizer leaves nothing the run wrote under the
realm of that attempt and the spec's final name (alias), and leaves every component (flow) of another realm or name
(alias) as it was before that attempt. -/
theorem deletion_removes_final_pair :
    (∀ (w₀ : World ComponentStore KeycloakComponentSpec) (evs : List (Event KeycloakComponentSpec)) (env : Env)
        (realmName : String), env.realm = .ok realmName →
        (World.run RealmComponent.strategy w₀ evs).obj.deletionTimestamp.isSome →
        RealmComponent.finalizerName ∈ (World.run RealmComponent.strategy w₀ evs).obj.finalizers →
        (RealmComponent.tryReconcile env (World.run RealmComponent.strategy w₀ evs)).1 = none →
        (∀ x ∈ runWrites RealmComponent.strategy RealmComponent.writes w₀ evs ++
            RealmComponent.writes env (World.run RealmComponent.strategy w₀ evs),
          x.realm = realmName → x.name = (World.run RealmComponent.strategy w₀ evs).obj.spec.name →
          (x.realm, x.id) ∉
            (RealmComponent.tryReconcile env (World.run RealmComponent.strategy w₀ evs)).2.store.keys) ∧
        ∀ e ∈ (World.run RealmComponent.strategy w₀ evs).store.components,
          ¬(e.1 = realmName ∧ e.2.name = (World.run RealmComponent.strategy w₀ evs).obj.spec.name) →
          e ∈ (RealmComponent.tryReconcile env (World.run RealmComponent.strategy w₀ evs)).2.store.components) ∧
    (∀ (w₀ : World FlowStore KeycloakAuthFlowSpec) (evs : List (Event KeycloakAuthFlowSpec)) (env : Env)
        (realmName : String), env.realm = .ok realmName →
        (World.run AuthFlow.strategy w₀ evs).obj.deletionTimestamp.isSome →
        AuthFlow.finalizerName ∈ (World.run AuthFlow.strategy w₀ evs).obj.finalizers →
        (AuthFlow.tryReconcile env (World.run AuthFlow.strategy w₀ evs)).1 = none →
        (∀ x ∈ runWrites AuthFlow.strategy AuthFlow.writes w₀ evs ++
            AuthFlow.writes env (World.run AuthFlow.strategy w₀ evs),
          x = (realmName, (World.run AuthFlow.strategy w₀ evs).obj.spec.alias_) →
          x ∉ (AuthFlow.tryReconcile env (World.run AuthFlow.strategy w₀ evs)).2.store.keys) ∧
        ∀ e ∈ (World.run AuthFlow.strategy w₀ evs).store.flows,
          flowKey e ≠ (realmName, (World.run AuthFlow.strategy w₀ evs).obj.spec.alias_) →
          e ∈ (AuthFlow.tryReconcile env (World.run AuthFlow.strategy w₀ evs)).2.store.flows) := by
  refine ⟨fun w₀ evs env realmName hrealm hdel _ hok => ?_,
    fun w₀ evs env realmName hrealm hdel _ hok => ?_⟩
  · have h := RealmComponent.writesFirst_run (RealmComponent.writesFirst_nil w₀.store) evs
    rw [List.nil_append] at h
    exact RealmComponent.final_attempt h hrealm hdel hok
  · obtain ⟨hgone, hkeep⟩ := AuthFlow.final_attempt hrealm hdel hok
    exact ⟨fun x _ hx => hx ▸ hgone, hkeep⟩

theorem deletion_removes_final_pair_renamed :
    (World.run RealmComponent.strategy ⟨.empty, .created (RealmComponent.ldap "a")⟩
      RealmComponent.renameRun).obj.deletionTimestamp.isSome ∧
    RealmComponent.finalizerName ∈ (World.run RealmComponent.strategy ⟨.empty, .created (RealmComponent.ldap "a")⟩
      RealmComponent.renameRun).obj.finalizers ∧
    (RealmComponent.tryReconcile (.ok "master") (World.run RealmComponent.strategy
      ⟨.empty, .created (RealmComponent.ldap "a")⟩ RealmComponent.renameRun)).1 = none ∧
    (∀ x ∈ runWrites RealmComponent.strategy RealmComponent.writes ⟨.empty, .created (RealmComponent.ldap "a")⟩
        RealmComponent.renameRun ++ RealmComponent.writes (.ok "master") (World.run RealmComponent.strategy
          ⟨.empty, .created (RealmComponent.ldap "a")⟩ RealmComponent.renameRun),
      x.realm = "master" → x.name = "b" →
      (x.realm, x.id) ∉ (RealmComponent.tryReconcile (.ok "master") (World.run RealmComponent.strategy
        ⟨.empty, .created (RealmComponent.ldap "a")⟩ RealmComponent.renameRun)).2.store.keys) ∧
    (World.run AuthFlow.strategy ⟨.empty, .created AuthFlow.browserFlow⟩
      [.reconcile (.ok "master"), .markDeleted 1]).obj.deletionTimestamp.isSome ∧
    AuthFlow.finalizerName ∈ (World.run AuthFlow.strategy ⟨.empty, .created AuthFlow.browserFlow⟩
      [.reconcile (.ok "master"), .markDeleted 1]).obj.finalizers ∧
    (AuthFlow.tryReconcile (.ok "master") (World.run AuthFlow.strategy ⟨.empty, .created AuthFlow.browserFlow⟩
      [.reconcile (.ok "master"), .markDeleted 1])).1 = none ∧
    ("master", "browser") ∉ (AuthFlow.tryReconcile (.ok "master") (World.run AuthFlow.strategy
      ⟨.empty, .created AuthFlow.browserFlow⟩ [.reconcile (.ok "master"), .markDeleted 1])).2.store.keys :=
  have hflow := deletion_removes_final_pair.2 ⟨.empty, .created AuthFlow.browserFlow⟩
    [.reconcile (.ok "master"), .markDeleted 1] (.ok "master") "master" rfl (by decide) (by decide) (by decide)
  ⟨by decide, by decide, by decide,
    (deletion_removes_final_pair.1 _ _ _ _ rfl (by decide) (by decide) (by decide)).1,
    by decide, by decide, by decide,
    hflow.1 _ (List.mem_append_right _ (by decide)) rfl⟩

end KeycloakOperator
