import Mathlib.Data.List.Nodup
import KeycloakOperator.Controller.AuthFlowSpec
import KeycloakOperator.Controller.RealmComponent

/-!
# The auth flow controller

The service's auth flows are keyed by realm and alias (`FlowStore`). `SyncAuthFlow` and the terminator are not among
the sources; following the spec, the first writes the flow under its alias and the second removes the flow of the
alias. `tryReconcile` of the auth flow controller is the common reconcile with these.

- the write replaces only the flow under its key and keeps every other (`mem_syncAuthFlow`); read by realm and alias,
  it sets its own key and leaves every other (`flowAt_syncAuthFlow`);
- the terminator removes exactly the flow under its key (`mem_deleteAuthFlow`, `flowAt_deleteAuthFlow`).
-/

namespace KeycloakOperator

open AuthFlow

/-- A stored flow is keyed by its realm and its alias. -/
def flowKey (e : String × Adapter.KeycloakAuthFlow) : String × String := (e.1, e.2.alias_)

@[simp] theorem flowKey_mk (r : String) (f : Adapter.KeycloakAuthFlow) : flowKey (r, f) = (r, f.alias_) := rfl

/-- Modelled from the spec: the auth flows of the service, each with its realm, keyed by realm and alias. -/
structure FlowStore where
  flows : List (String × Adapter.KeycloakAuthFlow)
  keys_nodup : (flows.map flowKey).Nodup

namespace FlowStore

/-- The service before any flow is written. -/
def empty : FlowStore := ⟨[], List.nodup_nil⟩

variable (s : FlowStore)

/-- The keys of the stored flows. -/
def keys : List (String × String) := s.flows.map flowKey

/-- The entry a write puts in place of the one under the same key. -/
def replace (realm : String) (flow : Adapter.KeycloakAuthFlow) (e : String × Adapter.KeycloakAuthFlow) :
    String × Adapter.KeycloakAuthFlow :=
  if flowKey e = (realm, flow.alias_) then (realm, flow) else e

@[simp] theorem flowKey_replace (realm : String) (flow : Adapter.KeycloakAuthFlow)
    (e : String × Adapter.KeycloakAuthFlow) :
    flowKey (replace realm flow e) = flowKey e := by
  unfold replace; split_ifs with h <;> simp [h]

/-- Modelled from the spec: `SyncAuthFlow` writes the flow under its alias, in place of the realm's flow of that
alias or as a new one. -/
def syncAuthFlow (realm : String) (flow : Adapter.KeycloakAuthFlow) : FlowStore :=
  if h : (realm, flow.alias_) ∈ s.keys then
    ⟨s.flows.map (replace realm flow), by rw [List.map_map]; simpa [Function.comp_def] using s.keys_nodup⟩
  else
    ⟨s.flows ++ [(realm, flow)], by
      rw [List.map_append]
      exact s.keys_nodup.append (List.nodup_singleton _) (List.disjoint_singleton.2 h)⟩

/-- Modelled from the spec: `DeleteAuthFlow` removes the realm's flow of the alias. -/
def deleteAuthFlow (realm alias_ : String) : FlowStore :=
  ⟨s.flows.filter fun e => flowKey e ≠ (realm, alias_), ((List.filter_sublist _).map _).nodup s.keys_nodup⟩

variable {s}

/-- The write keeps every flow under another key. -/
theorem mem_syncAuthFlow {realm : String} {flow : Adapter.KeycloakAuthFlow} {e : String × Adapter.KeycloakAuthFlow}
    (he : e ∈ s.flows) (hk : flowKey e ≠ (realm, flow.alias_)) : e ∈ (s.syncAuthFlow realm flow).flows := by
  unfold syncAuthFlow
  split_ifs
  · exact List.mem_map.2 ⟨e, he, if_neg hk⟩
  · exact List.mem_append_left _ he

@[simp] theorem mem_deleteAuthFlow (realm alias_ : String) (e : String × Adapter.KeycloakAuthFlow) :
    e ∈ (s.deleteAuthFlow realm alias_).flows ↔ e ∈ s.flows ∧ flowKey e ≠ (realm, alias_) := by
  simp [deleteAuthFlow]

theorem keys_deleteAuthFlow (realm alias_ : String) :
    (s.deleteAuthFlow realm alias_).keys = s.keys.filter (· ≠ (realm, alias_)) := by
  simp [keys, deleteAuthFlow, List.filter_map, Function.comp_def]

/-- The flow the service holds under a realm and an alias. -/
def flowAt (s : FlowStore) (r a : String) : Option Adapter.KeycloakAuthFlow :=
  (s.flows.find? fun e => decide (flowKey e = (r, a))).map Prod.snd

/-- After the write, the realm and alias of the flow hold it, and every other realm and alias what it held. -/
theorem flowAt_syncAuthFlow (realm : String) (flow : Adapter.KeycloakAuthFlow) (r a : String) :
    (s.syncAuthFlow realm flow).flowAt r a = if r = realm ∧ a = flow.alias_ then some flow else s.flowAt r a := by
  have hp : ((fun e => decide (flowKey e = (r, a))) ∘ replace realm flow) = fun e => decide (flowKey e = (r, a)) :=
    funext fun e => by simp
  unfold flowAt syncAuthFlow
  split_ifs with hk hra hra
  · obtain ⟨rfl, rfl⟩ := hra
    obtain ⟨e, he, hek⟩ := List.mem_map.1 hk
    rw [List.find?_map, hp]
    cases hf : s.flows.find? fun e => decide (flowKey e = (r, flow.alias_)) with
    | none => exact absurd hek (by simpa using List.find?_eq_none.1 hf e he)
    | some e₀ =>
      have he₀ : flowKey e₀ = (r, flow.alias_) := by simpa using List.find?_some hf
      simp [replace, he₀]
  · rw [List.find?_map, hp]
    cases hf : s.flows.find? fun e => decide (flowKey e = (r, a)) with
    | none => rfl
    | some e₀ =>
      have he₀ : flowKey e₀ = (r, a) := by simpa using List.find?_some hf
      simp only [Option.map_some', replace, he₀]
      rw [if_neg fun h => hra (by simpa using h)]
  · obtain ⟨rfl, rfl⟩ := hra
    have hnone : (s.flows.find? fun e => decide (flowKey e = (r, flow.alias_))) = none :=
      List.find?_eq_none.2 fun e he hek => hk (List.mem_map.2 ⟨e, he, of_decide_eq_true hek⟩)
    simp [hnone]
  · simp only [List.find?_append, List.find?_cons, List.find?_nil, flowKey_mk]
    rw [decide_eq_false fun h => hra (by simpa using h.symm)]
    simp

/-- After the delete, the realm and alias hold nothing, and every other realm and alias what it held. -/
theorem flowAt_deleteAuthFlow (realm alias_ r a : String) :
    (s.deleteAuthFlow realm alias_).flowAt r a = if r = realm ∧ a = alias_ then none else s.flowAt r a := by
  unfold flowAt deleteAuthFlow
  split_ifs with h
  · obtain ⟨rfl, rfl⟩ := h
    simp
  · congr 1
    simp only [List.find?_filter]
    refine find?_congr fun e _ => ?_
    by_cases he : flowKey e = (r, a)
    · simpa [he] using not_and_or.1 h
    · simp [he]

end FlowStore

namespace AuthFlow

/-- `finalizerName`. -/
def finalizerName : String := "keycloak.authflow.operator.finalizer.name"

/-- Lines 114–117 of `tryReconcile`: `kClient.SyncAuthFlow` of the converted spec. -/
def syncAuthFlow (fault : Call → Option String) (realmName : String) (spec : KeycloakAuthFlowSpec) (s : FlowStore) :
    Except String FlowStore :=
  match fault .syncAuthFlow with
  | some err => .error (wrap "unable to sync auth flow" err)
  | none => .ok (s.syncAuthFlow realmName (authFlowSpecToAdapterAuthFlow spec))

/-- Modelled from the spec: the terminator of `makeTerminator realmName alias` deletes the realm's flow of the alias. -/
def makeTerminator (fault : Call → Option String) (realmName alias_ : String) (s : FlowStore) :
    Except String FlowStore :=
  match fault .deleteAuthFlow with
  | some err => .error err
  | none => .ok (s.deleteAuthFlow realmName alias_)

/-- The controller's part of the common reconcile. -/
def strategy : Strategy FlowStore KeycloakAuthFlowSpec where
  sync := syncAuthFlow
  makeTerminator := makeTerminator
  key := KeycloakAuthFlowSpec.alias_
  finalizerName := finalizerName
  what := "auth flow"

/-- `Reconcile.tryReconcile`. -/
def tryReconcile (env : Env) (w : World FlowStore KeycloakAuthFlowSpec) :
    Option String × World FlowStore KeycloakAuthFlowSpec :=
  tryReconcileWith strategy env w

/-- `Reconcile` of the auth flow controller: the common `Reconcile` with this controller's values. Unlike the realm
component controller's, it leaves the requeue delay of a success at zero and returns a failed status write's error as
it is. -/
def reconcile (timeout : Int → Nat) :
    Fetch → Option String → Env → World FlowStore KeycloakAuthFlowSpec →
      (Nat × Option String) × World FlowStore KeycloakAuthFlowSpec :=
  reconcileWith strategy timeout 0 (wrap "unable to get keycloak auth flow from k8s") id

/-- `isSpecUpdated`. -/
def isSpecUpdated (e : UpdateEvent KeycloakAuthFlowSpec) : Bool := KeycloakOperator.isSpecUpdated e

/-- A top-level flow `browser` with one alternative execution. -/
def browserFlow : KeycloakAuthFlowSpec :=
  ⟨"browser", "browser based authentication", "basic-flow", true, false,
    [⟨"auth-cookie", none, false, 10, "ALTERNATIVE"⟩]⟩

theorem syncAuthFlow_ok {fault : Call → Option String} {realmName : String} {spec : KeycloakAuthFlowSpec}
    {s s' : FlowStore} (h : syncAuthFlow fault realmName spec s = .ok s') :
    s' = s.syncAuthFlow realmName (authFlowSpecToAdapterAuthFlow spec) := by
  unfold syncAuthFlow at h
  cases hf : fault .syncAuthFlow <;> simp_all

theorem makeTerminator_ok {fault : Call → Option String} {realmName alias_ : String} {s s' : FlowStore}
    (h : makeTerminator fault realmName alias_ s = .ok s') : s' = s.deleteAuthFlow realmName alias_ := by
  unfold makeTerminator at h
  cases hf : fault .deleteAuthFlow <;> simp_all

end AuthFlow

end KeycloakOperator
