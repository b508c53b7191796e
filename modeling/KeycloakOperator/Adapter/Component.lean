import Mathlib.Data.List.Nodup
import KeycloakOperator.Helper

/-!
# The remote service's components

The realm components that the service holds, keyed by realm and ID (`ComponentStore`, whose two invariants are fields:
keys are unique, and every ID is below the next one the service hands out). The adapter is not among the sources; its
calls follow the spec's remote API adapter:

- `GetComponent` returns the realm's first component with the name, or the typed not-found error;
- `UpdateComponent` replaces the component with the given ID, `CreateComponent` inserts under a fresh ID,
  `DeleteComponent` removes the component with the given ID.

For each call: what it does to the realm's components of one name (`named_updateComponent`, `named_createComponent`),
to the first of them (`getComponent_updateComponent`, `getComponent_createComponent`, `getComponent_deleteComponent`),
and to every other key (`others_updateComponent`, `others_createComponent`). None of them, `CreateComponent` only for a
name the realm does not hold, gives a realm two components of one name (`namesUnique_updateComponent`,
`namesUnique_createComponent`, `namesUnique_deleteComponent`).
-/

namespace KeycloakOperator

/-! ## Two facts about `List.find?` -/

theorem find?_congr {α : Type} {p q : α → Bool} :
    ∀ {l : List α}, (∀ x ∈ l, p x = q x) → l.find? p = l.find? q
  | [], _ => rfl
  | x :: l, h => by
    have ih := find?_congr fun y hy => h y (List.mem_cons_of_mem x hy)
    simp only [List.find?_cons, h x (List.mem_cons_self x l), ih]

/-- A first match that also passes `q` is the first match of both. -/
theorem find?_and {α : Type} {p q : α → Bool} {e : α} :
    ∀ {l : List α}, l.find? p = some e → q e → l.find? (fun a => p a && q a) = some e
  | [], h, _ => by simp at h
  | x :: l, h, hq => by
    by_cases hx : p x
    · simp only [List.find?_cons, hx, Option.some.injEq] at h
      subst h
      simp [hx, hq]
    · simp only [List.find?_cons, hx] at h
      simp [hx, find?_and h hq]

/-- `adapter.Component`, with the ID that the service hands out. -/
structure Component where
  id : Nat
  name : String
  providerID : String
  providerType : String
  config : List (String × List String)
deriving DecidableEq, Repr

namespace Component

/-- A stored component is keyed by its realm and its ID. -/
def key (e : String × Component) : String × Nat := (e.1, e.2.id)

/-- The stored component is the component `name` of `realm`. -/
def isNamed (realm name : String) (e : String × Component) : Bool := e.1 == realm && e.2.name == name

@[simp] theorem key_mk (r : String) (c : Component) : key (r, c) = (r, c.id) := rfl

@[simp] theorem isNamed_mk (realm name r : String) (c : Component) :
    isNamed realm name (r, c) = (r == realm && c.name == name) := rfl

end Component

open Component

/-- The components of the service, each with its realm, in the order the service lists them, and the ID it hands out
next. -/
structure ComponentStore where
  components : List (String × Component)
  nextID : Nat
  keys_nodup : (components.map key).Nodup
  id_lt : ∀ e ∈ components, e.2.id < nextID

namespace ComponentStore

variable (s : ComponentStore)

theorem ext' {s t : ComponentStore} (h : s.components = t.components) (h' : s.nextID = t.nextID) : s = t := by
  cases s; cases t; cases h; cases h'; rfl

/-- The service before any component is created. -/
def empty : ComponentStore := ⟨[], 0, List.nodup_nil, fun _ h => nomatch h⟩

/-- The keys of the stored components. -/
def keys : List (String × Nat) := s.components.map key

/-- The realm's components with the name, in order. -/
def named (realm name : String) : List Component := (s.components.filter (isNamed realm name)).map Prod.snd

/-- The stored components under every key but `k`. -/
def others (k : String × Nat) : List (String × Component) := s.components.filter fun e => key e ≠ k

/-- Modelled from the spec: `GetComponent` lists the realm's components and returns the first with the name; `none`
is the typed not-found error. -/
def getComponent (realm name : String) : Option Component :=
  (s.components.find? (isNamed realm name)).map Prod.snd

/-- The entry `UpdateComponent` writes in place of the one under the same key. -/
def replace (realm : String) (c : Component) (e : String × Component) : String × Component :=
  if key e = (realm, c.id) then (realm, c) else e

@[simp] theorem key_replace (realm : String) (c : Component) (e : String × Component) :
    key (replace realm c e) = key e := by
  unfold replace; split_ifs with h <;> simp [h]

@[simp] theorem id_replace (realm : String) (c : Component) (e : String × Component) :
    (replace realm c e).2.id = e.2.id :=
  congrArg Prod.snd (key_replace realm c e)

/-- Modelled from the spec: `UpdateComponent` replaces the realm's component that has the given ID. -/
def updateComponent (realm : String) (c : Component) : ComponentStore where
  components := s.components.map (replace realm c)
  nextID := s.nextID
  keys_nodup := by rw [List.map_map]; simpa [Function.comp_def] using s.keys_nodup
  id_lt := by
    simp only [List.mem_map]
    rintro _ ⟨e, he, rfl⟩
    exact (id_replace realm c e).symm ▸ s.id_lt e he

/-- Modelled from the spec: `CreateComponent` inserts the component under a fresh ID. -/
def createComponent (realm : String) (c : Component) : ComponentStore where
  components := s.components ++ [(realm, { c with id := s.nextID })]
  nextID := s.nextID + 1
  keys_nodup := by
    rw [List.map_append]
    refine s.keys_nodup.append (List.nodup_singleton _) (List.disjoint_singleton.2 ?_)
    simp only [List.mem_map, not_exists, not_and]
    intro e he hk
    have := s.id_lt e he
    simp [key, Prod.ext_iff] at hk
    omega
  id_lt := by
    simp only [List.mem_append, List.mem_singleton]
    rintro e (he | rfl)
    · exact Nat.lt_succ_of_lt (s.id_lt e he)
    · exact Nat.lt_succ_self _

/-- Modelled from the spec: `DeleteComponent` removes the realm's component with the given ID. -/
def deleteComponent (realm : String) (id : Nat) : ComponentStore where
  components := s.components.filter fun e => key e ≠ (realm, id)
  nextID := s.nextID
  keys_nodup := ((List.filter_sublist _).map _).nodup s.keys_nodup
  id_lt := fun e he => s.id_lt e (List.mem_of_mem_filter he)

/-! ## Keys -/

@[simp] theorem nextID_updateComponent (realm : String) (c : Component) :
    (s.updateComponent realm c).nextID = s.nextID := rfl

@[simp] theorem nextID_createComponent (realm : String) (c : Component) :
    (s.createComponent realm c).nextID = s.nextID + 1 := rfl

@[simp] theorem nextID_deleteComponent (realm : String) (id : Nat) :
    (s.deleteComponent realm id).nextID = s.nextID := rfl

@[simp] theorem keys_updateComponent (realm : String) (c : Component) :
    (s.updateComponent realm c).keys = s.keys := by
  simp [keys, updateComponent, Function.comp_def]

@[simp] theorem keys_createComponent (realm : String) (c : Component) :
    (s.createComponent realm c).keys = s.keys ++ [(realm, s.nextID)] := by
  simp [keys, createComponent]

@[simp] theorem mem_deleteComponent (realm : String) (id : Nat) (e : String × Component) :
    e ∈ (s.deleteComponent realm id).components ↔ e ∈ s.components ∧ key e ≠ (realm, id) := by
  simp [deleteComponent]

variable {s}

theorem key_inj {e e' : String × Component} (he : e ∈ s.components) (he' : e' ∈ s.components)
    (h : key e = key e') : e = e' :=
  List.inj_on_of_nodup_map s.keys_nodup he he' h

theorem mem_named {realm name : String} {c : Component} :
    c ∈ s.named realm name ↔ (realm, c) ∈ s.components ∧ c.name = name := by
  simp only [named, List.mem_map, List.mem_filter, Prod.exists, isNamed_mk, Bool.and_eq_true, beq_iff_eq]
  constructor
  · rintro ⟨r, c, ⟨hm, rfl, rfl⟩, rfl⟩; exact ⟨hm, rfl⟩
  · rintro ⟨hm, rfl⟩; exact ⟨realm, c, ⟨hm, rfl, rfl⟩, rfl⟩

/-- `GetComponent` returns the first of the realm's components with the name. -/
theorem getComponent_eq_head (realm name : String) : s.getComponent realm name = (s.named realm name).head? := by
  simp [getComponent, named, List.head?_map]

theorem getComponent_spec {realm name : String} {c : Component} (h : s.getComponent realm name = some c) :
    (realm, c) ∈ s.components ∧ c.name = name :=
  mem_named.1 (List.mem_of_mem_head? ((getComponent_eq_head realm name).symm.trans h))

/-- A component of another realm or name is not under the key of the first component of the name. -/
theorem key_ne_of_getComponent {realm name : String} {c : Component} {e : String × Component}
    (h : s.getComponent realm name = some c) (he : e ∈ s.components) (hn : ¬(e.1 = realm ∧ e.2.name = name)) :
    key e ≠ (realm, c.id) := fun hk => by
  obtain ⟨h₀, hname⟩ := getComponent_spec h
  obtain rfl := key_inj he h₀ hk
  exact hn ⟨rfl, hname⟩

theorem getComponent_eq_none {realm name : String} : s.getComponent realm name = none ↔ s.named realm name = [] := by
  rw [getComponent_eq_head, List.head?_eq_none_iff]

/-- With at most one component of the name, the first is the only one. -/
theorem named_eq_of_getComponent {realm name : String} {c : Component} (h : s.getComponent realm name = some c)
    (h1 : (s.named realm name).length ≤ 1) : s.named realm name = [c] := by
  rw [getComponent_eq_head] at h
  match hn : s.named realm name, h1, h with
  | [x], _, hx => rw [Option.some.inj hx]

/-! ## `UpdateComponent` on a stored component of the same name -/

section Update

variable {realm : String} {c₀ c : Component} (h₀ : (realm, c₀) ∈ s.components) (hid : c₀.id = c.id)
  (hname : c₀.name = c.name)

include h₀ hid in
/-- Only the stored component with the ID is replaced. -/
theorem replace_eq {e : String × Component} (he : e ∈ s.components) :
    replace realm c e = if e = (realm, c₀) then (realm, c) else e := by
  unfold replace
  by_cases hk : key e = (realm, c.id)
  · rw [if_pos hk, if_pos (key_inj he h₀ (by simp [hk, hid]))]
  · rw [if_neg hk, if_neg (by rintro rfl; simp [hid] at hk)]

include h₀ hid hname in
theorem isNamed_replace (r n : String) {e : String × Component} (he : e ∈ s.components) :
    isNamed r n (replace realm c e) = isNamed r n e := by
  rw [replace_eq h₀ hid he]
  split_ifs with h <;> simp [h, hname]

include h₀ hid hname in
/-- The realm's components of every name, with the one under the ID replaced. -/
theorem named_updateComponent (r n : String) :
    (s.updateComponent realm c).named r n = (s.named r n).map fun d => if (r, d.id) = (realm, c.id) then c else d := by
  simp only [named, updateComponent, List.filter_map, List.map_map]
  rw [List.filter_congr (p := isNamed r n ∘ replace realm c) (q := isNamed r n)
    fun e he => isNamed_replace h₀ hid hname r n he]
  refine List.map_congr_left fun e he => ?_
  obtain ⟨r', d⟩ := e
  simp only [List.mem_filter, isNamed_mk, Bool.and_eq_true, beq_iff_eq] at he
  obtain ⟨-, rfl, -⟩ := he
  simp only [Function.comp_apply, replace, key_mk]
  split_ifs <;> rfl

include h₀ hid hname in
/-- The realm's components of every other name are untouched. -/
theorem named_updateComponent_of_ne {r n : String} (hne : ¬(r = realm ∧ n = c.name)) :
    (s.updateComponent realm c).named r n = s.named r n := by
  rw [named_updateComponent h₀ hid hname]
  refine (List.map_congr_left fun d hd => if_neg fun hk => hne ?_).trans (List.map_id _)
  obtain ⟨hmem, rfl⟩ := mem_named.1 hd
  obtain ⟨rfl, hdid⟩ := Prod.mk.inj hk
  obtain ⟨-, rfl⟩ := Prod.mk.inj (key_inj hmem h₀ (by simp [hdid, hid]))
  exact ⟨rfl, hname⟩

include h₀ hid hname in
theorem getComponent_updateComponent_of_ne {r n : String} (hne : ¬(r = realm ∧ n = c.name)) :
    (s.updateComponent realm c).getComponent r n = s.getComponent r n := by
  rw [getComponent_eq_head, getComponent_eq_head, named_updateComponent_of_ne h₀ hid hname hne]

include h₀ hid hname in
/-- The first component of every name keeps its ID. -/
theorem getComponent_updateComponent (r n : String) :
    ((s.updateComponent realm c).getComponent r n).map Component.id = (s.getComponent r n).map Component.id := by
  simp only [getComponent, updateComponent, List.find?_map, Option.map_map]
  rw [find?_congr (p := isNamed r n ∘ replace realm c) (q := isNamed r n)
    fun e he => isNamed_replace h₀ hid hname r n he]
  cases s.components.find? (isNamed r n) <;> simp

end Update

/-- Writing back a stored component changes nothing. -/
theorem updateComponent_self {realm : String} {c : Component} (h : (realm, c) ∈ s.components) :
    s.updateComponent realm c = s := by
  refine ext' ((List.map_congr_left fun e he => ?_).trans (List.map_id _)) rfl
  rw [replace_eq h rfl he]
  split_ifs with h'
  · exact h'.symm
  · rfl

theorem mem_updateComponent {realm : String} {c : Component} {e : String × Component} (he : e ∈ s.components)
    (hk : key e ≠ (realm, c.id)) : e ∈ (s.updateComponent realm c).components :=
  List.mem_map.2 ⟨e, he, if_neg hk⟩

theorem others_updateComponent (realm : String) (c : Component) :
    (s.updateComponent realm c).others (realm, c.id) = s.others (realm, c.id) := by
  simp only [others, updateComponent, List.filter_map]
  rw [List.filter_congr (q := fun e => key e ≠ (realm, c.id)) fun e _ => by simp]
  refine (List.map_congr_left fun e he => ?_).trans (List.map_id _)
  simp only [List.mem_filter, decide_eq_true_eq] at he
  simp [replace, he.2]

/-! ## `CreateComponent` and `DeleteComponent` -/

theorem named_deleteComponent_sublist (realm : String) (id : Nat) (r n : String) :
    ((s.deleteComponent realm id).named r n).Sublist (s.named r n) :=
  ((List.filter_sublist s.components).filter _).map _


theorem named_createComponent (realm : String) (c : Component) (r n : String) :
    (s.createComponent realm c).named r n =
      s.named r n ++ if realm = r ∧ c.name = n then [{ c with id := s.nextID }] else [] := by
  simp only [named, createComponent, List.filter_append, List.map_append]
  by_cases h : realm = r ∧ c.name = n <;> simp [h]

theorem getComponent_createComponent (realm : String) (c : Component) (r n : String) :
    (s.createComponent realm c).getComponent r n =
      (s.getComponent r n).or (if realm = r ∧ c.name = n then some { c with id := s.nextID } else none) := by
  simp only [getComponent, createComponent, List.find?_append]
  by_cases h : realm = r ∧ c.name = n <;> cases s.components.find? (isNamed r n) <;> simp [h]

theorem getComponent_createComponent_of_ne {realm r n : String} {c : Component}
    (hne : ¬(realm = r ∧ c.name = n)) : (s.createComponent realm c).getComponent r n = s.getComponent r n := by
  rw [getComponent_createComponent, if_neg hne, Option.or_none]

/-- A fresh key is under no stored component. -/
theorem others_fresh (realm : String) : s.others (realm, s.nextID) = s.components := by
  refine List.filter_eq_self.2 fun e he => ?_
  have := s.id_lt e he
  simp only [key, ne_eq, Prod.ext_iff, not_and, decide_eq_true_eq]
  omega

theorem others_createComponent (realm : String) (c : Component) :
    (s.createComponent realm c).others (realm, s.nextID) = s.components := by
  simp [others, createComponent, List.filter_append]
  exact fun r c hm _ => (s.id_lt _ hm).ne

theorem keys_deleteComponent (realm : String) (id : Nat) :
    (s.deleteComponent realm id).keys = s.keys.filter (· ≠ (realm, id)) := by
  simp [keys, deleteComponent, List.filter_map, Function.comp_def]

/-- Deleting under another key keeps the first component of every name that is not under the deleted key. -/
theorem getComponent_deleteComponent {realm r n : String} {id : Nat} {c : Component}
    (h : s.getComponent r n = some c) (hk : (r, c.id) ≠ (realm, id)) :
    (s.deleteComponent realm id).getComponent r n = some c := by
  obtain ⟨e, he, rfl⟩ := Option.map_eq_some'.1 h
  have hr : e.1 = r ∧ e.2.name = n := by simpa [isNamed] using List.find?_some he
  have hq := find?_and (q := fun x => key x ≠ (realm, id)) he (by simp only [key, hr.1, decide_eq_true_eq]; exact hk)
  simp only [getComponent, deleteComponent, List.find?_filter]
  rw [find?_congr (q := fun a => isNamed r n a && decide (key a ≠ (realm, id)))
    fun x _ => by simp [Bool.and_comm], hq]
  rfl

/-- Deleting the first component of a name keeps the first component of every other name. -/
theorem getComponent_deleteComponent_of_ne {realm name r n : String} {c : Component}
    (h : s.getComponent realm name = some c) (hne : ¬(r = realm ∧ n = name)) :
    (s.deleteComponent realm c.id).getComponent r n = s.getComponent r n := by
  cases hg : s.getComponent r n with
  | some c' =>
    refine getComponent_deleteComponent hg fun hk => hne ?_
    obtain ⟨rfl, hid⟩ := Prod.mk.inj hk
    obtain ⟨h₀, rfl⟩ := getComponent_spec h
    obtain ⟨h₀', rfl⟩ := getComponent_spec hg
    obtain ⟨-, rfl⟩ := Prod.mk.inj (key_inj h₀' h₀ (by simp [hid]))
    exact ⟨rfl, rfl⟩
  | none =>
    rw [getComponent_eq_none] at hg ⊢
    exact List.eq_nil_of_sublist_nil (hg ▸ named_deleteComponent_sublist (s := s) realm c.id r n)

/-- Deleting the only component of a name leaves none. -/
theorem getComponent_deleteComponent_self {realm name : String} {c : Component}
    (h : s.getComponent realm name = some c) (h1 : (s.named realm name).length ≤ 1) :
    (s.deleteComponent realm c.id).getComponent realm name = none := by
  rw [getComponent_eq_none]
  have hsub := named_deleteComponent_sublist (s := s) realm c.id realm name
  rw [named_eq_of_getComponent h h1] at hsub
  rcases List.sublist_singleton.1 hsub with hn | hn
  · exact hn
  · have hc : c ∈ (s.deleteComponent realm c.id).named realm name := hn ▸ List.mem_singleton_self c
    simp [mem_named] at hc

/-! ## Unique names -/

/-- Every realm holds at most one component of each name. -/
def NamesUnique (s : ComponentStore) : Prop := ∀ r n, (s.named r n).length ≤ 1

theorem namesUnique_empty : empty.NamesUnique := fun _ _ => by simp [named, empty]

theorem namesUnique_updateComponent {realm : String} {c₀ c : Component} (h : s.NamesUnique)
    (h₀ : (realm, c₀) ∈ s.components) (hid : c₀.id = c.id) (hname : c₀.name = c.name) :
    (s.updateComponent realm c).NamesUnique := fun r n => by
  rw [named_updateComponent h₀ hid hname, List.length_map]
  exact h r n

/-- Creating a component of a name the realm does not hold yet keeps names unique. -/
theorem namesUnique_createComponent {realm : String} {c : Component} (h : s.NamesUnique)
    (hnone : s.named realm c.name = []) : (s.createComponent realm c).NamesUnique := fun r n => by
  rw [named_createComponent]
  by_cases hr : realm = r ∧ c.name = n
  · obtain ⟨rfl, rfl⟩ := hr
    simp [hnone]
  · simpa [hr] using h r n

theorem namesUnique_deleteComponent (h : s.NamesUnique) (realm : String) (id : Nat) :
    (s.deleteComponent realm id).NamesUnique := fun r n =>
  (named_deleteComponent_sublist realm id r n).length_le.trans (h r n)

end ComponentStore

end KeycloakOperator
