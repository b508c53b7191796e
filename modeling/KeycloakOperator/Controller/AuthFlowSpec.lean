import Mathlib.Data.List.Basic

/-!
# The auth flow spec and its adapter form

`authFlowSpecToAdapterAuthFlow` copies the flow's fields and then, in a loop, appends one adapter execution per spec
execution to a list that starts empty. The loop is a map (`foldl_appendExecution`), so the flow has exactly the
spec's executions, in order, each converted once (`authFlowSpecToAdapterAuthFlow_eq`,
`authFlowSpecToAdapterAuthFlow_correct`).
-/

namespace KeycloakOperator

/-! ## The API types -/

namespace V1alpha1

/-- `v1alpha1.AuthenticatorConfig`. -/
structure AuthenticatorConfig where
  alias_ : String
  config : List (String × String)
deriving DecidableEq, Repr

/-- `v1alpha1.AuthenticationExecution`, the fields the controller reads. -/
structure AuthenticationExecution where
  authenticator : String
  authenticatorConfig : Option AuthenticatorConfig
  authenticatorFlow : Bool
  priority : Int
  requirement : String
deriving DecidableEq, Repr

end V1alpha1

/-- `v1alpha1.KeycloakAuthFlowSpec`, the fields the controller reads. -/
structure KeycloakAuthFlowSpec where
  alias_ : String
  description : String
  providerID : String
  topLevel : Bool
  builtIn : Bool
  authenticationExecutions : List V1alpha1.AuthenticationExecution
deriving DecidableEq, Repr

/-! ## The adapter types -/

namespace Adapter

/-- `adapter.AuthenticatorConfig`. -/
structure AuthenticatorConfig where
  alias_ : String
  config : List (String × String)
deriving DecidableEq, Repr

/-- `adapter.AuthenticationExecution`, the fields the controller writes (`AutheticatorFlow` is spelled as there). -/
structure AuthenticationExecution where
  authenticator : String
  authenticatorConfig : Option AuthenticatorConfig
  autheticatorFlow : Bool
  priority : Int
  requirement : String
deriving DecidableEq, Repr

/-- `adapter.KeycloakAuthFlow`. -/
structure KeycloakAuthFlow where
  alias_ : String
  description : String
  providerID : String
  topLevel : Bool
  builtIn : Bool
  authenticationExecutions : List AuthenticationExecution
deriving DecidableEq, Repr

end Adapter

/-! ## The conversion -/

namespace AuthFlow

/-- The body of the loop: `exec` with the authenticator config copied when the spec has one. -/
def adapterExecution (ae : V1alpha1.AuthenticationExecution) : Adapter.AuthenticationExecution :=
  let exec : Adapter.AuthenticationExecution :=
    { authenticator := ae.authenticator, requirement := ae.requirement, priority := ae.priority,
      autheticatorFlow := ae.authenticatorFlow, authenticatorConfig := none }
  match ae.authenticatorConfig with
  | some cfg => { exec with authenticatorConfig := some { alias_ := cfg.alias_, config := cfg.config } }
  | none => exec

/-- One turn of the loop: `flow.AuthenticationExecutions = append(flow.AuthenticationExecutions, exec)`. -/
def appendExecution (flow : Adapter.KeycloakAuthFlow) (ae : V1alpha1.AuthenticationExecution) :
    Adapter.KeycloakAuthFlow :=
  { flow with authenticationExecutions := flow.authenticationExecutions ++ [adapterExecution ae] }

/-- `authFlowSpecToAdapterAuthFlow`. -/
def authFlowSpecToAdapterAuthFlow (spec : KeycloakAuthFlowSpec) : Adapter.KeycloakAuthFlow :=
  spec.authenticationExecutions.foldl appendExecution
    { alias_ := spec.alias_, description := spec.description, builtIn := spec.builtIn, providerID := spec.providerID,
      topLevel := spec.topLevel, authenticationExecutions := [] }

/-- The loop appends the converted executions, in order, and touches nothing else. -/
theorem foldl_appendExecution (aes : List V1alpha1.AuthenticationExecution) (flow : Adapter.KeycloakAuthFlow) :
    aes.foldl appendExecution flow =
      { flow with authenticationExecutions := flow.authenticationExecutions ++ aes.map adapterExecution } := by
  induction aes generalizing flow with
  | nil => simp
  | cons ae aes ih => simp [ih, appendExecution]

/-- The flow is the spec's fields with its executions mapped. -/
theorem authFlowSpecToAdapterAuthFlow_eq (spec : KeycloakAuthFlowSpec) :
    authFlowSpecToAdapterAuthFlow spec =
      { alias_ := spec.alias_, description := spec.description, builtIn := spec.builtIn,
        providerID := spec.providerID, topLevel := spec.topLevel,
        authenticationExecutions := spec.authenticationExecutions.map adapterExecution } := by
  rw [authFlowSpecToAdapterAuthFlow, foldl_appendExecution]
  rfl

@[simp] theorem alias_authFlowSpecToAdapterAuthFlow (spec : KeycloakAuthFlowSpec) :
    (authFlowSpecToAdapterAuthFlow spec).alias_ = spec.alias_ := by
  rw [authFlowSpecToAdapterAuthFlow_eq]

/-- The converted execution carries the spec's fields, and a config exactly when the spec has one. -/
theorem adapterExecution_fields (ae : V1alpha1.AuthenticationExecution) :
    (adapterExecution ae).authenticator = ae.authenticator ∧ (adapterExecution ae).requirement = ae.requirement ∧
      (adapterExecution ae).priority = ae.priority ∧ (adapterExecution ae).autheticatorFlow = ae.authenticatorFlow ∧
      (adapterExecution ae).authenticatorConfig =
        ae.authenticatorConfig.map fun cfg => ⟨cfg.alias_, cfg.config⟩ := by
  unfold adapterExecution
  cases ae.authenticatorConfig <;> simp

/-- **Every execution is converted exactly once and in order.** -/
theorem authFlowSpecToAdapterAuthFlow_correct (s : KeycloakAuthFlowSpec) :
    (authFlowSpecToAdapterAuthFlow s).alias_ = s.alias_ ∧
      (authFlowSpecToAdapterAuthFlow s).description = s.description ∧
      (authFlowSpecToAdapterAuthFlow s).builtIn = s.builtIn ∧
      (authFlowSpecToAdapterAuthFlow s).providerID = s.providerID ∧
      (authFlowSpecToAdapterAuthFlow s).topLevel = s.topLevel ∧
      (authFlowSpecToAdapterAuthFlow s).authenticationExecutions.length = s.authenticationExecutions.length ∧
      ∀ (i : Nat) (a : V1alpha1.AuthenticationExecution), s.authenticationExecutions[i]? = some a →
        ∃ e, (authFlowSpecToAdapterAuthFlow s).authenticationExecutions[i]? = some e ∧
          e.authenticator = a.authenticator ∧ e.requirement = a.requirement ∧ e.priority = a.priority ∧
          e.autheticatorFlow = a.authenticatorFlow ∧ (e.authenticatorConfig = none ↔ a.authenticatorConfig = none) ∧
          ∀ cfg, a.authenticatorConfig = some cfg →
            e.authenticatorConfig = some { alias_ := cfg.alias_, config := cfg.config } := by
  rw [authFlowSpecToAdapterAuthFlow_eq]
  simp only [List.length_map, List.getElem?_map, true_and]
  intro i a ha
  obtain ⟨h₁, h₂, h₃, h₄, h₅⟩ := adapterExecution_fields a
  refine ⟨_, by rw [ha]; rfl, h₁, h₂, h₃, h₄, ?_, fun cfg hc => by rw [h₅, hc]; rfl⟩
  rw [h₅]
  cases a.authenticatorConfig <;> simp

end AuthFlow

end KeycloakOperator
