import KeycloakOperator.Helper
import KeycloakOperator.Adapter.Component
import KeycloakOperator.Controller.RealmChild
import KeycloakOperator.Controller.RealmComponent
import KeycloakOperator.Controller.AuthFlowSpec
import KeycloakOperator.Controller.AuthFlow
import KeycloakOperator.Controller.Runs
import KeycloakOperator.Controller.Refinement
import KeycloakOperator.Controller.Loop
import KeycloakOperator.Controller.Progress
import KeycloakOperator.Controller.Manager
