import Entitlement.Access.Checker
import Entitlement.Config.Source
import Entitlement.Proofs.Access.ComputeOnce
import Entitlement.Proofs.Access.DelimitedNames
import Entitlement.Proofs.Access.FailedResolution
import Entitlement.Proofs.Access.SessionAgreement
import Entitlement.Proofs.Attribute.FloatText
import Entitlement.Proofs.Attribute.RowHistory
import Entitlement.Proofs.Condition.EmptyValue
import Entitlement.Proofs.Condition.ExactValues
import Entitlement.Proofs.Condition.ModeAgreement
import Entitlement.Proofs.Condition.NumberGrammar
import Entitlement.Proofs.Condition.PastedValue
import Entitlement.Proofs.Condition.Precedence
import Entitlement.Proofs.Condition.Readings
import Entitlement.Proofs.Condition.Roles
import Entitlement.Proofs.Condition.Stretches
import Entitlement.Proofs.Condition.WholeWords
import Entitlement.Proofs.Config.EnvironmentLayer
import Entitlement.Proofs.Config.Stacking
import Entitlement.Proofs.Rule.WrittenKeys
import Entitlement.Proofs.Store.StoreAgreement
import Entitlement.Sql.Store
import Entitlement.Store.Directory
