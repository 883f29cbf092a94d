import EntityForms.Config.Reading
import EntityForms.Details.Run
import EntityForms.EditSession.Run
import EntityForms.Entity.Console
import EntityForms.ListView
import EntityForms.Status
import EntityForms.Proofs.Backend.Urls
import EntityForms.Proofs.Binary64.Integers
import EntityForms.Proofs.Binary64.Reading
import EntityForms.Proofs.Codec.Acceptance
import EntityForms.Proofs.Codec.Fields
import EntityForms.Proofs.Codec.NormalForm
import EntityForms.Proofs.Codec.RoundTrip
import EntityForms.Proofs.Codec.Splitting
import EntityForms.Proofs.Details.Confidential
import EntityForms.Proofs.Details.History
import EntityForms.Proofs.Details.Locked
import EntityForms.Proofs.Details.Privilege
import EntityForms.Proofs.Details.Saving
import EntityForms.Proofs.Details.Secret
import EntityForms.Proofs.Details.TableNames
import EntityForms.Proofs.EditSession.Forgetting
import EntityForms.Proofs.EditSession.Gates
import EntityForms.Proofs.EditSession.History
import EntityForms.Proofs.EditSession.Loaded
import EntityForms.Proofs.EditSession.Messages
import EntityForms.Proofs.EditSession.Posting
import EntityForms.Proofs.EditSession.Required
import EntityForms.Proofs.EditSession.Resubmission
import EntityForms.Proofs.EditSession.Step
import EntityForms.Proofs.EditSession.Trail
import EntityForms.Proofs.EditSession.Typing
import EntityForms.Proofs.EditSession.Update
import EntityForms.Proofs.Entity.Registration
import EntityForms.Proofs.Entity.Typing
import EntityForms.Proofs.FieldTable.Declaration
import EntityForms.Proofs.Form.Choices
import EntityForms.Proofs.Form.Coercion
import EntityForms.Proofs.Form.NumberInput
import EntityForms.Proofs.Form.Range
import EntityForms.Proofs.Form.Typing
import EntityForms.Proofs.Form.Validation
import EntityForms.Proofs.ListView.Cells
import EntityForms.Proofs.Status.Index
import EntityForms.Proofs.Wire.Acceptance
import EntityForms.Proofs.Wire.Members
import EntityForms.Proofs.Wire.Writing
