import PasskeyCeremony.Ceremony.AbortSignal
import PasskeyCeremony.Ceremony.Authentication
import PasskeyCeremony.Ceremony.Deletion
import PasskeyCeremony.Ceremony.Registration
import PasskeyCeremony.Proofs.Registration.Course
import PasskeyCeremony.Session.Step
import PasskeyCeremony.Settings.EnvFile
import PasskeyCeremony.Proofs.Registration.StepUp
import PasskeyCeremony.Proofs.Deletion.Course
import PasskeyCeremony.Proofs.Deletion.Reauthentication
import PasskeyCeremony.Proofs.Url.Percent
import PasskeyCeremony.Proofs.Url.Segments
import PasskeyCeremony.Proofs.Url.Web
import PasskeyCeremony.Proofs.Deletion.Address
import PasskeyCeremony.Proofs.Prompt.Dialog
import PasskeyCeremony.Proofs.Prompt.Naming
import PasskeyCeremony.Proofs.Credential.Normal
import PasskeyCeremony.Proofs.Retrieval.Platform
import PasskeyCeremony.Proofs.Retrieval.Window
import PasskeyCeremony.Proofs.Confirmation.Lives
import PasskeyCeremony.Proofs.Confirmation.Visits
import PasskeyCeremony.Proofs.Confirmation.Supersession
import PasskeyCeremony.Proofs.Authentication.Course
import PasskeyCeremony.Proofs.Authentication.Order
import PasskeyCeremony.Proofs.Ceremony.Account
import PasskeyCeremony.Proofs.Session.Navigation
import PasskeyCeremony.Proofs.Ceremony.Alike
import PasskeyCeremony.Proofs.Ceremony.Diagnostics
import PasskeyCeremony.Proofs.Session.Alike
import PasskeyCeremony.Proofs.Credential.Egress
import PasskeyCeremony.Proofs.Ceremony.Token
import PasskeyCeremony.Proofs.Naming.Turns
import PasskeyCeremony.Proofs.Session.Reuse
import PasskeyCeremony.Proofs.Prompt.Uniqueness
import PasskeyCeremony.Proofs.Base64.Repair
import PasskeyCeremony.Proofs.Credential.Walk
import PasskeyCeremony.Proofs.Credential.Frame
import PasskeyCeremony.Proofs.Credential.Transports
import PasskeyCeremony.Proofs.Credential.Enumeration
import PasskeyCeremony.Proofs.Json.Order
import PasskeyCeremony.Proofs.Page.Form
import PasskeyCeremony.Proofs.Page.Modal
import PasskeyCeremony.Proofs.Ceremony.Answers
import PasskeyCeremony.Proofs.Naming.Feedback
import PasskeyCeremony.Proofs.Options.Request
import PasskeyCeremony.Proofs.Registration.Attachment
import PasskeyCeremony.Proofs.Naming.Button
import PasskeyCeremony.Proofs.Settings.Window
