import SavingsSite.Json.Document
import SavingsSite.Main
import SavingsSite.Settings.Given
import SavingsSite.Settings.Session
import SavingsSite.Proofs.Accordion.Ids
import SavingsSite.Proofs.Composition.Alarms
import SavingsSite.Proofs.Content.Serialization
import SavingsSite.Proofs.Layout.Columns
import SavingsSite.Proofs.Layout.Widths
import SavingsSite.Proofs.Service.CrossOrigin
import SavingsSite.Proofs.Service.Failures
import SavingsSite.Proofs.Service.Order
import SavingsSite.Proofs.Service.Origins
import SavingsSite.Proofs.Service.Refinement
import SavingsSite.Proofs.Service.Robustness
import SavingsSite.Proofs.Service.Root
import SavingsSite.Proofs.Service.Sitemap
import SavingsSite.Proofs.Service.Startup
import SavingsSite.Proofs.Service.Visibility
import SavingsSite.Proofs.Settings.Accessor
import SavingsSite.Proofs.Settings.Export
import SavingsSite.Proofs.Settings.Loading
import SavingsSite.Proofs.Settings.Merging
