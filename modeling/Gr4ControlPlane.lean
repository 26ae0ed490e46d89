import Gr4ControlPlane.App.Gr4Starts
import Gr4ControlPlane.App.Gr4Recovery
import Gr4ControlPlane.App.Gr4Shutdown
import Gr4ControlPlane.App.StreamPlans
import Gr4ControlPlane.App.Rejections
import Gr4ControlPlane.App.RuntimeFailures
import Gr4ControlPlane.App.BlockSettingsService
import Gr4ControlPlane.Domain.AuthoringForms
import Gr4ControlPlane.Runtime.BlockNames
import Gr4ControlPlane.Runtime.Connections
import Gr4ControlPlane.Catalog.ReflectionPayload
import Gr4ControlPlane.App.CatalogSelection
import Gr4ControlPlane.App.SettingsConversion
import Gr4ControlPlane.Runtime.StreamInjection
import Gr4ControlPlane.Runtime.BlockNormalization
import Gr4ControlPlane.Runtime.AcceptedGraphs
import Gr4ControlPlane.Api.SessionListings
import Gr4ControlPlane.Api.EncodedIds
import Gr4ControlPlane.Api.WebSocketGrammar
import Gr4ControlPlane.App.Gr4BlockSettings
import Gr4ControlPlane.App.HttpStreamFetches
import Gr4ControlPlane.Catalog.BlockIds
import Gr4ControlPlane.Catalog.CollectionPorts
import Gr4ControlPlane.Cli.ParsedUrl
import Gr4ControlPlane.App.LifecycleProgress
import Gr4ControlPlane.App.SettingsChannel
import Gr4ControlPlane.Api.ServerProgress
import Gr4ControlPlane.Api.SettingsApi
import Gr4ControlPlane.Api.CatalogApi
import Gr4ControlPlane.Api.ListingOrder
import Gr4ControlPlane.Cli.EndToEnd
