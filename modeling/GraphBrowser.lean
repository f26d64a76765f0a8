import GraphBrowser.Main
import GraphBrowser.Navigation.Script
import GraphBrowser.Proofs.View.Emptied
import GraphBrowser.Proofs.View.Links
import GraphBrowser.Proofs.View.Containers
import GraphBrowser.Proofs.Navigation.Stretch
import GraphBrowser.Proofs.Text.Trim
import GraphBrowser.Proofs.Navigation.Waiting
import GraphBrowser.Proofs.Navigation.Exchange
import GraphBrowser.Proofs.Navigation.Links
import GraphBrowser.Proofs.Navigation.Supersession
import GraphBrowser.Proofs.Navigation.Display
import GraphBrowser.Proofs.Navigation.LastLoad
import GraphBrowser.Proofs.Navigation.Rows
import GraphBrowser.Proofs.Navigation.Freshness
import GraphBrowser.Proofs.Navigation.Containers
import GraphBrowser.Proofs.Navigation.Course
import GraphBrowser.Proofs.Navigation.Alerts
import GraphBrowser.Proofs.Navigation.Latest
import GraphBrowser.Proofs.Resource.Address
import GraphBrowser.Proofs.Navigation.OwnNode
import GraphBrowser.Proofs.Navigation.WaysToNode
import GraphBrowser.Proofs.Navigation.Reorder
import GraphBrowser.Proofs.Text.Escaped
import GraphBrowser.Proofs.Markup.Shape
import GraphBrowser.Proofs.Text.Utf8
import GraphBrowser.Proofs.Text.FormEncoded
import GraphBrowser.Proofs.Markup.Tags
import GraphBrowser.Proofs.Markup.Anchors
import GraphBrowser.Proofs.Markup.Hrefs
import GraphBrowser.Proofs.Navigation.OneTable
import GraphBrowser.Proofs.Host.LinkRequests
import GraphBrowser.Proofs.Host.Run
import GraphBrowser.Proofs.Host.PageLinks
import GraphBrowser.Proofs.CommandLine.RenderedNode
import GraphBrowser.Proofs.Host.Responses
import GraphBrowser.Proofs.Markup.Retargeted
import GraphBrowser.Proofs.Markup.Lossless
import GraphBrowser.Proofs.View.Rendering
import GraphBrowser.Proofs.Resource.Written
import GraphBrowser.Proofs.Navigation.UnboundRows
import GraphBrowser.Proofs.Navigation.Footprint
import GraphBrowser.Proofs.Resource.Separators
import GraphBrowser.Proofs.Resource.BaseAddress
import GraphBrowser.Proofs.Json.Members
import GraphBrowser.Proofs.View.Properties
