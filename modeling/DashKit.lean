import DashKit.Codec.Chart
import DashKit.Codec.Options
import DashKit.Codec.Sidebar
import DashKit.Design.Group
import DashKit.Host
import DashKit.Lifecycle.Registry
import DashKit.Page.App
import DashKit.Proofs.Chart.Additions
import DashKit.Proofs.Chart.Cascade
import DashKit.Proofs.Chart.Keys
import DashKit.Proofs.Chart.Lines
import DashKit.Proofs.Codec.Faithful
import DashKit.Proofs.Codec.Lenient
import DashKit.Proofs.Cookie.Browser
import DashKit.Proofs.Cookie.Echo
import DashKit.Proofs.Cookie.Lookup
import DashKit.Proofs.Design.History
import DashKit.Proofs.Host.Families
import DashKit.Proofs.Host.Sharing
import DashKit.Proofs.Lifecycle.Conservation
import DashKit.Proofs.Lifecycle.Order
import DashKit.Proofs.Page.Providers
import DashKit.Proofs.Page.Storages
import DashKit.Proofs.Reactive.Design
import DashKit.Proofs.Reactive.Hooks
import DashKit.Proofs.Reactive.Sidebar
import DashKit.Proofs.Sidebar.Agreement
import DashKit.Proofs.Sidebar.Axes
import DashKit.Proofs.Sidebar.Decoding
import DashKit.Proofs.Sidebar.Disabled
import DashKit.Proofs.Sidebar.Interleaving
import DashKit.Proofs.Sidebar.Memory
import DashKit.Sidebar.Group
import DashKit.Window
import DashKit.Proofs.Dashboard.Money
import DashKit.Proofs.Dashboard.Orders
import DashKit.Proofs.Options.Environment
import DashKit.Proofs.Preference.Words
import DashKit.Proofs.Reactive.Synchronisation
import DashKit.Proofs.Shortcut
import DashKit.Proofs.Codec.Trees
import DashKit.Proofs.Codec.Colors
import DashKit.Proofs.Chart.Heights
import DashKit.Proofs.Page.Markup
import DashKit.Proofs.Sidebar.Calls
import DashKit.Proofs.Sidebar.Flips
import DashKit.Proofs.Chart.References
