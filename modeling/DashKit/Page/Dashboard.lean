import DashKit.Dashboard.Orders
import DashKit.Page.Button
import DashKit.Page.Chart

/-!
# The Dashboard Page

A page over the orders: cards with their summary, a chart of the revenue, and
a table.

## Main definitions

* `statCard`, `orderRow`: A card and a row of the table.
* `dashboardPage`: The page.
-/

namespace DashKit

variable {σ : Type}

/-- The chart of the revenue by channel. -/
def revenueChart : ChartConfig :=
  (({} : ChartConfig).add "desktop" ⟨"Desktop", some (.themed "#2563eb" "#60a5fa")⟩).add "mobile"
    ⟨"Mobile", some (.themed "#0d9488" "#5eead4")⟩

/-- How the status of an order is meant. -/
def OrderStatus.tone : OrderStatus → Tone
  | paid => .success
  | pending => .warning
  | refunded => .danger

/-- A card with one number. -/
def statCard (title value hint : String) : Component σ :=
  boxed "div" "card stat-card"
    [boxed "span" "stat-card__title" [.text title],
     boxed "span" "stat-card__value" [.text value],
     boxed "span" "stat-card__hint" [.text hint]]

/-- A row of the table of orders. -/
def orderRow (order : Order) : Component σ :=
  .element "tr" {}
    [.element "td" {} [.text order.id],
     .element "td" {}
      [boxed "div" "orders__customer" [.text order.customer],
       boxed "div" "orders__email" [.text order.email]],
     .element "td" {} [badge order.status.tone order.status.word],
     boxed "td" "orders__amount" [.text (moneyText order.cents)]]

/-- The cards of a summary. -/
def statCards (summary : Summary) : Component σ :=
  boxed "section" "dashboard__stats"
    [statCard "Revenue" (moneyText summary.revenue) "Paid orders",
     statCard "Orders" (toString summary.orders) (toString summary.pending ++ " pending"),
     statCard "Average order" (moneyText summary.average) "Across paid orders",
     statCard "Refunds" (toString summary.refunded) "This period"]

/-- The chart of some months. -/
def revenueSection (months : List MonthlyRevenue) : Component σ :=
  let labels := months.map MonthlyRevenue.month
  boxed "section" "card dashboard__chart"
    [boxed "h2" "card__title" [.text "Revenue by channel"],
     chartContainer "revenue" revenueChart
      [boxed "div" "chart-bars-group"
        [chartBars "desktop" labels (months.map fun m => Float.ofNat m.desktop),
         chartBars "mobile" labels (months.map fun m => Float.ofNat m.mobile)],
       chartLegend revenueChart]]

/-- The table of some orders. -/
def orderSection (orders : List Order) : Component σ :=
  let headings := ["Order", "Customer", "Status", "Amount"]
  boxed "section" "card dashboard__orders"
    [boxed "h2" "card__title" [.text "Recent orders"],
     boxed "table" "orders"
      [.element "thead" {}
        [.element "tr" {} (headings.map fun heading => .element "th" {} [.text heading])],
       .element "tbody" {} (orders.map orderRow)]]

/-- The page over the recent orders. -/
def dashboardPage : Component σ :=
  boxed "div" "dashboard"
    [boxed "h1" "page-title" [.text "Dashboard"],
     statCards (Summary.ofOrders recentOrders),
     revenueSection monthlyRevenue,
     orderSection recentOrders]

end DashKit
