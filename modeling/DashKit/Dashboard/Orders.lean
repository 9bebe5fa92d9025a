import DashKit.Dashboard.Money

/-!
# Orders

The orders on the dashboard and what they amount to.

Only paid orders bring revenue; pending and refunded ones are counted and
nothing more. The average is taken over the paid orders and rounded down, and
it is zero when there are none.

## Main definitions

* `Order`, `OrderStatus`: An order and how it stands.
* `Summary`, `Summary.ofOrders`: Counts, revenue and average.
* `recentOrders`, `monthlyRevenue`: What the dashboard shows.
-/

namespace DashKit

/-- How an order stands. -/
inductive OrderStatus
  | paid
  | pending
  | refunded
  deriving DecidableEq, Repr

/-- The text form of a status. -/
def OrderStatus.word : OrderStatus → String
  | paid => "paid"
  | pending => "pending"
  | refunded => "refunded"

/-- An order of a customer. -/
structure Order where
  id : String
  customer : String
  email : String
  status : OrderStatus
  cents : UInt64
  deriving DecidableEq, Repr

/-- What a list of orders amounts to. -/
structure Summary where
  /-- The sum of the paid orders in cents. -/
  revenue : UInt64
  orders : Nat
  paid : Nat
  pending : Nat
  refunded : Nat
  /-- The average of the paid orders in cents, rounded down. -/
  average : UInt64
  deriving DecidableEq, Repr

namespace Summary

/-- The number of orders with a status. -/
def countOf (status : OrderStatus) (orders : List Order) : Nat :=
  orders.countP fun order => order.status = status

/-- The amounts of the paid orders. -/
def paidAmounts (orders : List Order) : List UInt64 :=
  (orders.filter fun order => order.status = .paid).map Order.cents

/-- The summary of a list of orders. There may be any number of them: the average
    of paid orders is never more than their revenue, so it fits. -/
def ofOrders (orders : List Order) : Summary :=
  let revenue := (paidAmounts orders).foldl (· + ·) 0
  let paid := countOf .paid orders
  { revenue, paid
    orders := orders.length
    pending := countOf .pending orders
    refunded := countOf .refunded orders
    average := if paid = 0 then 0 else UInt64.ofNat (revenue.toNat / paid) }

end Summary

/-- The orders on the dashboard. -/
def recentOrders : List Order :=
  [⟨"ORD-1042", "Olivia Martin", "olivia@example.com", .paid, 199900⟩,
   ⟨"ORD-1041", "Jackson Lee", "jackson@example.com", .pending, 3900⟩,
   ⟨"ORD-1040", "Isabella Nguyen", "isabella@example.com", .paid, 29900⟩,
   ⟨"ORD-1039", "William Kim", "will@example.com", .refunded, 9900⟩,
   ⟨"ORD-1038", "Sofia Davis", "sofia@example.com", .paid, 3900⟩]

/-- The revenue of one month by channel, in dollars. -/
structure MonthlyRevenue where
  month : String
  desktop : Nat
  mobile : Nat
  deriving DecidableEq, Repr

/-- The months on the dashboard. -/
def monthlyRevenue : List MonthlyRevenue :=
  [⟨"Jan", 186, 80⟩, ⟨"Feb", 305, 200⟩, ⟨"Mar", 237, 120⟩,
   ⟨"Apr", 73, 190⟩, ⟨"May", 209, 130⟩, ⟨"Jun", 214, 140⟩]

end DashKit
