import Mathlib.Data.List.AList
import Mathlib.Data.Rat.Defs
import Mathlib.Algebra.Order.Ring.Rat

/-!
Rows of the marketplace tables and the queries of `MarketplaceRepository` that
choose among them. Times are milliseconds since 1970.
-/
namespace Ngotag.Marketplace

inductive SubscriptionStatus where
  | pendingFulfillmentStart
  | subscribed
  | suspended
  | unsubscribed
  deriving DecidableEq
inductive ActivationStatus where
  | notStarted
  | inProgress
  | activated
  | failed
  deriving DecidableEq

/-- A row of `marketplace_subscription`. Its `id` and its
    `marketplaceSubscriptionId`, both unique, are one key here. -/
structure Subscription where
  offerId : String
  planId : String
  saasSubscriptionStatus : SubscriptionStatus
  quantity : Option Int
  termStartDate : Option Nat
  termEndDate : Option Nat
  purchaserEmail : Option String
  beneficiaryEmail : Option String
  localUserId : Option Nat
  orgId : Option Nat
  activationStatus : ActivationStatus
  createDateTime : Nat
  deletedAt : Option Nat
  deriving DecidableEq

abbrev Subscriptions := AList fun _ : Nat => Subscription
structure Plan where
  includedIssuanceTransactions : Int
  includedVerificationTransactions : Int
  includedSchemas : Int
  maxOrganizations : Option Int
  maxUsers : Option Int
  features : Option (List (String × Bool))
abbrev Plans := String → String → Option Plan
/-- `findFirst` ordered by `createDateTime`, the latest first. Which of the rows of
    the same time comes first is not determined. -/
def latest (table : Subscriptions) (wanted : Nat → Subscription → Bool) (tie : Nat) : Option (Nat × Subscription) :=
  let rows := (table.entries.map fun entry => (entry.1,entry.2)).filter fun row => wanted row.1 row.2
  let first := rows.filter fun row => rows.all fun other => other.2.createDateTime ≤ row.2.createDateTime
  first[tie % first.length]?
def getSubscriptionByOrgId (table : Subscriptions) (orgId : Nat) (tie : Nat) : Option (Nat × Subscription) :=
  latest table (fun _ row => row.orgId = some orgId && row.deletedAt = none) tie
def getActiveSubscriptionByOrgId (table : Subscriptions) (orgId exceptSubscriptionId : Nat) (tie : Nat) :
    Option (Nat × Subscription) :=
  latest table (fun id row => row.orgId = some orgId && row.deletedAt = none &&
    row.saasSubscriptionStatus ≠ .unsubscribed && id ≠ exceptSubscriptionId) tie
def listActiveSubscriptions (table : Subscriptions) : List (Nat × Subscription) :=
  (table.entries.map fun entry => (entry.1,entry.2)).filter fun row =>
    row.2.deletedAt = none && row.2.saasSubscriptionStatus = .subscribed

end Ngotag.Marketplace
