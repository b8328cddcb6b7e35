/-
# The activity on the dashboard

On-chain, Lightning, Arkade and Bark activity is merged, sorted with the newest first, and labeled
where an on-chain send and an Arkade credit belong to one boarding. Of the two, the credit is meant
to stand above the send.

The functions follow `lightning-dashboard-sync.ts` and `bitcoin-utils.ts`. The sort of the engine
is a parameter.
-/

import Bitboard.Lib.StableSort

namespace Bitboard.Frontend.DashboardActivity

open Bitboard.Lib

structure TransactionDetails where
  txid : String
  sentSats : Int
  receivedSats : Int
  feeSats : Option Int
  confirmationTime : Option Int
  isConfirmed : Bool
  isLabTx : Bool
  deriving DecidableEq

structure LightningPaymentWithWallet where
  paymentHash : String
  timestamp : Int
  connectionId : String
  deriving DecidableEq

inductive PaymentDirection where
  | incoming
  | outgoing
  deriving DecidableEq

structure ArkadePaymentRow where
  direction : PaymentDirection
  amountSats : Int
  timestamp : Int
  txid : String
  deriving DecidableEq

structure BarkMovementRow where
  id : Nat
  createdAtUnixSeconds : Int
  deriving DecidableEq

inductive DashboardActivityItem where
  | chain (tx : TransactionDetails) (activityLabel : Option String)
  | lightning (payment : LightningPaymentWithWallet)
  | arkade (payment : ArkadePaymentRow) (activityLabel : Option String)
  | bark (movement : BarkMovementRow)
  deriving DecidableEq

def ARKADE_BOARDING_ACTIVITY_LABEL : String := "Arkade boarding"

def ONCHAIN_ARKADE_BOARDING_ACTIVITY_LABEL : String := "Onchain Arkade boarding"

inductive TxDirection where
  | sent
  | received
  deriving DecidableEq

variable (tx : TransactionDetails)

def formatTxDirection : TxDirection :=
  if tx.receivedSats < tx.sentSats then .sent else .received

def getTxGrossWalletDebitSats : Int := tx.sentSats - tx.receivedSats

def getTxListDisplayAmountSats : Int :=
  match formatTxDirection tx with
  | .received => tx.receivedSats - tx.sentSats
  | .sent =>
    match tx.isLabTx, tx.feeSats with
    | false, some feeSats => getTxGrossWalletDebitSats tx - feeSats
    | _, _ => getTxGrossWalletDebitSats tx

def UNCONFIRMED_CHAIN_SORT_PRIORITY : Int := 9007199254740991

def chainSortTime : Int :=
  if tx.isConfirmed then tx.confirmationTime.getD 0 else UNCONFIRMED_CHAIN_SORT_PRIORITY

def lightningSortTime (payment : LightningPaymentWithWallet) : Int := payment.timestamp

def arkadeSortTime (payment : ArkadePaymentRow) : Int :=
  if 0 < payment.timestamp then payment.timestamp else 0

def barkSortTime (movement : BarkMovementRow) : Int := movement.createdAtUnixSeconds

def dashboardActivitySortTime : DashboardActivityItem → Int
  | .chain tx _ => chainSortTime tx
  | .lightning payment => lightningSortTime payment
  | .arkade payment _ => arkadeSortTime payment
  | .bark movement => barkSortTime movement

def BOARDING_FUNDING_TIMESTAMP_SLACK_SECONDS : Int := 1

def boardingFundingTimestampsMatch (chainConfirmationTime : Option Int) (arkadeTimestamp : Int) :
    Bool :=
  if chainConfirmationTime = none ∨ chainConfirmationTime = some 0 then arkadeTimestamp = 0
  else if arkadeTimestamp = 0 then false
  else chainConfirmationTime = some arkadeTimestamp ∨
    (chainConfirmationTime.getD 0 - arkadeTimestamp).natAbs ≤
      BOARDING_FUNDING_TIMESTAMP_SLACK_SECONDS

/-- An on-chain payment to the boarding address with the Arkade credit that it funds. -/
def isBoardingFundToVtxoPair (chainTx : TransactionDetails) (arkPayment : ArkadePaymentRow) :
    Bool :=
  if chainTx.isConfirmed = false then false
  else if formatTxDirection chainTx ≠ .sent ∨ arkPayment.direction ≠ .incoming then false
  else if getTxListDisplayAmountSats chainTx ≠ arkPayment.amountSats then false
  else boardingFundingTimestampsMatch chainTx.confirmationTime arkPayment.timestamp

def boardingActivitySortTieBreak (left right : DashboardActivityItem) : Int :=
  match left, right with
  | .arkade payment _, .chain tx _ =>
    if payment.direction = .incoming ∧ formatTxDirection tx = .sent ∧
        isBoardingFundToVtxoPair tx payment then -1
    else 0
  | .chain tx _, .arkade payment _ =>
    if formatTxDirection tx = .sent ∧ payment.direction = .incoming ∧
        isBoardingFundToVtxoPair tx payment then 1
    else 0
  | _, _ => 0

def compareDashboardActivityItems (left right : DashboardActivityItem) : Int :=
  let timeDelta := dashboardActivitySortTime right - dashboardActivitySortTime left
  if timeDelta ≠ 0 then timeDelta else boardingActivitySortTieBreak left right

/-- One round of the inner loop, for the on-chain item that the outer loop has read. -/
def labelPair (chainIndex : Nat) (tx : TransactionDetails) (labeled : List DashboardActivityItem)
    (arkIndex : Nat) : List DashboardActivityItem :=
  match labeled[arkIndex]? with
  | some (.arkade payment _) =>
    if isBoardingFundToVtxoPair tx payment then
      (labeled.set chainIndex (.chain tx (some ONCHAIN_ARKADE_BOARDING_ACTIVITY_LABEL))).set
        arkIndex (.arkade payment (some ARKADE_BOARDING_ACTIVITY_LABEL))
    else labeled
  | _ => labeled

def labelChainItem (labeled : List DashboardActivityItem) (chainIndex : Nat) :
    List DashboardActivityItem :=
  match labeled[chainIndex]? with
  | some (.chain tx _) => (List.range labeled.length).foldl (labelPair chainIndex tx) labeled
  | _ => labeled

def applyBoardingActivityLabels (items : List DashboardActivityItem) : List DashboardActivityItem :=
  (List.range items.length).foldl labelChainItem items

structure ActivityLists where
  onChain : List TransactionDetails
  lightning : List LightningPaymentWithWallet
  arkade : List ArkadePaymentRow
  bark : List BarkMovementRow

def ActivityLists.items (activity : ActivityLists) : List DashboardActivityItem :=
  activity.onChain.map (fun tx => .chain tx none) ++
    activity.lightning.map (fun payment => .lightning payment) ++
    activity.arkade.map (fun payment => .arkade payment none) ++
    activity.bark.map (fun movement => .bark movement)

def mergeAndSortDashboardActivity
    (sort : (DashboardActivityItem → DashboardActivityItem → Int) →
      List DashboardActivityItem → List DashboardActivityItem)
    (activity : ActivityLists) : List DashboardActivityItem :=
  applyBoardingActivityLabels (sort compareDashboardActivityItems activity.items)

def DashboardActivityItem.withoutLabel : DashboardActivityItem → DashboardActivityItem
  | .chain tx _ => .chain tx none
  | .lightning payment => .lightning payment
  | .arkade payment _ => .arkade payment none
  | .bark movement => .bark movement

def funds : DashboardActivityItem → DashboardActivityItem → Bool
  | .chain tx _, .arkade payment _ => isBoardingFundToVtxoPair tx payment
  | _, _ => false

structure ShowsActivity (activity : ActivityLists) (shown : List DashboardActivityItem) :
    Prop where
  every_item_once : (shown.map DashboardActivityItem.withoutLabel).Perm activity.items
  newest_first : shown.Pairwise fun upper lower =>
    dashboardActivitySortTime lower ≤ dashboardActivitySortTime upper
  credit_above : shown.Pairwise fun upper lower =>
    ¬ (dashboardActivitySortTime upper = dashboardActivitySortTime lower ∧
      funds upper lower = true)
  chain_label : ∀ tx label, .chain tx label ∈ shown →
    (label.isSome = true ↔ ∃ payment ∈ activity.arkade, isBoardingFundToVtxoPair tx payment = true)
  arkade_label : ∀ payment label, .arkade payment label ∈ shown →
    (label.isSome = true ↔ ∃ tx ∈ activity.onChain, isBoardingFundToVtxoPair tx payment = true)

/-- The comparator is one for any stable sort, and what is shown is right with each of them. -/
structure MergesActivity (activity : ActivityLists) : Prop where
  comparator : StrictWeakOrderOn compareDashboardActivityItems activity.items
  shown : ∀ sort, IsStableSort sort →
    ShowsActivity activity (mergeAndSortDashboardActivity sort activity)

/-- Beside a credit and the on-chain item that funds it, an item of the same sort time pairs with
one of the two. -/
def BoardingsAreAlone (activity : ActivityLists) : Prop :=
  ∀ credit ∈ activity.items, ∀ funding ∈ activity.items, ∀ other ∈ activity.items,
    dashboardActivitySortTime credit = dashboardActivitySortTime funding →
    dashboardActivitySortTime other = dashboardActivitySortTime funding →
    funds funding credit = true → funds other credit = true ∨ funds funding other = true

end Bitboard.Frontend.DashboardActivity
