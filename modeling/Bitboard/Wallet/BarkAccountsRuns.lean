/-
# Sequences of operations on Bark accounts

An operation leaves everything but its own fields of its own account, and so does a
sequence of operations. An account that no operation has rebuilt yet can lose values on
the way that are not in the kept form: an explicit false, an empty or unordered list of
items, a malformed claim. After the first rebuild nothing more is lost.
-/

import Bitboard.Wallet.BarkAccountsFrame

namespace Bitboard.Wallet

open Lib

variable {env : BarkEnvironment} {payload next : WalletSecretsPayload}
  {op : BarkAccountOp} {row account : StoredBarkAccount} {network : BarkRailNetwork}
  {first second : BarkAccountOp}

/-- The parts of a payload that are not Bark accounts are the same. -/
structure SameOtherParts (payload next : WalletSecretsPayload) : Prop where
  descriptorWallets : next.descriptorWallets = payload.descriptorWallets
  lightningNwcConnections : next.lightningNwcConnections = payload.lightningNwcConnections
  arkadeAccounts : next.arkadeAccounts = payload.arkadeAccounts
  activeArkadeAccountIdByNetwork :
    next.activeArkadeAccountIdByNetwork = payload.activeArkadeAccountIdByNetwork

/-- The accounts of all other networks, in their order. -/
def otherBarkAccounts (payload : WalletSecretsPayload) (networks : List BarkRailNetwork) :
    List StoredBarkAccount :=
  payload.barkAccounts.filter fun account => account.networkMode ∉ networks

def OneBarkAccountPerNetwork (payload : WalletSecretsPayload) : Prop :=
  (payload.barkAccounts.map StoredBarkAccount.networkMode).Nodup

/-- An operation changes its own fields of its own account. Every other field of the account
has its kept form, which is its value if the account was in the kept form. -/
structure ChangesOwnFields (env : BarkEnvironment) (op : BarkAccountOp)
    (payload next : WalletSecretsPayload) : Prop where
  otherParts : SameOtherParts payload next
  otherAccounts : otherBarkAccounts next [op.network] = otherBarkAccounts payload [op.network]
  ownAccount : ∀ row, findBarkAccount payload op.network = some row →
    next = payload ∨
      ∃ account, findBarkAccount next op.network = some account ∧ KeptForm env account ∧
        ∀ field, op.change.owns field = false →
          field.Agrees account (preservedAccount env row) ∧
            (KeptForm env row → field.Agrees account row)
  newAccount : findBarkAccount payload op.network = none →
    next = payload ∨
      ∃ freshId fingerprint receiveKeyIndex recordEnvelope,
        op.change = .opened freshId fingerprint receiveKeyIndex recordEnvelope ∧
        next = upsertBarkAccountInPayload payload
          (accountWithPreservedFields env freshId op.network none fingerprint
            receiveKeyIndex recordEnvelope)

theorem sameOtherParts_refl (payload : WalletSecretsPayload) : SameOtherParts payload payload where
  descriptorWallets := rfl
  lightningNwcConnections := rfl
  arkadeAccounts := rfl
  activeArkadeAccountIdByNetwork := rfl

variable (env) in
theorem sameOtherParts_step (payload : WalletSecretsPayload) (op : BarkAccountOp) :
    SameOtherParts payload (barkAccountStep env payload op) := by
  cases barkAccountStep_cases env payload op with
  | inl heq =>
    rw [heq]
    exact sameOtherParts_refl payload
  | inr hwrite =>
    obtain ⟨account, hnetwork, heq⟩ := hwrite
    rw [heq]
    exact {
      descriptorWallets := rfl
      lightningNwcConnections := rfl
      arkadeAccounts := rfl
      activeArkadeAccountIdByNetwork := rfl }

theorem otherBarkAccounts_step {networks : List BarkRailNetwork} (hmem : op.network ∈ networks) :
    otherBarkAccounts (barkAccountStep env payload op) networks =
      otherBarkAccounts payload networks := by
  cases barkAccountStep_cases env payload op with
  | inl heq => rw [heq]
  | inr hwrite =>
    obtain ⟨account, hnetwork, heq⟩ := hwrite
    have hfilter : ∀ rows : List StoredBarkAccount,
        (rows.filter fun other => other.networkMode ≠ account.networkMode).filter
            (fun other => other.networkMode ∉ networks) =
          rows.filter fun other => other.networkMode ∉ networks := by
      intro rows
      rw [List.filter_filter]
      apply List.filter_congr
      intro other hother
      rw [Bool.and_eq_left_iff_imp, decide_eq_true_eq, decide_eq_true_eq, hnetwork]
      intro hnotMem heq
      exact hnotMem (heq ▸ hmem)
    rw [heq, otherBarkAccounts, otherBarkAccounts, ← hfilter, ← hfilter payload.barkAccounts]
    exact congrArg _ filter_putRow

theorem oneBarkAccountPerNetwork_step (hone : OneBarkAccountPerNetwork payload) :
    OneBarkAccountPerNetwork (barkAccountStep env payload op) := by
  cases barkAccountStep_cases env payload op with
  | inl heq => rwa [heq]
  | inr hwrite =>
    obtain ⟨account, hnetwork, heq⟩ := hwrite
    rw [heq]
    exact nodup_map_putRow hone

variable (env) in
/-- Every operation changes its own fields alone. -/
theorem changesOwnFields_step (payload : WalletSecretsPayload) (op : BarkAccountOp) :
    ChangesOwnFields env op payload (barkAccountStep env payload op) where
  otherParts := sameOtherParts_step env payload op
  otherAccounts := otherBarkAccounts_step (List.mem_singleton_self _)
  ownAccount := by
    intro row hrow
    rw [barkAccountStep_of_found hrow]
    split
    · rename_i haccepts
      right
      have hnetwork : (op.change.rewrite env row).networkMode = op.network := by
        rw [rewrite_networkMode]
        exact findBarkAccount_networkMode hrow
      refine ⟨_, findBarkAccount_upsert_self hnetwork, keptForm_rewrite haccepts, ?_⟩
      intro field hother
      have hagrees := rewrite_agrees_preservedAccount env row hother
      refine ⟨hagrees, ?_⟩
      intro hkept
      rwa [hkept.preservedAccount_eq] at hagrees
    · exact .inl rfl
  newAccount := by
    intro hrow
    rw [barkAccountStep_of_missing hrow]
    obtain ⟨network, change⟩ := op
    cases change with
    | opened freshId fingerprint index envelope =>
      dsimp only [BarkAccountChange.created]
      split
      · rename_i created hcreated
        rw [Option.ite_none_right_eq_some, Option.some.injEq] at hcreated
        rw [← hcreated.2]
        exact .inr ⟨freshId, fingerprint, index, envelope, rfl, rfl⟩
      · exact .inl rfl
    | _ => exact .inl rfl

section

variable (hnetwork : first.network = second.network)
include hnetwork

section

variable (hrow : findBarkAccount payload first.network = some row)
include hrow

/-- What two operations that are both carried out on one account leave. -/
theorem barkAccountStep_step_of_accepts
    (hdisjoint : ∀ field, ¬(first.change.owns field = true ∧ second.change.owns field = true))
    (hfirst : first.change.accepts env row = true)
    (hsecond : second.change.accepts env row = true) :
    barkAccountStep env (barkAccountStep env payload first) second =
      upsertBarkAccountInPayload payload
        (second.change.rewrite env (first.change.rewrite env row)) := by
  have hmode : (first.change.rewrite env row).networkMode = second.network := by
    rw [rewrite_networkMode, ← hnetwork]
    exact findBarkAccount_networkMode hrow
  have hstep : barkAccountStep env payload first =
      upsertBarkAccountInPayload payload (first.change.rewrite env row) := by
    rw [barkAccountStep_of_found hrow, if_pos hfirst]
  have hfound : findBarkAccount (barkAccountStep env payload first) second.network =
      some (first.change.rewrite env row) := by
    rw [hstep]
    exact findBarkAccount_upsert_self hmode
  rw [barkAccountStep_of_found hfound, accepts_rewrite hdisjoint hfirst, if_pos hsecond, hstep]
  apply upsert_upsert_self
  exact rewrite_networkMode

theorem barkAccountStep_step_of_not_accepts
    (hdisjoint : ∀ field, ¬(first.change.owns field = true ∧ second.change.owns field = true))
    (hsecond : second.change.accepts env row = false) :
    barkAccountStep env (barkAccountStep env payload first) second =
      barkAccountStep env payload first := by
  cases hfirst : first.change.accepts env row with
  | false =>
    rw [barkAccountStep_of_found hrow, if_neg (by simp [hfirst]),
      barkAccountStep_of_found (hnetwork ▸ hrow), if_neg (by simp [hsecond])]
  | true =>
    have hmode : (first.change.rewrite env row).networkMode = second.network := by
      rw [rewrite_networkMode, ← hnetwork]
      exact findBarkAccount_networkMode hrow
    rw [barkAccountStep_of_found hrow, if_pos hfirst,
      barkAccountStep_of_found (findBarkAccount_upsert_self hmode),
      accepts_rewrite hdisjoint hfirst, if_neg (by simp [hsecond])]

/-- Operations on one account that have no field in common commute. -/
theorem barkAccountStep_comm_of_fields
    (hdisjoint : ∀ field, ¬(first.change.owns field = true ∧ second.change.owns field = true)) :
    barkAccountStep env (barkAccountStep env payload first) second =
      barkAccountStep env (barkAccountStep env payload second) first := by
  have hrow' : findBarkAccount payload second.network = some row := by rwa [← hnetwork]
  have hdisjoint' : ∀ field,
      ¬(second.change.owns field = true ∧ first.change.owns field = true) := by
    intro field hboth
    exact hdisjoint field hboth.symm
  cases hfirst : first.change.accepts env row with
  | false =>
    rw [barkAccountStep_step_of_not_accepts hnetwork.symm hrow' hdisjoint' hfirst,
      barkAccountStep_of_found hrow, if_neg (by simp [hfirst])]
  | true =>
    cases hsecond : second.change.accepts env row with
    | false =>
      rw [barkAccountStep_step_of_not_accepts hnetwork hrow hdisjoint hsecond,
        barkAccountStep_of_found hrow', if_neg (by simp [hsecond])]
    | true =>
      rw [barkAccountStep_step_of_accepts hnetwork hrow hdisjoint hfirst hsecond,
        barkAccountStep_step_of_accepts hnetwork.symm hrow' hdisjoint' hsecond hfirst,
        rewrite_comm hdisjoint hfirst hsecond]

end

end

/-- What an operation writes depends on the account of its network alone. -/
theorem exists_barkAccountStep_eq (env : BarkEnvironment) (payload : WalletSecretsPayload)
    (op : BarkAccountOp) :
    (∀ other, findBarkAccount other op.network = findBarkAccount payload op.network →
      barkAccountStep env other op = other) ∨
    ∃ account, account.networkMode = op.network ∧
      ∀ other, findBarkAccount other op.network = findBarkAccount payload op.network →
        barkAccountStep env other op = upsertBarkAccountInPayload other account := by
  cases hrow : findBarkAccount payload op.network with
  | none =>
    cases haccount : op.change.created env op.network with
    | none =>
      left
      intro other hother
      rw [barkAccountStep_of_missing hother, haccount]
    | some account =>
      right
      refine ⟨account, created_networkMode haccount, ?_⟩
      intro other hother
      rw [barkAccountStep_of_missing hother, haccount]
  | some row =>
    cases haccepts : op.change.accepts env row with
    | false =>
      left
      intro other hother
      rw [barkAccountStep_of_found hother, if_neg (by simp [haccepts])]
    | true =>
      right
      refine ⟨op.change.rewrite env row, ?_, ?_⟩
      · rw [rewrite_networkMode]
        exact findBarkAccount_networkMode hrow
      · intro other hother
        rw [barkAccountStep_of_found hother, if_pos haccepts]

/-- Operations on different networks commute but for the order of two new accounts. -/
theorem barkAccountStep_comm_of_networks (hnetwork : first.network ≠ second.network) :
    SameOtherParts (barkAccountStep env (barkAccountStep env payload first) second)
        (barkAccountStep env (barkAccountStep env payload second) first) ∧
      (barkAccountStep env (barkAccountStep env payload first)
          second).barkAccounts.Perm
        (barkAccountStep env (barkAccountStep env payload second)
          first).barkAccounts ∧
      (findBarkAccount payload first.network ≠ none ∨
          findBarkAccount payload second.network ≠ none →
        barkAccountStep env (barkAccountStep env payload first) second =
          barkAccountStep env (barkAccountStep env payload second) first) := by
  have hfirst := findBarkAccount_step_of_ne env payload hnetwork
  have hsecond := findBarkAccount_step_of_ne env payload (Ne.symm hnetwork)
  cases exists_barkAccountStep_eq env payload first with
  | inl hsame =>
    rw [hsame payload rfl, hsame _ hfirst]
    exact ⟨sameOtherParts_refl _, List.Perm.refl _, fun _ => rfl⟩
  | inr hwrite =>
    obtain ⟨account, haccount, hwrite⟩ := hwrite
    cases exists_barkAccountStep_eq env payload second with
    | inl hsame =>
      rw [hsame payload rfl, hsame _ hsecond]
      exact ⟨sameOtherParts_refl _, List.Perm.refl _, fun _ => rfl⟩
    | inr hwrite' =>
      obtain ⟨other, hother, hwrite'⟩ := hwrite'
      rw [hwrite' _ hsecond, hwrite _ hfirst, hwrite payload rfl, hwrite' payload rfl]
      have hne : other.networkMode ≠ account.networkMode := by
        rw [haccount, hother]
        exact Ne.symm hnetwork
      refine ⟨?_, putRow_comm_perm hne, ?_⟩
      · exact {
          descriptorWallets := rfl
          lightningNwcConnections := rfl
          arkadeAccounts := rfl
          activeArkadeAccountIdByNetwork := rfl }
      · intro hplace
        have hkeys : other.networkMode ∈ payload.barkAccounts.map StoredBarkAccount.networkMode ∨
            account.networkMode ∈ payload.barkAccounts.map StoredBarkAccount.networkMode := by
          rw [haccount, hother]
          cases hplace with
          | inl hfound =>
            exact .inr (by_contra fun hnew => hfound (getRow_eq_none_iff.mpr hnew))
          | inr hfound =>
            exact .inl (by_contra fun hnew => hfound (getRow_eq_none_iff.mpr hnew))
        simp only [upsertBarkAccountInPayload, putRow_comm hne hkeys]

/-! ## Sequences -/

variable (env) in
/-- A sequence of operations changes nothing but the accounts of its networks. -/
theorem foldl_barkAccountStep_frame {networks : List BarkRailNetwork} {ops : List BarkAccountOp}
    (hnetworks : ∀ op ∈ ops, op.network ∈ networks) (payload : WalletSecretsPayload) :
    SameOtherParts payload (ops.foldl (barkAccountStep env) payload) ∧
      otherBarkAccounts (ops.foldl (barkAccountStep env) payload) networks =
        otherBarkAccounts payload networks := by
  induction ops generalizing payload with
  | nil => exact ⟨sameOtherParts_refl payload, rfl⟩
  | cons op ops ih =>
    have hstep := sameOtherParts_step env payload op
    have hrest := ih (fun other hother => hnetworks other (List.mem_cons_of_mem op hother))
      (barkAccountStep env payload op)
    rw [List.foldl_cons]
    constructor
    · exact {
        descriptorWallets := hrest.1.descriptorWallets.trans hstep.descriptorWallets
        lightningNwcConnections :=
          hrest.1.lightningNwcConnections.trans hstep.lightningNwcConnections
        arkadeAccounts := hrest.1.arkadeAccounts.trans hstep.arkadeAccounts
        activeArkadeAccountIdByNetwork :=
          hrest.1.activeArkadeAccountIdByNetwork.trans hstep.activeArkadeAccountIdByNetwork }
    · exact hrest.2.trans (otherBarkAccounts_step (hnetworks op List.mem_cons_self))

theorem foldl_barkAccountStep_one (ops : List BarkAccountOp)
    (hone : OneBarkAccountPerNetwork payload) :
    OneBarkAccountPerNetwork (ops.foldl (barkAccountStep env) payload) := by
  induction ops generalizing payload with
  | nil => exact hone
  | cons op ops ih => exact ih (oneBarkAccountPerNetwork_step hone)

theorem keptForm_step (hrow : findBarkAccount payload network = some row)
    (hkept : KeptForm env row) (op : BarkAccountOp) :
    ∃ account, findBarkAccount (barkAccountStep env payload op) network = some account ∧
      KeptForm env account ∧
      ∀ field, (op.network = network → op.change.owns field = false) →
        field.Agrees account row := by
  by_cases hnetwork : network = op.network
  · subst hnetwork
    cases (changesOwnFields_step env payload op).ownAccount row hrow with
    | inl hsame =>
      rw [hsame]
      exact ⟨row, hrow, hkept, fun field _ => BarkField.Agrees.refl row field⟩
    | inr hwrite =>
      obtain ⟨account, hfound, haccount, hagrees⟩ := hwrite
      refine ⟨account, hfound, haccount, ?_⟩
      intro field hother
      exact (hagrees field (hother rfl)).2 hkept
  · rw [findBarkAccount_step_of_ne env payload hnetwork]
    exact ⟨row, hrow, hkept, fun field _ => BarkField.Agrees.refl row field⟩

theorem foldl_barkAccountStep_field {field : BarkField} (ops : List BarkAccountOp)
    (hrow : findBarkAccount payload network = some row) (hkept : KeptForm env row)
    (hother : ∀ op ∈ ops, op.network = network → op.change.owns field = false) :
    ∃ account,
      findBarkAccount (ops.foldl (barkAccountStep env) payload) network = some account ∧
        KeptForm env account ∧ field.Agrees account row := by
  induction ops generalizing payload row with
  | nil => exact ⟨row, hrow, hkept, BarkField.Agrees.refl row field⟩
  | cons op ops ih =>
    obtain ⟨next, hnext, hnextKept, hagrees⟩ := keptForm_step hrow hkept op
    have hrest : ∀ other ∈ ops, other.network = network → other.change.owns field = false := by
      intro other hmem
      exact hother other (List.mem_cons_of_mem op hmem)
    obtain ⟨account, haccount, haccountKept, hlast⟩ := ih hnext hnextKept hrest
    refine ⟨account, haccount, haccountKept, hlast.trans ?_⟩
    exact hagrees field (hother op List.mem_cons_self)

/-- The operations on Bark accounts change their own fields of their own account, keep one
account for each network, commute, and leave the payload where they throw. -/
theorem bark_account_operations_frame (env : BarkEnvironment) :
    (∀ payload op, ChangesOwnFields env op payload
      (barkAccountStep env payload op)) ∧
    (∀ payload (ops : List BarkAccountOp),
      SameOtherParts payload (ops.foldl (barkAccountStep env) payload) ∧
        otherBarkAccounts (ops.foldl (barkAccountStep env) payload)
            (ops.map BarkAccountOp.network) =
          otherBarkAccounts payload (ops.map BarkAccountOp.network) ∧
        (OneBarkAccountPerNetwork payload →
          OneBarkAccountPerNetwork (ops.foldl (barkAccountStep env) payload))) ∧
    (∀ payload (ops : List BarkAccountOp) network row field,
      findBarkAccount payload network = some row → KeptForm env row →
      (∀ op ∈ ops, op.network = network → op.change.owns field = false) →
      ∃ account,
        findBarkAccount (ops.foldl (barkAccountStep env) payload) network = some account ∧
          field.Agrees account row) ∧
    (∀ payload (first second : BarkAccountOp), first.network ≠ second.network →
      SameOtherParts
          (barkAccountStep env (barkAccountStep env payload first) second)
          (barkAccountStep env (barkAccountStep env payload second) first) ∧
        (barkAccountStep env (barkAccountStep env payload first)
            second).barkAccounts.Perm
          (barkAccountStep env (barkAccountStep env payload second)
            first).barkAccounts ∧
        (findBarkAccount payload first.network ≠ none ∨
            findBarkAccount payload second.network ≠ none →
          barkAccountStep env (barkAccountStep env payload first) second =
            barkAccountStep env (barkAccountStep env payload second) first)) ∧
    (∀ payload (first second : BarkAccountOp), first.network = second.network →
      findBarkAccount payload first.network ≠ none →
      (∀ field, ¬(first.change.owns field = true ∧ second.change.owns field = true)) →
      barkAccountStep env (barkAccountStep env payload first) second =
        barkAccountStep env (barkAccountStep env payload second) first) ∧
    (∀ payload (op : BarkAccountOp) message, op.apply env payload = .error message →
      barkAccountStep env payload op = payload) := by
  refine ⟨?_, ?_, ?_, ?_, ?_, ?_⟩
  · intro payload op
    exact changesOwnFields_step env payload op
  · intro payload ops
    have hnetworks : ∀ op ∈ ops, op.network ∈ ops.map BarkAccountOp.network := by
      intro op hop
      exact List.mem_map_of_mem hop
    have hframe := foldl_barkAccountStep_frame env hnetworks payload
    exact ⟨hframe.1, hframe.2, foldl_barkAccountStep_one ops⟩
  · intro payload ops network row field hrow hkept hother
    obtain ⟨account, haccount, -, hagrees⟩ := foldl_barkAccountStep_field ops hrow hkept hother
    exact ⟨account, haccount, hagrees⟩
  · intro payload first second hnetwork
    exact barkAccountStep_comm_of_networks hnetwork
  · intro payload first second hnetwork hfound hdisjoint
    obtain ⟨row, hrow⟩ := Option.ne_none_iff_exists'.mp hfound
    exact barkAccountStep_comm_of_fields hnetwork hrow hdisjoint
  · intro payload op message herror
    rw [barkAccountStep, herror]

def sampleBarkEnvironment : BarkEnvironment where
  regtestServerUrl := "http://localhost:3535"
  dateParses := fun time => time.length = 24
  toLowerCase := String.toLower

def switchedOffAccount : StoredBarkAccount where
  id := "account"
  networkMode := .signet
  serverUrl := barkSignetServerUrl
  fingerprint := "f00d"
  lastSuccessfulSyncAt := none
  receiveKeyIndex := none
  recordEnvelope := some "records"
  pendingEmergencyClaim := none
  proceedAutomatically := some false
  emergencyExitFeePreset := none
  emergencyExitMaxFeeRateSatPerVb := none
  exitNodeSweepVtxoItems := none

def firstOpen (network : BarkRailNetwork) : BarkAccountOp where
  network := network
  change := .opened "fresh" "f00d" none none

/-- Choosing a fee drops a stored false; two first opens leave their accounts in the order in
which they ran; and a setting made before the first open is refused. -/
theorem rebuild_drops_false_and_first_opens_do_not_commute :
    (¬∀ payload (op : BarkAccountOp) row account field,
      findBarkAccount payload op.network = some row →
      findBarkAccount (barkAccountStep sampleBarkEnvironment payload op) op.network = some account →
      op.change.owns field = false → field.Agrees account row) ∧
    (¬∀ payload (first second : BarkAccountOp), first.network ≠ second.network →
      barkAccountStep sampleBarkEnvironment
          (barkAccountStep sampleBarkEnvironment payload first) second =
        barkAccountStep sampleBarkEnvironment
          (barkAccountStep sampleBarkEnvironment payload second) first) ∧
    ¬∀ payload (first second : BarkAccountOp), first.network = second.network →
      (∀ field, ¬(first.change.owns field = true ∧ second.change.owns field = true)) →
      barkAccountStep sampleBarkEnvironment
          (barkAccountStep sampleBarkEnvironment payload first) second =
        barkAccountStep sampleBarkEnvironment
          (barkAccountStep sampleBarkEnvironment payload second) first := by
  refine ⟨?_, ?_, ?_⟩
  · intro hclaim
    have hagrees := hclaim { emptyPayload with barkAccounts := [switchedOffAccount] }
      ⟨.signet, .feePreset "High"⟩ switchedOffAccount
      { switchedOffAccount with
        proceedAutomatically := none
        emergencyExitFeePreset := some .high }
      .proceedAutomatically (by decide) (by decide +kernel) rfl
    cases hagrees
  · intro hclaim
    have hsame := congrArg WalletSecretsPayload.barkAccounts
      (hclaim emptyPayload (firstOpen .signet) (firstOpen .mainnet) (by decide))
    exact absurd hsame (by decide +kernel)
  · intro hclaim
    have hdisjoint : ∀ field, ¬((firstOpen .signet).change.owns field = true ∧
        (BarkAccountChange.proceedAutomatically true).owns field = true) := by
      intro field
      cases field <;> decide
    have hsame := congrArg WalletSecretsPayload.barkAccounts
      (hclaim emptyPayload (firstOpen .signet) ⟨.signet, .proceedAutomatically true⟩ rfl hdisjoint)
    exact absurd hsame (by decide +kernel)

/-- An open and a setting of one account in either order. -/
theorem bark_account_operations_frame_open_and_setting :
    barkAccountStep sampleBarkEnvironment
        (barkAccountStep sampleBarkEnvironment
          { emptyPayload with barkAccounts := [switchedOffAccount] } (firstOpen .signet))
        ⟨.signet, .proceedAutomatically true⟩ =
      barkAccountStep sampleBarkEnvironment
        (barkAccountStep sampleBarkEnvironment
          { emptyPayload with barkAccounts := [switchedOffAccount] }
          ⟨.signet, .proceedAutomatically true⟩)
        (firstOpen .signet) := by
  have hcommute := (bark_account_operations_frame sampleBarkEnvironment).2.2.2.2.1
  apply hcommute
  · rfl
  · decide
  · intro field
    cases field <;> decide

end Bitboard.Wallet
