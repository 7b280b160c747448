import Ngotag.Serial
import Ngotag.JsObject

/-!
The capacity of the base wallets. Creation claims a slot of a base wallet before it asks
the agent for a tenant, and gives it back on any exception; deletion gives the slot of a
deleted row back. A slot is in the counter as long as a call holds it or a sub-wallet has
it (`Sound.balance`), so a base wallet never has more sub-wallets than it may (`capped`).

The deletion of a user removes the sub-wallet without a word to the base wallet. Whenever
no call is in progress the counters are right exactly when no such deletion found one
(`accurate_iff`).
-/
namespace Ngotag.CloudWallet
open Runs Await
open JsObject (truthy)

/-- A row of `cloud_wallet_user_info` with the type `BASE_WALLET`. -/
structure Base where
  id : Nat
  agentEndpoint : Option String
  agentApiKey : Option String
  isActive : Bool
  maxSubWallets : Int
structure Sub where
  id : Nat
  userId : Option String
  agentEndpoint : Option String
  tenantId : Option String
  deriving DecidableEq
def Base.holds (base : Base) (row : Sub) : Bool :=
  (truthy base.agentEndpoint).isSome && row.agentEndpoint = base.agentEndpoint
/-- The base wallets in the order of their creation, one for each endpoint. -/
structure Bases where
  rows : List Base
  ids : ∀ a ∈ rows, ∀ b ∈ rows, a.id = b.id → a = b
  endpoints : ∀ a ∈ rows, ∀ b ∈ rows, (truthy a.agentEndpoint).isSome → a.agentEndpoint = b.agentEndpoint → a = b
structure TenantResponse where
  id : Option String
inductive Elsewhere where
  | decryptPassword
  | dataEncryption
  | sendNatsMessage

inductive Cmd where
  | elsewhere (what : Elsewhere)
  | checkUserExist (userId : String)
  | getAvailableBaseWallet
  | claimBaseWalletCapacity (walletId : Nat) (maxSubWallets : Int)
  | checkAgentHealth
  | httpPost (agentEndpoint : String)
  | storeCloudWalletDetails (userId : String) (agentEndpoint : Option String) (tenantId : Option String)
  | decrementBaseWalletUseCount (walletId : Nat)
  | getCloudSubWallet (userId : String)
  | getBaseWalletByAgentEndpoint (agentEndpoint : Option String)
  /-- The deletion of a tenant on the agent, and whether the status is a good one. -/
  | httpDelete (agentEndpoint : Option String) (tenantId : String)
  | deleteCloudWalletDetails (id : Nat)
  | deleteUserAndRelatedData (userId : String)

def Ret : Cmd → Type
  | .checkUserExist _ => Bool
  | .getAvailableBaseWallet => Option Base
  | .claimBaseWalletCapacity _ _ => Bool
  | .checkAgentHealth => Bool
  | .httpPost _ => Option TenantResponse
  | .getCloudSubWallet _ => Option Sub
  | .getBaseWalletByAgentEndpoint _ => Option Base
  | .httpDelete _ _ => Bool
  | _ => Unit

inductive Failure where
  /-- `ResponseMessages.cloudWallet.error.userExist` -/
  | userExist
  /-- `ResponseMessages.cloudWallet.error.BaseWalletLimitExceeded` -/
  | BaseWalletLimitExceeded
  /-- `ResponseMessages.cloudWallet.error.notFoundBaseWallet` -/
  | notFoundBaseWallet
  /-- `ResponseMessages.cloudWallet.error.agentNotRunning` -/
  | agentNotRunning
  /-- `ResponseMessages.cloudWallet.error.walletRecordNotFound` -/
  | walletRecordNotFound
  | deleteCloudWallet
  /-- The agent's 404 with a reason. -/
  | tenantNotFound
  | other
  deriving DecidableEq

abbrev Async := Prog Cmd Ret Failure
def perform (command : Cmd) : Async (Ret command) := call command
def ask (what : Elsewhere) : Async Unit := perform (.elsewhere what)

def createTenant (base : Base) (userId : String) : Async Unit :=
  match truthy base.agentEndpoint,truthy base.agentApiKey with
  | some agentEndpoint,some _ => do
    ask .decryptPassword
    let checkCloudWalletAgentHealth : Bool ← perform .checkAgentHealth
    if checkCloudWalletAgentHealth = false then throw .agentNotRunning
    else do
      let createCloudWalletResponse : Option TenantResponse ← perform (.httpPost agentEndpoint)
      match createCloudWalletResponse with
      -- The test for an answer without an id reads the id of no answer, which throws.
      | none => throw .other
      | some response => do
        ask .dataEncryption
        perform (.storeCloudWalletDetails userId base.agentEndpoint response.id)
  | _,_ => throw .notFoundBaseWallet

/-- The release of a slot, whose exception is only logged. -/
def release (walletId : Nat) : Async Unit :=
  Prog.tryCatch (perform (.decrementBaseWalletUseCount walletId)) fun _ => pure ()

/-- Before `capacityClaimed` is set the exception handler releases nothing. -/
def createCloudWallet (userId : String) : Async Unit := do
  let checkUserExist : Bool ← perform (.checkUserExist userId)
  if checkUserExist = true then throw .userExist
  else do
    let baseWalletDetails : Option Base ← perform .getAvailableBaseWallet
    match baseWalletDetails with
    | none => throw .BaseWalletLimitExceeded
    | some base => do
      let claimed : Bool ← perform (.claimBaseWalletCapacity base.id base.maxSubWallets)
      if claimed = false then throw .BaseWalletLimitExceeded
      else Prog.tryCatch (createTenant base userId) fun error => do
        release base.id
        throw error

/-- Whether the tenant is gone: deleted now, or by an earlier attempt. -/
def deleteTenant (base : Base) (tenantId : String) : Async Bool :=
  Prog.tryCatch (perform (.httpDelete base.agentEndpoint tenantId)) fun error =>
    if error = .tenantNotFound then pure true else throw error

def deleteCloudWallet (userId : String) (deleteHolder : Bool) : Async Unit := do
  let cloudSubWalletDetails : Option Sub ← perform (.getCloudSubWallet userId)
  match cloudSubWalletDetails.bind fun row => (truthy row.tenantId).map fun tenantId => (row,tenantId) with
  | none => if deleteHolder = true then pure () else throw .walletRecordNotFound
  | some (row,tenantId) => do
    let baseWalletDetails : Option Base ← perform (.getBaseWalletByAgentEndpoint row.agentEndpoint)
    match baseWalletDetails with
    | none => throw .notFoundBaseWallet
    | some base => do
      ask .decryptPassword
      let tenantDeleted : Bool ← deleteTenant base tenantId
      if tenantDeleted = false then throw .deleteCloudWallet
      else do
        let _ : Unit ← perform (.deleteCloudWalletDetails row.id)
        release base.id

/-- The call of the gateway: the message for the wallet, and then the one for the user. -/
def deleteHolderOf (userId : String) (deleteHolder : Bool) : Async Unit := do
  deleteCloudWallet userId deleteHolder
  if deleteHolder = true then do
    ask .sendNatsMessage
    perform (.deleteUserAndRelatedData userId)
  else pure ()
inductive Input where
  | create (userId : String)
  | delete (userId : String) (deleteHolder : Bool)
/-- What a call has done: its claims, the rows it deleted, and its releases. -/
structure Record where
  claims : Nat
  rows : List Nat
  releases : Nat
def Record.none : Record := ⟨0,[],0⟩

/-- `used` and `drawn` are the tenants and the keys of rows that ever were. The rest
    records what happened: `slots` has the calls that hold a slot, with the base wallet,
    `uncovered` those that asked for a tenant without a claim and its slot, `deleted` the rows deleted with
    their wallets and `lost` those deleted with their users. -/
structure World where
  useCount : Nat → Int
  subs : List Sub
  users : List String
  agent : List (Option String × String)
  used : List (Option String × String)
  drawn : List Nat
  record : Nat → Record
  slots : List (Nat × Nat)
  uncovered : List Nat
  deleted : List Sub
  lost : List Sub

/-- Whether the command fails; whether the agent did what it was asked for, also where it
    fails, or is well; the key of a new row; the tenant of a new wallet, and whether the
    answer is empty or its status a bad one; the rows that come too late for the deletion
    of their user. -/
structure Choice where
  fails : Bool
  done : Bool
  drawn : Nat
  tenant : Option String
  empty : Bool
  missed : List Nat

def World.claimed (w : World) (process walletId : Nat) : World :=
  { w with
    useCount := Function.update w.useCount walletId (w.useCount walletId + 1)
    record := Function.update w.record process { w.record process with claims := (w.record process).claims + 1 }
    slots := (process,walletId) :: w.slots }
def claim (process : Nat) (choice : Choice) (bases : Bases) (w : World) (walletId : Nat) (maxSubWallets : Int) :
    Option (World × Except Failure Bool) :=
  if choice.fails = true then some (w,.error .other)
  else if (bases.rows.any fun base => base.id = walletId) = true ∧ w.useCount walletId < maxSubWallets then
    some (w.claimed process walletId,.ok true)
  else some (w,.ok false)
def World.decremented (w : World) (process walletId : Nat) : World :=
  { w with
    useCount := Function.update w.useCount walletId
      (if 0 < w.useCount walletId then w.useCount walletId - 1 else w.useCount walletId)
    record := Function.update w.record process { w.record process with releases := (w.record process).releases + 1 }
    slots := w.slots.filter fun slot => slot.1 ≠ process }
def decrement (process : Nat) (choice : Choice) (w : World) (walletId : Nat) : Option (World × Except Failure Unit) :=
  if choice.fails = true then some (w,.error .other) else some (w.decremented process walletId,.ok ())
/-- The tenants are new ones, of which the agent has some. -/
def World.posted (w : World) (process : Nat) (made kept : List (Option String × String)) : World :=
  { w with
    agent := kept ++ w.agent
    used := made ++ w.used
    uncovered := if (w.slots.any fun slot => slot.1 = process) = true ∧ (w.record process).claims = 1 then w.uncovered
      else process :: w.uncovered }
/-- A tenant of the agent, whose id is a new one. -/
def postTenant (process : Nat) (choice : Choice) (w : World) (agentEndpoint : String) :
    Option (World × Except Failure (Option TenantResponse)) :=
  let made := (choice.tenant.map fun tenant => (some agentEndpoint,tenant)).toList
  if (made.any fun tenant => tenant ∈ w.used) = true then none
  else some (w.posted process made (if choice.fails = true ∧ choice.done = false then [] else made),
    if choice.fails = true then .error .other else .ok (if choice.empty = true then none else some ⟨choice.tenant⟩))
def World.stored (w : World) (process : Nat) (row : Sub) : World :=
  { w with
    subs := row :: w.subs
    drawn := row.id :: w.drawn
    slots := w.slots.filter fun slot => slot.1 ≠ process }
def store (process : Nat) (choice : Choice) (w : World) (userId : String) (agentEndpoint tenantId : Option String) :
    Option (World × Except Failure Unit) :=
  if choice.drawn ∈ w.drawn then none
  else if choice.fails = true ∨ userId ∉ w.users ∨ (w.subs.any fun row => row.userId = some userId) = true then
    some (w,.error .other)
  else some (w.stored process ⟨choice.drawn,some userId,agentEndpoint,tenantId⟩,.ok ())
def byAgentEndpoint (bases : Bases) (agentEndpoint : Option String) : Option Base :=
  (truthy agentEndpoint).bind fun _ =>
    bases.rows.reverse.find? fun base => base.agentEndpoint = agentEndpoint
def World.removed (w : World) (agentEndpoint : Option String) (tenantId : String) : World :=
  { w with agent := w.agent.filter (· ≠ (agentEndpoint,tenantId)) }
def removeTenant (choice : Choice) (w : World) (agentEndpoint : Option String) (tenantId : String) :
    Option (World × Except Failure Bool) :=
  if choice.fails = true then some (if choice.done then w.removed agentEndpoint tenantId else w,.error .other)
  else if choice.empty = true then some (if choice.done then w.removed agentEndpoint tenantId else w,.ok false)
  else if (agentEndpoint,tenantId) ∉ w.agent ∧ choice.done = false then some (w,.error .tenantNotFound)
  else some (w.removed agentEndpoint tenantId,.ok true)
def World.without (w : World) (process : Nat) (bases : Bases) (row : Sub) : World :=
  { w with
    subs := w.subs.filter fun other => other.id ≠ row.id
    record := Function.update w.record process { w.record process with rows := row.id :: (w.record process).rows }
    slots := ((byAgentEndpoint bases row.agentEndpoint).map fun base => (process,base.id)).toList ++ w.slots
    deleted := row :: w.deleted }
def deleteRow (process : Nat) (choice : Choice) (bases : Bases) (w : World) (id : Nat) :
    Option (World × Except Failure Unit) :=
  if choice.fails = true then some (w,.error .other)
  else match w.subs.find? fun row => row.id = id with
    | none => some (w,.error .other)
    | some row => some (w.without process bases row,.ok ())
/-- The row is deleted with the user: the `deleteMany` found it. -/
def doomed (missed : List Nat) (userId : String) (row : Sub) : Bool := row.userId = some userId && row.id ∉ missed
/-- The transaction as it is committed: a row that was stored after its `deleteMany` only
    loses its user. -/
def World.bereft (w : World) (missed : List Nat) (userId : String) : World :=
  { w with
    users := w.users.filter (· ≠ userId)
    subs := (w.subs.filter fun row => !doomed missed userId row).map fun row =>
      if row.userId = some userId then { row with userId := none } else row
    lost := w.subs.filter (doomed missed userId) ++ w.lost }
def deleteUser (choice : Choice) (w : World) (userId : String) : Option (World × Except Failure Unit) :=
  if choice.fails = true ∨ userId ∉ w.users then some (w,.error .other)
  else some (w.bereft choice.missed userId,.ok ())

def handle (bases : Bases) (process : Nat) (c : Cmd) (choice : Choice) (w : World) :
    Option (World × Except Failure (Ret c)) :=
  match c with
  | .elsewhere _ => lookedUp (β := Unit) choice.fails .other w (.ok ())
  | .checkUserExist userId => lookedUp (β := Bool) choice.fails .other w
      (.ok (w.subs.any fun row => row.userId = some userId))
  | .getAvailableBaseWallet => lookedUp (β := Option Base) choice.fails .other w
      (.ok (bases.rows.find? fun base => base.isActive && w.useCount base.id < base.maxSubWallets))
  | .claimBaseWalletCapacity walletId maxSubWallets => claim process choice bases w walletId maxSubWallets
  | .checkAgentHealth => lookedUp (β := Bool) choice.fails .other w (.ok choice.done)
  | .httpPost agentEndpoint => postTenant process choice w agentEndpoint
  | .storeCloudWalletDetails userId agentEndpoint tenantId => store process choice w userId agentEndpoint tenantId
  | .decrementBaseWalletUseCount walletId => decrement process choice w walletId
  | .getCloudSubWallet userId => lookedUp (β := Option Sub) choice.fails .other w
      (.ok (w.subs.find? fun row => row.userId = some userId))
  | .getBaseWalletByAgentEndpoint agentEndpoint => lookedUp (β := Option Base) choice.fails .other w
      (.ok (byAgentEndpoint bases agentEndpoint))
  | .httpDelete agentEndpoint tenantId => removeTenant choice w agentEndpoint tenantId
  | .deleteCloudWalletDetails id => deleteRow process choice bases w id
  | .deleteUserAndRelatedData userId => deleteUser choice w userId

def program (_ : Nat) : Input → Async Unit
  | .create userId => createCloudWallet userId
  | .delete userId deleteHolder => deleteHolderOf userId deleteHolder
def sys (bases : Bases) : System Cmd Ret Failure Unit World Choice Input Empty where
  handle := handle bases
  arrive _ _ w := some w
  program := program
  environment event _ := event.elim
def mine (process : Nat) (w : World) : List (Nat × Nat) := w.slots.filter fun slot => slot.1 = process
def World.rowsOn (w : World) (base : Base) : Nat := w.subs.countP base.holds
def World.slotsOn (w : World) (base : Base) : Nat := w.slots.countP fun slot => slot.2 = base.id
def World.lostOn (w : World) (base : Base) : Nat := w.lost.countP base.holds
/-- The tenant of a deleted row is gone, and its id does not come back. -/
def Gone (w : World) (row : Sub) : Prop :=
  ∀ tenant, row.tenantId = some tenant → (row.agentEndpoint,tenant) ∈ w.used ∧ (row.agentEndpoint,tenant) ∉ w.agent

/-- The counters are in their bounds, and where they were right once they count the
    sub-wallets, the slots that calls hold and the rows that were lost; a call makes one
    claim or deletes one row, and releases it once. -/
structure Sound (bases : Bases) (accurate : Prop) (w : World) : Prop where
  bounds : ∀ base ∈ bases.rows, 0 ≤ w.useCount base.id ∧ w.useCount base.id ≤ base.maxSubWallets
  balance : accurate → ∀ base ∈ bases.rows, w.useCount base.id = w.rowsOn base + w.slotsOn base + w.lostOn base
  placed : accurate → ∀ row ∈ w.subs ++ w.lost, ∃ base ∈ bases.rows, base.holds row = true
  ids : (w.subs.map Sub.id).Nodup
  drawn : ∀ row ∈ w.subs, row.id ∈ w.drawn
  tenants : ∀ row ∈ w.subs, ∀ tenant, row.tenantId = some tenant → (row.agentEndpoint,tenant) ∈ w.used
  gone : ∀ row ∈ w.deleted, Gone w row
  covered : w.uncovered = []
  once : ∀ process, (w.record process).claims + (w.record process).rows.length ≤ 1 ∧
    (w.record process).releases ≤ (w.record process).claims + (w.record process).rows.length
  rows : ∀ process id, id ∈ (w.record process).rows → id ∈ w.drawn ∧ (∀ row ∈ w.subs, row.id ≠ id) ∧
    ∀ other, id ∈ (w.record other).rows → other = process

/-- What the others leave to a process: what it did and holds, tenants that are gone, and
    rows but for their users. -/
structure Undisturbed (process : Nat) (a b : World) : Prop where
  record : b.record process = a.record process
  slots : mine process b = mine process a
  used : ∀ x ∈ a.used, x ∈ b.used ∧ (x ∉ a.agent → x ∉ b.agent)
  drawn : ∀ id ∈ a.drawn, id ∈ b.drawn
  rows : ∀ row ∈ b.subs, row.id ∈ a.drawn →
    ∃ old ∈ a.subs, old.id = row.id ∧ old.agentEndpoint = row.agentEndpoint ∧ old.tenantId = row.tenantId
def Cmd.writes : Cmd → Bool
  | .claimBaseWalletCapacity _ _ => true
  | .storeCloudWalletDetails _ _ _ => true
  | .decrementBaseWalletUseCount _ => true
  | .deleteCloudWalletDetails _ => true
  | .deleteUserAndRelatedData _ => true
  | _ => false
/-- `accurate` where the counters start right, `sure` where no write fails. -/
def contract (bases : Bases) (accurate sure : Prop) : Contract Cmd World Choice Empty where
  inv := Sound bases accurate
  rely := Undisturbed
  idle process w := w.record process = .none ∧ mine process w = []
  allowed _ c choice _ := sure → c.writes = true → choice.fails = false
  happens _ _ := True
/-- Where its writes are sure, a call that has ended holds no slot. -/
def settled (sure : Prop) (process : Nat) (_ : Except Failure Unit) (w : World) : Prop := sure → mine process w = []

/-- What a command asks for is what the call has claimed and read. -/
def Side (bases : Bases) (process : Nat) (c : Cmd) (w : World) : Prop :=
  match c with
  | .claimBaseWalletCapacity walletId maxSubWallets => w.record process = .none ∧ mine process w = [] ∧
      ∃ base ∈ bases.rows, base.id = walletId ∧ base.maxSubWallets = maxSubWallets
  | .httpPost _ => mine process w ≠ [] ∧ (w.record process).claims = 1
  | .storeCloudWalletDetails _ agentEndpoint tenantId =>
      (∃ base ∈ bases.rows, (truthy agentEndpoint).isSome ∧ base.agentEndpoint = agentEndpoint ∧
        mine process w = [(process,base.id)]) ∧
      ∀ tenant, tenantId = some tenant → (agentEndpoint,tenant) ∈ w.used
  | .decrementBaseWalletUseCount walletId => mine process w = [(process,walletId)] ∧
      (w.record process).releases = 0 ∧ (w.record process).claims + (w.record process).rows.length = 1
  | .deleteCloudWalletDetails id => w.record process = .none ∧ mine process w = [] ∧
      ∀ row ∈ w.subs, row.id = id → Gone w row ∧ ∃ base, byAgentEndpoint bases row.agentEndpoint = some base
  | _ => True

section
variable {bases : Bases} {accurate sure : Prop} {process other : Nat} {a b w after : World} {choice : Choice}

theorem undisturbed_refl : Undisturbed process a a :=
  ⟨rfl,rfl,fun _ there => ⟨there,id⟩,fun _ => id,fun row there _ => ⟨row,there,rfl,rfl,rfl⟩⟩

theorem undisturbed_trans {c : World} (first : Undisturbed process a b) (second : Undisturbed process b c) :
    Undisturbed process a c := by
  refine ⟨second.record.trans first.record,second.slots.trans first.slots,?_,fun id there =>
      second.drawn id (first.drawn id there),?_⟩
  · intro x there
    obtain ⟨there',gone⟩ := first.used x there
    obtain ⟨there'',gone'⟩ := second.used x there'
    exact ⟨there'',fun absent => gone' (gone absent)⟩
  · intro row there known
    obtain ⟨old,there',id,endpoint,tenant⟩ := second.rows row there (first.drawn _ known)
    obtain ⟨older,there'',id',endpoint',tenant'⟩ := first.rows old there' (id ▸ known)
    exact ⟨older,there'',id'.trans id,endpoint'.trans endpoint,tenant'.trans tenant⟩

variable {walletId : Nat} {slots : List (Nat × Nat)}
theorem mine_cons (different : other ≠ process) :
    ((process,walletId) :: slots).filter (fun slot => slot.1 = other) = slots.filter fun slot => slot.1 = other := by
  simp [Ne.symm different]
theorem mine_settle (different : other ≠ process) :
    (slots.filter fun slot => slot.1 ≠ process).filter (fun slot => slot.1 = other) =
      slots.filter fun slot => slot.1 = other := by
  rw [List.filter_filter]
  refine List.filter_congr fun slot _ => ?_
  by_cases same : slot.1 = other
  · simp [same,different]
  · simp [same]
theorem mine_gone :
    (slots.filter fun slot => slot.1 ≠ process).filter (fun slot => slot.1 = process) = [] := by
  rw [List.filter_filter,List.filter_eq_nil_iff]
  intro slot _
  simp
theorem slots_split (base : Base) : w.slotsOn base = (mine process w).countP (fun slot => slot.2 = base.id) +
    (w.slots.filter fun slot => slot.1 ≠ process).countP fun slot => slot.2 = base.id := by
  unfold World.slotsOn mine
  rw [List.countP_eq_countP_filter_add w.slots _ fun slot => slot.1 = process]
  simp only [decide_not,ne_eq]
theorem slots_settle (held : mine process w = [(process,walletId)]) (base : Base) :
    ((w.slots.filter fun slot => slot.1 ≠ process).countP fun slot => slot.2 = base.id) +
    (if walletId = base.id then 1 else 0) =
      w.slotsOn base := by
  have split_ : w.slotsOn base = (mine process w).countP _ + _ := slots_split base
  rw [split_,held,List.countP_singleton,Nat.add_comm]
  simp

variable {record : Record}
theorem once_update (sound : Sound bases accurate w)
    (once : record.claims + record.rows.length ≤ 1 ∧ record.releases ≤ record.claims + record.rows.length)
    (mine_ : Nat) :
    (Function.update w.record process record mine_).claims +
        (Function.update w.record process record mine_).rows.length ≤ 1 ∧
      (Function.update w.record process record mine_).releases ≤
        (Function.update w.record process record mine_).claims +
        (Function.update w.record process record mine_).rows.length := by
  by_cases same : mine_ = process
  · subst same
    rw [Function.update_self]
    exact once
  · rw [Function.update_of_ne same]
    exact sound.once mine_

theorem rows_update (kept : record.rows = (w.record process).rows) (mine_ : Nat) :
    (Function.update w.record process record mine_).rows = (w.record mine_).rows := by
  by_cases same : mine_ = process
  · subst same
    rw [Function.update_self,kept]
  · rw [Function.update_of_ne same]

variable {base : Base}
theorem sound_claimed (sound : Sound bases accurate w) (listed : base ∈ bases.rows)
    (fresh : w.record process = .none) (room : w.useCount base.id < base.maxSubWallets) :
    Sound bases accurate (w.claimed process base.id) := by
  have kept : ∀ mine_, ((w.claimed process base.id).record mine_).rows = (w.record mine_).rows := rows_update rfl
  refine ⟨?_,?_,sound.placed,sound.ids,sound.drawn,sound.tenants,sound.gone,sound.covered,?_,?_⟩
  · intro other there
    by_cases same : other.id = base.id
    · obtain rfl := bases.ids other there base listed same
      have bounds := sound.bounds other there
      simp only [World.claimed,Function.update_self]
      omega
    · simp only [World.claimed,Function.update_of_ne same]
      exact sound.bounds other there
  · intro right other there
    have balance := sound.balance right other there
    have slots : (w.claimed process base.id).slotsOn other = w.slotsOn other + if base.id = other.id then 1 else 0 := by
      simp [World.slotsOn,World.claimed,List.countP_cons]
    by_cases same : other.id = base.id
    · rw [if_pos same.symm] at slots
      have count : (w.claimed process base.id).useCount other.id = w.useCount other.id + 1 := by
        simp only [World.claimed,same,Function.update_self]
      rw [slots,count]
      change _ = (w.rowsOn other : Int) + _ + w.lostOn other
      omega
    · rw [if_neg (Ne.symm same)] at slots
      have count : (w.claimed process base.id).useCount other.id = w.useCount other.id := by
        simp only [World.claimed,Function.update_of_ne same]
      rw [slots,count]
      exact balance
  · exact once_update sound (by rw [fresh]; decide)
  · intro mine_ id
    rw [kept]
    intro there
    obtain ⟨drawn,absent,single⟩ := sound.rows mine_ id there
    exact ⟨drawn,absent,fun other' => by rw [kept]; exact single other'⟩

theorem sound_decremented (sound : Sound bases accurate w) (held : mine process w = [(process,walletId)])
    (once : (w.record process).releases = 0 ∧ (w.record process).claims + (w.record process).rows.length = 1) :
    Sound bases accurate (w.decremented process walletId) := by
  have kept : ∀ mine_, ((w.decremented process walletId).record mine_).rows = (w.record mine_).rows := rows_update rfl
  refine ⟨?_,?_,sound.placed,sound.ids,sound.drawn,sound.tenants,sound.gone,sound.covered,?_,?_⟩
  · intro other there
    have bounds := sound.bounds other there
    by_cases same : other.id = walletId
    · subst same
      simp only [World.decremented,Function.update_self]
      split <;> omega
    · simp only [World.decremented,Function.update_of_ne same]
      exact bounds
  · intro right other there
    have balance := sound.balance right other there
    have slots := slots_settle held other
    have left : (w.decremented process walletId).slotsOn other +
        (if walletId = other.id then 1 else 0) = w.slotsOn other := slots
    change _ = (w.rowsOn other : Int) + _ + w.lostOn other
    by_cases same : other.id = walletId
    · subst same
      rw [if_pos rfl] at left
      have count : (w.decremented process other.id).useCount other.id =
          if 0 < w.useCount other.id then w.useCount other.id - 1 else w.useCount other.id := by
        simp only [World.decremented,Function.update_self]
      rw [count,if_pos (by omega)]
      omega
    · rw [if_neg (Ne.symm same)] at left
      have count : (w.decremented process walletId).useCount other.id = w.useCount other.id := by
        simp only [World.decremented,Function.update_of_ne same]
      rw [count]
      omega
  · refine once_update sound ?_
    dsimp only
    omega
  · intro mine_ id
    rw [kept]
    intro there
    obtain ⟨drawn,absent,single⟩ := sound.rows mine_ id there
    exact ⟨drawn,absent,fun other' => by rw [kept]; exact single other'⟩

variable {made kept : List (Option String × String)}
theorem sound_posted (sound : Sound bases accurate w) (held : mine process w ≠ [])
    (claimed : (w.record process).claims = 1)
    (new : ∀ x ∈ made, x ∉ w.used) (some_ : kept ⊆ made) : Sound bases accurate (w.posted process made kept) := by
  refine ⟨sound.bounds,sound.balance,sound.placed,sound.ids,sound.drawn,?_,?_,?_,sound.once,sound.rows⟩
  · exact fun row there tenant same => List.mem_append_right _ (sound.tenants row there tenant same)
  · intro row there tenant same
    obtain ⟨used,gone⟩ := sound.gone row there tenant same
    refine ⟨List.mem_append_right _ used,fun member => ?_⟩
    rcases List.mem_append.mp member with now | before
    · exact new _ (some_ now) used
    · exact gone before
  · obtain ⟨slot,there⟩ := List.exists_mem_of_ne_nil _ held
    have any : (w.slots.any fun slot => slot.1 = process) = true :=
      List.any_eq_true.mpr ⟨slot,(List.mem_filter.mp there).1,(List.mem_filter.mp there).2⟩
    change (if _ then _ else _) = []
    rw [if_pos ⟨any,claimed⟩]
    exact sound.covered

variable {row : Sub}
theorem sound_stored (sound : Sound bases accurate w) (listed : base ∈ bases.rows)
    (on_ : base.holds row = true) (held : mine process w = [(process,base.id)]) (new : row.id ∉ w.drawn)
    (known : ∀ tenant, row.tenantId = some tenant → (row.agentEndpoint,tenant) ∈ w.used) :
    Sound bases accurate (w.stored process row) := by
  refine ⟨sound.bounds,?_,?_,?_,?_,?_,sound.gone,sound.covered,sound.once,?_⟩
  · intro right other there
    have balance := sound.balance right other there
    have left : (w.stored process row).slotsOn other + (if base.id = other.id then 1 else 0) = w.slotsOn other :=
      slots_settle held other
    have rows : (w.stored process row).rowsOn other = w.rowsOn other + if other.holds row = true then 1 else 0 := by
      simp [World.rowsOn,World.stored,List.countP_cons]
    have same : other.holds row = true ↔ base.id = other.id := by
      constructor
      · intro on'
        simp only [Base.holds,Bool.and_eq_true,decide_eq_true_eq] at on_ on'
        rw [bases.endpoints base listed other there on_.1 (on_.2.symm.trans on'.2)]
      · intro same
        exact bases.ids base listed other there same ▸ on_
    rw [rows]
    change w.useCount other.id = _ + _ + (w.lostOn other : Int)
    by_cases here : base.id = other.id
    · rw [if_pos here] at left
      rw [if_pos (same.mpr here)]
      omega
    · rw [if_neg here] at left
      rw [if_neg fun on' => here (same.mp on')]
      omega
  · intro right other there
    rcases List.mem_append.mp there with now | lost
    · rcases List.mem_cons.mp now with rfl | before
      · exact ⟨base,listed,on_⟩
      · exact sound.placed right other (List.mem_append_left _ before)
    · exact sound.placed right other (List.mem_append_right _ lost)
  · refine List.nodup_cons.mpr ⟨fun there => ?_,sound.ids⟩
    obtain ⟨other,member,same⟩ := List.mem_map.mp there
    exact new (same ▸ sound.drawn other member)
  · intro other there
    rcases List.mem_cons.mp there with rfl | before
    · exact List.mem_cons_self
    · exact List.mem_cons_of_mem _ (sound.drawn other before)
  · intro other there tenant same
    rcases List.mem_cons.mp there with rfl | before
    · exact known tenant same
    · exact sound.tenants other before tenant same
  · intro mine_ id there
    obtain ⟨drawn,absent,single⟩ := sound.rows mine_ id there
    refine ⟨List.mem_cons_of_mem _ drawn,fun other member => ?_,single⟩
    rcases List.mem_cons.mp member with rfl | before
    · exact fun same => new (same ▸ drawn)
    · exact absent other before

theorem sound_removed (sound : Sound bases accurate w) (agentEndpoint : Option String) (tenantId : String) :
    Sound bases accurate (w.removed agentEndpoint tenantId) := by
  refine ⟨sound.bounds,sound.balance,sound.placed,sound.ids,sound.drawn,sound.tenants,?_,sound.covered,
      sound.once,sound.rows⟩
  intro row there tenant same
  obtain ⟨used,gone⟩ := sound.gone row there tenant same
  exact ⟨used,fun member => gone (List.mem_filter.mp member).1⟩

variable {agentEndpoint : Option String}
theorem mem_byAgentEndpoint (first : byAgentEndpoint bases agentEndpoint = some base) :
    base ∈ bases.rows ∧ (truthy base.agentEndpoint).isSome ∧ base.agentEndpoint = agentEndpoint := by
  obtain ⟨text,there,found⟩ := Option.bind_eq_some_iff.mp first
  have same : base.agentEndpoint = agentEndpoint := by simpa using List.find?_some found
  exact ⟨List.mem_reverse.mp (List.mem_of_find?_eq_some found),by rw [same,there]; rfl,same⟩

theorem filter_id {subs : List Sub} (ids : (subs.map Sub.id).Nodup) (there : row ∈ subs) :
    subs.filter (fun other => other.id = row.id) = [row] := by
  induction subs with
  | nil => cases there
  | cons first rest ih =>
    obtain ⟨apart,ids⟩ := List.nodup_cons.mp ids
    rcases List.mem_cons.mp there with rfl | later
    · have none_ : rest.filter (fun other => other.id = row.id) = [] := by
        refine List.filter_eq_nil_iff.mpr fun other member same => apart ?_
        exact List.mem_map.mpr ⟨other,member,by simpa using same⟩
      simp [none_]
    · have different : first.id ≠ row.id := fun same => apart (List.mem_map.mpr ⟨row,later,same.symm⟩)
      simp [different,ih ids later]

theorem sound_without (sound : Sound bases accurate w) (there : row ∈ w.subs)
    (fresh : w.record process = .none) (gone : Gone w row) (on_ : byAgentEndpoint bases row.agentEndpoint = some base) :
    Sound bases accurate (w.without process bases row) := by
  obtain ⟨listed,some_,same⟩ := mem_byAgentEndpoint on_
  have left : (w.subs.filter fun other => other.id ≠ row.id) ⊆ w.subs := fun other member =>
    (List.mem_filter.mp member).1
  refine ⟨sound.bounds,?_,?_,?_,?_,?_,?_,sound.covered,?_,?_⟩
  · intro right other member
    have balance := sound.balance right other member
    have rows : w.rowsOn other = (if other.holds row = true then 1 else 0) +
        (w.without process bases row).rowsOn other := by
      change w.subs.countP other.holds = _ + (w.subs.filter fun other => other.id ≠ row.id).countP other.holds
      rw [List.countP_eq_countP_filter_add w.subs _ fun other => other.id = row.id,filter_id sound.ids there,
        List.countP_singleton]
      simp only [decide_not,ne_eq]
    have slots : (w.without process bases row).slotsOn other =
        (if base.id = other.id then 1 else 0) + w.slotsOn other := by
      change ((((byAgentEndpoint bases row.agentEndpoint).map fun base => (process,base.id)).toList ++ w.slots).countP
        fun slot => slot.2 = other.id) = _
      rw [on_,List.countP_append,Option.map_some,Option.toList_some,List.countP_singleton]
      simp [World.slotsOn]
    have held : other.holds row = true ↔ base.id = other.id := by
      simp only [Base.holds,Bool.and_eq_true,decide_eq_true_eq]
      constructor
      · rintro ⟨-,same'⟩
        rw [bases.endpoints base listed other member some_ (same.trans same')]
      · intro same'
        obtain rfl := bases.ids base listed other member same'
        exact ⟨some_,same.symm⟩
    rw [slots]
    change w.useCount other.id = _ + _ + (w.lostOn other : Int)
    by_cases here : base.id = other.id
    · rw [if_pos (held.mpr here)] at rows
      rw [if_pos here]
      omega
    · rw [if_neg fun holds => here (held.mp holds)] at rows
      rw [if_neg here]
      omega
  · intro right other member
    refine sound.placed right other ?_
    rcases List.mem_append.mp member with now | lost
    · exact List.mem_append_left _ (left now)
    · exact List.mem_append_right _ lost
  · exact sound.ids.sublist (List.filter_sublist.map _)
  · exact fun other member => sound.drawn other (left member)
  · exact fun other member => sound.tenants other (left member)
  · intro other member
    rcases List.mem_cons.mp member with rfl | before
    · exact gone
    · exact sound.gone other before
  · refine once_update sound ?_
    rw [fresh]
    exact ⟨Nat.le_refl 1,Nat.zero_le _⟩
  · have cases_ : ∀ mine_ id, id ∈ ((w.without process bases row).record mine_).rows →
        (mine_ = process ∧ id = row.id) ∨ id ∈ (w.record mine_).rows := by
      intro mine_ id member
      simp only [World.without] at member
      by_cases here : mine_ = process
      · subst here
        rw [Function.update_self] at member
        rcases List.mem_cons.mp member with rfl | before
        · exact .inl ⟨rfl,rfl⟩
        · exact .inr before
      · rw [Function.update_of_ne here] at member
        exact .inr member
    intro mine_ id member
    rcases cases_ mine_ id member with ⟨rfl,rfl⟩ | before
    · refine ⟨sound.drawn row there,fun other now same' => ?_,fun other now => ?_⟩
      · simp [World.without,same'] at now
      · rcases cases_ other row.id now with ⟨rfl,-⟩ | earlier
        · rfl
        · exact absurd rfl ((sound.rows other row.id earlier).2.1 row there)
    · obtain ⟨drawn,absent,single⟩ := sound.rows mine_ id before
      refine ⟨drawn,fun other now => absent other (left now),fun other now => ?_⟩
      rcases cases_ other id now with ⟨rfl,rfl⟩ | earlier
      · exact absurd rfl (absent row there)
      · exact single other earlier

variable {userId : String}
theorem mem_bereft {missed : List Nat} (there : row ∈ (w.bereft missed userId).subs) :
    ∃ old ∈ w.subs, old.id = row.id ∧ old.agentEndpoint = row.agentEndpoint ∧ old.tenantId = row.tenantId := by
  obtain ⟨old,member,rfl⟩ := List.mem_map.mp there
  refine ⟨old,(List.mem_filter.mp member).1,?_⟩
  split <;> exact ⟨rfl,rfl,rfl⟩

theorem sound_bereft (sound : Sound bases accurate w) (missed : List Nat) (userId : String) :
    Sound bases accurate (w.bereft missed userId) := by
  refine ⟨sound.bounds,?_,?_,?_,?_,?_,sound.gone,sound.covered,sound.once,?_⟩
  · intro right other member
    have balance := sound.balance right other member
    have kept : (w.bereft missed userId).rowsOn other =
        (w.subs.filter fun row => !doomed missed userId row).countP other.holds := by
      change (List.map _ _).countP _ = _
      rw [List.countP_map]
      refine List.countP_congr fun row _ => ?_
      simp only [Function.comp_apply]
      split <;> rfl
    have lost : (w.bereft missed userId).lostOn other =
        (w.subs.filter (doomed missed userId)).countP other.holds + w.lostOn other := List.countP_append
    have rows := List.countP_eq_countP_filter_add w.subs other.holds (doomed missed userId)
    change w.useCount other.id = _ + (w.slotsOn other : Int) + _
    have total : w.rowsOn other = _ := rows
    rw [kept,lost]
    omega
  · intro right other member
    rcases List.mem_append.mp member with now | lost
    · obtain ⟨old,there,-,endpoint,-⟩ := mem_bereft now
      obtain ⟨base,listed,held⟩ := sound.placed right old (List.mem_append_left _ there)
      refine ⟨base,listed,?_⟩
      simp only [Base.holds,endpoint] at held
      exact held
    · rcases List.mem_append.mp lost with now | before
      · exact sound.placed right other (List.mem_append_left _ (List.mem_filter.mp now).1)
      · exact sound.placed right other (List.mem_append_right _ before)
  · have same : (w.bereft missed userId).subs.map Sub.id =
        (w.subs.filter fun row => !doomed missed userId row).map Sub.id := by
      change (List.map _ _).map _ = _
      rw [List.map_map]
      refine List.map_congr_left fun row _ => ?_
      simp only [Function.comp_apply]
      split <;> rfl
    rw [same]
    exact sound.ids.sublist (List.filter_sublist.map _)
  · intro other member
    obtain ⟨old,there,id,-,-⟩ := mem_bereft member
    exact id ▸ sound.drawn old there
  · intro other member tenant same
    obtain ⟨old,there,-,endpoint,tenant'⟩ := mem_bereft member
    exact endpoint ▸ sound.tenants old there tenant (tenant'.trans same)
  · intro mine_ id there
    obtain ⟨drawn,absent,single⟩ := sound.rows mine_ id there
    refine ⟨drawn,fun other member => ?_,single⟩
    obtain ⟨old,before,id',-,-⟩ := mem_bereft member
    exact id' ▸ absent old before

theorem undisturbed_own (different : other ≠ process)
    (records : after.record = Function.update w.record process record) (slots : mine other after = mine other w)
    (agent : after.agent = w.agent) (used : after.used = w.used) (drawn : ∀ id ∈ w.drawn, id ∈ after.drawn)
    (rows : ∀ row ∈ after.subs, row.id ∈ w.drawn →
      ∃ old ∈ w.subs, old.id = row.id ∧ old.agentEndpoint = row.agentEndpoint ∧ old.tenantId = row.tenantId) :
    Undisturbed other w after := by
  refine ⟨?_,slots,fun x there => ⟨used ▸ there,fun gone => agent ▸ gone⟩,drawn,rows⟩
  rw [records,Function.update_of_ne different]
theorem rows_same (same : after.subs = w.subs) : ∀ row ∈ after.subs, row.id ∈ w.drawn →
    ∃ old ∈ w.subs, old.id = row.id ∧ old.agentEndpoint = row.agentEndpoint ∧ old.tenantId = row.tenantId :=
  fun row there _ => ⟨row,same ▸ there,rfl,rfl,rfl⟩
theorem undisturbed_claimed (different : other ≠ process) :
    Undisturbed other w (w.claimed process walletId) :=
  undisturbed_own different rfl (mine_cons different) rfl rfl (fun _ there => there) (rows_same rfl)
theorem undisturbed_decremented (different : other ≠ process) :
    Undisturbed other w (w.decremented process walletId) :=
  undisturbed_own different rfl (mine_settle different) rfl rfl (fun _ there => there) (rows_same rfl)
theorem undisturbed_posted (new : ∀ x ∈ made, x ∉ w.used) (some_ : kept ⊆ made) :
    Undisturbed other w (w.posted process made kept) := by
  refine ⟨rfl,rfl,fun x there => ⟨List.mem_append_right _ there,fun gone member => ?_⟩,fun _ there => there,
      rows_same rfl⟩
  rcases List.mem_append.mp member with now | before
  · exact new x (some_ now) there
  · exact gone before
theorem undisturbed_stored (different : other ≠ process) (new : row.id ∉ w.drawn) :
    Undisturbed other w (w.stored process row) := by
  refine ⟨rfl,mine_settle different,fun x there => ⟨there,id⟩,fun _ there => List.mem_cons_of_mem _ there,?_⟩
  intro old there known
  rcases List.mem_cons.mp there with rfl | before
  · exact absurd known new
  · exact ⟨old,before,rfl,rfl,rfl⟩

variable {tenantId : String}
theorem undisturbed_removed :
    Undisturbed other w (w.removed agentEndpoint tenantId) :=
  ⟨rfl,rfl,fun _ there => ⟨there,fun gone member => gone (List.mem_filter.mp member).1⟩,fun _ there => there,
      rows_same rfl⟩
theorem undisturbed_without (different : other ≠ process) :
    Undisturbed other w (w.without process bases row) := by
  refine undisturbed_own different rfl ?_ rfl rfl (fun _ there => there) fun old there _ => ?_
  · simp only [mine,World.without]
    cases byAgentEndpoint bases row.agentEndpoint with
    | none => rfl
    | some base => exact mine_cons different
  · exact ⟨old,(List.mem_filter.mp there).1,rfl,rfl,rfl⟩
theorem undisturbed_bereft {missed : List Nat} : Undisturbed other w (w.bereft missed userId) :=
  ⟨rfl,rfl,fun _ there => ⟨there,id⟩,fun _ there => there,fun _ there _ => mem_bereft there⟩

theorem claim_cases {maxSubWallets : Int} {answer : Except Failure Bool}
    (handled : claim process choice bases w walletId maxSubWallets = some (after,answer)) :
    (after = w ∧ answer ≠ .ok true) ∨ after = w.claimed process walletId ∧ answer = .ok true ∧
      w.useCount walletId < maxSubWallets := by
  unfold claim at handled
  by_cases fails : choice.fails = true
  · rw [if_pos fails] at handled
    cases handled
    exact .inl ⟨rfl,by rintro ⟨⟩⟩
  rw [if_neg fails] at handled
  by_cases room : (bases.rows.any fun base => base.id = walletId) = true ∧ w.useCount walletId < maxSubWallets
  · rw [if_pos room] at handled
    cases handled
    exact .inr ⟨rfl,rfl,room.2⟩
  · rw [if_neg room] at handled
    cases handled
    exact .inl ⟨rfl,by rintro ⟨⟩⟩

variable {answer : Except Failure Unit}
theorem decrement_cases (handled : decrement process choice w walletId = some (after,answer)) :
    (after = w ∧ choice.fails = true) ∨ after = w.decremented process walletId := by
  unfold decrement at handled
  by_cases fails : choice.fails = true
  · rw [if_pos fails] at handled
    cases handled
    exact .inl ⟨rfl,fails⟩
  · rw [if_neg fails] at handled
    cases handled
    exact .inr rfl

theorem postTenant_cases {agentEndpoint : String} {answer : Except Failure (Option TenantResponse)}
    (handled : postTenant process choice w agentEndpoint = some (after,answer)) :
    ∃ made kept, after = w.posted process made kept ∧ (∀ x ∈ made, x ∉ w.used) ∧ kept ⊆ made ∧
      ∀ response, answer = .ok (some response) → ∀ tenant, response.id = some tenant →
      (some agentEndpoint,tenant) ∈ made := by
  unfold postTenant at handled
  dsimp only at handled
  by_cases taken : ((choice.tenant.map fun tenant => (some agentEndpoint,tenant)).toList.any fun tenant =>
      tenant ∈ w.used) = true
  · rw [if_pos taken] at handled
    cases handled
  rw [if_neg taken] at handled
  cases handled
  refine ⟨_,_,rfl,?_,?_,?_⟩
  · intro x there used
    exact taken (List.any_eq_true.mpr ⟨x,there,by simpa using used⟩)
  · split
    · exact List.nil_subset _
    · exact fun _ there => there
  · intro response same tenant id
    split at same
    · cases same
    split at same
    · cases same
    · cases same
      have named : choice.tenant = some tenant := id
      rw [named]
      exact List.mem_singleton_self _

theorem store_cases {agentEndpoint tenantId : Option String}
    (handled : store process choice w userId agentEndpoint tenantId = some (after,answer)) :
    (after = w ∧ answer = .error .other) ∨ ∃ row : Sub, after = w.stored process row ∧ answer = .ok () ∧
        row.id ∉ w.drawn ∧
      row.agentEndpoint = agentEndpoint ∧ row.tenantId = tenantId := by
  unfold store at handled
  by_cases taken : choice.drawn ∈ w.drawn
  · rw [if_pos taken] at handled
    cases handled
  rw [if_neg taken] at handled
  split at handled
  · cases handled
    exact .inl ⟨rfl,rfl⟩
  · cases handled
    exact .inr ⟨_,rfl,rfl,taken,rfl,rfl⟩

theorem removeTenant_cases {answer : Except Failure Bool}
    (handled : removeTenant choice w agentEndpoint tenantId = some (after,answer)) :
    (after = w ∨ after = w.removed agentEndpoint tenantId) ∧
      (answer = .ok true ∨ answer = .error .tenantNotFound → (agentEndpoint,tenantId) ∉ after.agent) := by
  unfold removeTenant at handled
  by_cases fails : choice.fails = true
  · rw [if_pos fails] at handled
    cases handled
    refine ⟨?_,by rintro (same | same) <;> cases same⟩
    split
    · exact .inr rfl
    · exact .inl rfl
  rw [if_neg fails] at handled
  by_cases bad : choice.empty = true
  · rw [if_pos bad] at handled
    cases handled
    refine ⟨?_,by rintro (same | same) <;> cases same⟩
    split
    · exact .inr rfl
    · exact .inl rfl
  rw [if_neg bad] at handled
  by_cases absent : (agentEndpoint,tenantId) ∉ w.agent ∧ choice.done = false
  · rw [if_pos absent] at handled
    cases handled
    exact ⟨.inl rfl,fun _ => absent.1⟩
  · rw [if_neg absent] at handled
    cases handled
    exact ⟨.inr rfl,fun _ => by simp [World.removed]⟩

theorem deleteRow_cases {id : Nat} (handled : deleteRow process choice bases w id = some (after,answer)) :
    (after = w ∧ answer = .error .other) ∨ ∃ row ∈ w.subs, row.id = id ∧ after = w.without process bases row ∧
      answer = .ok () := by
  unfold deleteRow at handled
  by_cases fails : choice.fails = true
  · rw [if_pos fails] at handled
    cases handled
    exact .inl ⟨rfl,rfl⟩
  rw [if_neg fails] at handled
  cases found : w.subs.find? fun row => row.id = id with
  | none =>
    rw [found] at handled
    cases handled
    exact .inl ⟨rfl,rfl⟩
  | some row =>
    rw [found] at handled
    cases handled
    exact .inr ⟨row,List.mem_of_find?_eq_some found,by simpa using List.find?_some found,rfl,rfl⟩

theorem deleteUser_cases
    (handled : deleteUser choice w userId = some (after,answer)) :
    after = w ∨ after = w.bereft choice.missed userId := by
  unfold deleteUser at handled
  split at handled
  · cases handled
    exact .inl rfl
  · cases handled
    exact .inr rfl

/-- A command that is used as it should keeps the invariant, and what the others rely on. -/
theorem handle_safe {c : Cmd} {answer : Except Failure (Ret c)} (sound : Sound bases accurate w)
    (side : Side bases process c w)
    (handled : handle bases process c choice w = some (after,answer)) :
    Sound bases accurate after ∧ ∀ other, other ≠ process → Undisturbed other w after := by
  have same : after = w → Sound bases accurate after ∧ ∀ other, other ≠ process → Undisturbed other w after := by
    rintro rfl
    exact ⟨sound,fun _ _ => undisturbed_refl⟩
  cases c with
  | elsewhere what => exact same (lookedUp_cases handled).1
  | checkUserExist userId => exact same (lookedUp_cases handled).1
  | getAvailableBaseWallet => exact same (lookedUp_cases handled).1
  | checkAgentHealth => exact same (lookedUp_cases handled).1
  | getCloudSubWallet userId => exact same (lookedUp_cases handled).1
  | getBaseWalletByAgentEndpoint agentEndpoint => exact same (lookedUp_cases handled).1
  | claimBaseWalletCapacity walletId maxSubWallets =>
    obtain ⟨fresh,-,base,listed,rfl,rfl⟩ := side
    rcases claim_cases handled with ⟨nothing,-⟩ | ⟨rfl,-,room⟩
    · exact same nothing
    · exact ⟨sound_claimed sound listed fresh room,fun _ => undisturbed_claimed⟩
  | httpPost agentEndpoint =>
    obtain ⟨made,kept,rfl,new,some_,-⟩ := postTenant_cases handled
    exact ⟨sound_posted sound side.1 side.2 new some_,fun _ _ => undisturbed_posted new some_⟩
  | storeCloudWalletDetails userId agentEndpoint tenantId =>
    obtain ⟨⟨base,listed,some_,endpoint,held⟩,known⟩ := side
    rcases store_cases handled with ⟨nothing,-⟩ | ⟨row,rfl,-,new,rfl,rfl⟩
    · exact same nothing
    · have on_ : base.holds row = true := by simp [Base.holds,endpoint,some_]
      exact ⟨sound_stored sound listed on_ held new known,fun _ different => undisturbed_stored different new⟩
  | decrementBaseWalletUseCount walletId =>
    rcases decrement_cases handled with ⟨nothing,-⟩ | rfl
    · exact same nothing
    · exact ⟨sound_decremented sound side.1 side.2,fun _ => undisturbed_decremented⟩
  | httpDelete agentEndpoint tenantId =>
    rcases (removeTenant_cases handled).1 with nothing | rfl
    · exact same nothing
    · exact ⟨sound_removed sound _ _,fun _ _ => undisturbed_removed⟩
  | deleteCloudWalletDetails id =>
    obtain ⟨fresh,-,known⟩ := side
    rcases deleteRow_cases handled with ⟨nothing,-⟩ | ⟨row,there,rfl,rfl,-⟩
    · exact same nothing
    · obtain ⟨gone,base,on_⟩ := known row there rfl
      exact ⟨sound_without sound there fresh gone on_,fun _ => undisturbed_without⟩
  | deleteUserAndRelatedData userId =>
    rcases deleteUser_cases handled with nothing | rfl
    · exact same nothing
    · exact ⟨sound_bereft sound _ _,fun _ _ => undisturbed_bereft⟩

/-- The process has claimed and deleted nothing yet. -/
def Unbegun (process : Nat) (w : World) : Prop := w.record process = .none ∧ mine process w = []
/-- The call has one slot, of this wallet. -/
def Holding (process walletId : Nat) (record : Record) (w : World) : Prop :=
  mine process w = [(process,walletId)] ∧ w.record process = record
/-- It holds no slot, where no write fails. -/
def Free (sure : Prop) (process : Nat) (w : World) : Prop := sure → mine process w = []
/-- The row was stored once with this endpoint and tenant. -/
def Known (row : Sub) (w : World) : Prop :=
  row.id ∈ w.drawn ∧
    (∀ other ∈ w.subs, other.id = row.id → other.agentEndpoint = row.agentEndpoint ∧ other.tenantId = row.tenantId) ∧
    ∀ tenant, row.tenantId = some tenant → (row.agentEndpoint,tenant) ∈ w.used
theorem unbegun_stable (unbegun : Unbegun process a) (relied : Undisturbed process a b) : Unbegun process b :=
  ⟨relied.record.trans unbegun.1,relied.slots.trans unbegun.2⟩
theorem holding_stable (holding : Holding process walletId record a)
    (relied : Undisturbed process a b) : Holding process walletId record b :=
  ⟨relied.slots.trans holding.1,relied.record.trans holding.2⟩
theorem free_stable (free : Free sure process a) (relied : Undisturbed process a b) : Free sure process b :=
  fun none_ => relied.slots.trans (free none_)
theorem known_stable (known : Known row a) (relied : Undisturbed process a b) : Known row b := by
  refine ⟨relied.drawn _ known.1,fun other there same => ?_,fun tenant id => (relied.used _ (known.2.2 tenant id)).1⟩
  obtain ⟨old,before,id,endpoint,tenant⟩ := relied.rows other there (same ▸ known.1)
  obtain ⟨endpoint',tenant'⟩ := known.2.1 old before (id.trans same)
  exact ⟨endpoint.symm.trans endpoint',tenant.symm.trans tenant'⟩
theorem Unbegun.free (unbegun : Unbegun process w) : Free sure process w := fun _ => unbegun.2

theorem wp_command {c : Cmd} {P : World → Prop} {Q : Except Failure (Ret c) → World → Prop}
    (stable : ∀ a b, P a → Undisturbed process a b → P b)
    (side : ∀ w, Sound bases accurate w → P w → Side bases process c w)
    (ends : ∀ w choice after answer, Sound bases accurate w → P w → (sure → c.writes = true → choice.fails = false) →
      handle bases process c choice w = some (after,answer) → Q answer after) (now : P w) :
    wp (sys bases) (contract bases accurate sure) process (perform c) Q w := by
  apply wp_call
  intro before relied sound choice after answer allowed handled
  have held := stable w before now relied
  obtain ⟨kept,others⟩ := handle_safe sound (side before sound held) handled
  exact ⟨kept,others,ends before choice after answer sound held allowed handled⟩

theorem wp_read {c : Cmd} {P : World → Prop} {V : World → Except Failure (Ret c)}
    (stable : ∀ a b, P a → Undisturbed process a b → P b)
    (side : ∀ w, Side bases process c w) (reads : ∀ choice w, ∃ v : Except Failure (Ret c), v = V w ∧
      handle bases process c choice w = lookedUp choice.fails .other w v) (now : P w) :
    wp (sys bases) (contract bases accurate sure) process (perform c)
      (upon (fun v w => P w ∧ Sound bases accurate w ∧ V w = .ok v) P) w := by
  refine wp_command stable (fun w _ _ => side w) ?_ now
  intro w choice after answer sound held _ handled
  obtain ⟨v,rfl,same⟩ := reads choice w
  rw [same] at handled
  obtain ⟨rfl,rfl | rfl⟩ := lookedUp_cases handled
  · exact held
  · cases read : V after with
    | ok v => exact ⟨held,sound,read⟩
    | error error => exact held

theorem wp_ask {what : Elsewhere} {holds : World → Prop} (stable : ∀ a b, holds a → Undisturbed process a b → holds b)
    (now : holds w) :
    wp (sys bases) (contract bases accurate sure) process (ask what) (upon (fun _ => holds) holds) w := by
  refine wp_mono ?_ (wp_read (c := .elsewhere what) (V := fun _ => .ok ()) stable (fun _ => trivial)
    (fun _ _ => ⟨_,rfl,rfl⟩) now)
  rintro (error | value) w' ended
  · exact ended
  · exact ended.1

theorem wp_release (once : record.releases = 0 ∧ record.claims + record.rows.length = 1)
    (now : Holding process walletId record w) :
    wp (sys bases) (contract bases accurate sure) process (release walletId)
      (upon (fun _ => Free sure process) (Free sure process)) w := by
  refine (wp_tryCatch _ _ _ _).mpr (wp_mono ?_ (wp_command (c := .decrementBaseWalletUseCount walletId)
    (Q := fun _ => Free sure process) (fun _ _ => holding_stable)
    (fun _ _ holding => ⟨holding.1,by rw [holding.2]; exact once⟩) ?_ now))
  · rintro (error | value) w' ended <;> exact ended
  intro w choice after answer _ holding allowed handled none_
  rcases decrement_cases handled with ⟨-,fails⟩ | rfl
  · rw [allowed none_ rfl] at fails
    cases fails
  · exact mine_gone

def Record.claimed : Record := ⟨1,[],0⟩

theorem wp_createTenant (listed : base ∈ bases.rows) (now : Holding process base.id .claimed w) :
    wp (sys bases) (contract bases accurate sure) process (createTenant base userId)
      (upon (fun _ => Free sure process) (Holding process base.id .claimed)) w := by
  have stable : ∀ a b, Holding process base.id .claimed a → Undisturbed process a b →
      Holding process base.id .claimed b :=
    fun _ _ => holding_stable
  unfold createTenant
  cases endpoint : truthy base.agentEndpoint with
  | none => exact now
  | some agentEndpoint =>
  cases apiKey : truthy base.agentApiKey with
  | none => exact now
  | some agentApiKey =>
  have same : base.agentEndpoint = some agentEndpoint := (Option.filter_eq_some_iff.mp endpoint).1
  refine wp_seq _ (wp_ask stable now) fun _ w holding => ?_
  refine wp_seq _ (wp_command (c := .checkAgentHealth)
    (Q := upon (fun _ => Holding process base.id .claimed) (Holding process base.id .claimed)) stable
    (fun _ _ _ => trivial) ?_ holding) fun healthy w holding => ?_
  · intro w choice after answer _ holding _ handled
    obtain ⟨rfl,-⟩ := lookedUp_cases handled
    cases answer <;> exact holding
  refine wp_branches _ (fun _ => holding) fun _ => ?_
  -- The tenant of the answer is one that the agent made.
  let Made (response : Option TenantResponse) (w : World) : Prop := Holding process base.id .claimed w ∧
    ∀ tenant, (response.bind TenantResponse.id) = some tenant → (some agentEndpoint,tenant) ∈ w.used
  have stable' : ∀ response a b, Made response a → Undisturbed process a b → Made response b :=
    fun response a b made relied => ⟨holding_stable made.1 relied,fun tenant id => (relied.used _ (made.2 tenant id)).1⟩
  refine wp_seq Made (wp_command (c := .httpPost agentEndpoint) stable (fun w _ holding => ?_) ?_ holding)
      fun response w made => ?_
  · exact ⟨by rw [holding.1]; rintro ⟨⟩,by rw [holding.2]; rfl⟩
  · intro w choice after answer _ holding _ handled
    obtain ⟨made,kept,rfl,-,-,answers⟩ := postTenant_cases handled
    cases answer with
    | error error => exact holding
    | ok response =>
      refine ⟨holding,fun tenant id => ?_⟩
      obtain ⟨answer,rfl,id⟩ := Option.bind_eq_some_iff.mp id
      exact List.mem_append_left _ (answers answer rfl tenant id)
  cases response with
  | none => exact made.1
  | some response =>
  refine wp_seq (fun _ => Made (some response)) (wp_mono ?_ (wp_ask (stable' (some response)) made)) fun _ w made => ?_
  · rintro (error | value) w' ended
    · exact ended.1
    · exact ended
  refine wp_command (c := .storeCloudWalletDetails userId base.agentEndpoint response.id) (stable' (some response))
    (fun w _ made => ?_) ?_ made
  · refine ⟨⟨base,listed,by rw [endpoint]; rfl,rfl,made.1.1⟩,fun tenant id => ?_⟩
    rw [same]
    exact made.2 tenant id
  · intro w choice after answer _ made _ handled
    rcases store_cases handled with ⟨rfl,rfl⟩ | ⟨row,rfl,rfl,-⟩
    · exact made.1
    · exact fun _ => mine_gone

theorem wp_createCloudWallet (now : Unbegun process w) :
    wp (sys bases) (contract bases accurate sure) process (createCloudWallet userId)
      (upon (fun _ => Free sure process) (Free sure process)) w := by
  have stable : ∀ a b, Unbegun process a → Undisturbed process a b → Unbegun process b := fun _ _ => unbegun_stable
  refine wp_seq (fun _ => Unbegun process) (wp_mono ?_ (wp_read (c := .checkUserExist userId) stable (fun _ => trivial)
    (fun _ _ => ⟨_,rfl,rfl⟩) now)) fun exists_ w unbegun => ?_
  · rintro (error | value) w' ended
    · exact ended.free
    · exact ended.1
  refine wp_branches _ (fun _ => unbegun.free) fun _ => ?_
  refine wp_seq (fun base? w => Unbegun process w ∧ ∀ base, base? = some base → base ∈ bases.rows)
    (wp_mono ?_ (wp_read (c := .getAvailableBaseWallet) stable (fun _ => trivial) (fun _ _ => ⟨_,rfl,rfl⟩) unbegun))
    fun base? w found => ?_
  · rintro (error | value) w' ended
    · exact ended.free
    · refine ⟨ended.1,fun base same => ?_⟩
      have first := Except.ok.inj ended.2.2
      exact List.mem_of_find?_eq_some (first.trans same)
  obtain ⟨unbegun,listed⟩ := found
  cases base? with
  | none => exact unbegun.free
  | some base =>
  refine wp_seq
      (fun claimed w => (claimed = true → Holding process base.id .claimed w) ∧ (claimed = false → Unbegun process w))
    (wp_command (c := .claimBaseWalletCapacity base.id base.maxSubWallets) stable (fun w _ unbegun => ?_) ?_ unbegun)
    fun claimed w held => ?_
  · exact ⟨unbegun.1,unbegun.2,base,listed base rfl,rfl,rfl⟩
  · intro w choice after answer _ unbegun _ handled
    rcases claim_cases handled with ⟨rfl,refused⟩ | ⟨rfl,rfl,-⟩
    · cases answer with
      | error error => exact unbegun.free
      | ok claimed => exact ⟨fun same => absurd (congrArg Except.ok same) refused,fun _ => unbegun⟩
    · refine ⟨fun _ => ⟨?_,?_⟩,by rintro ⟨⟩⟩
      · change ((process,base.id) :: w.slots).filter _ = _
        rw [List.filter_cons_of_pos (by simp)]
        exact congrArg _ unbegun.2
      · simp [World.claimed,unbegun.1,Record.none,Record.claimed]
  refine wp_branches _ (fun refused => (held.2 refused).free) fun claimed_ => ?_
  have holding := held.1 (by simpa using claimed_)
  refine (wp_tryCatch _ _ _ _).mpr (wp_mono ?_ (wp_createTenant (listed base rfl) holding))
  rintro (error | value) w' ended
  · exact wp_seq _ (wp_release ⟨rfl,rfl⟩ ended) fun _ w free => free
  · exact ended

theorem wp_deleteTenant (now : Unbegun process w ∧ Known row w) :
    wp (sys bases) (contract bases accurate sure) process (deleteTenant base tenantId)
      (upon (fun deleted w => (Unbegun process w ∧ Known row w) ∧ (deleted = true → (base.agentEndpoint,tenantId) ∉ w.agent))
        (Free sure process)) w := by
  have stable : ∀ a b, Unbegun process a ∧ Known row a → Undisturbed process a b → Unbegun process b ∧ Known row b :=
    fun _ _ both relied => ⟨unbegun_stable both.1 relied,known_stable both.2 relied⟩
  refine (wp_tryCatch _ _ _ _).mpr (wp_mono ?_ (wp_command (c := .httpDelete base.agentEndpoint tenantId)
    (Q := fun (answer : Except Failure Bool) w => (Unbegun process w ∧ Known row w) ∧
      (answer = .ok true ∨ answer = .error .tenantNotFound → (base.agentEndpoint,tenantId) ∉ w.agent))
    stable (fun _ _ _ => trivial) ?_ now))
  · rintro (error | deleted) w' ended
    · refine wp_branches _ (fun same => ?_) fun _ => ended.1.1.free
      exact ⟨ended.1,fun _ => ended.2 (.inr (congrArg _ same))⟩
    · exact ⟨ended.1,fun same => ended.2 (.inl (congrArg _ same))⟩
  · intro w choice after answer _ both _ handled
    obtain ⟨moved,gone⟩ := removeTenant_cases handled
    refine ⟨?_,gone⟩
    rcases moved with rfl | rfl
    · exact both
    · exact stable _ _ both undisturbed_removed

theorem wp_deleteCloudWallet {deleteHolder : Bool} (now : Unbegun process w) :
    wp (sys bases) (contract bases accurate sure) process (deleteCloudWallet userId deleteHolder)
      (upon (fun _ => Free sure process) (Free sure process)) w := by
  refine wp_seq (fun row? w => Unbegun process w ∧ ∀ row, row? = some row → Known row w)
    (wp_mono ?_ (wp_read (c := .getCloudSubWallet userId) (fun _ _ => unbegun_stable) (fun _ => trivial)
      (fun _ _ => ⟨_,rfl,rfl⟩) now)) fun row? w found => ?_
  · rintro (error | value) w' ended
    · exact ended.free
    · obtain ⟨unbegun,sound,read⟩ := ended
      refine ⟨unbegun,fun row same => ?_⟩
      have there : row ∈ w'.subs := List.mem_of_find?_eq_some ((Except.ok.inj read).trans same)
      refine ⟨sound.drawn row there,fun other member id => ?_,sound.tenants row there⟩
      have only : other ∈ w'.subs.filter fun other => other.id = row.id := List.mem_filter.mpr ⟨member,by simpa using id⟩
      rw [filter_id sound.ids there,List.mem_singleton] at only
      exact only ▸ ⟨rfl,rfl⟩
  obtain ⟨unbegun,known⟩ := found
  cases wallet : row?.bind fun row => (truthy row.tenantId).map fun tenantId => (row,tenantId) with
  | none => exact wp_branches _ (fun _ => unbegun.free) fun _ => unbegun.free
  | some pair =>
  obtain ⟨row,same,named⟩ := Option.bind_eq_some_iff.mp wallet
  obtain ⟨tenantId,tenant,rfl⟩ := Option.map_eq_some_iff.mp named
  have id_ : row.tenantId = some tenantId := (Option.filter_eq_some_iff.mp tenant).1
  have stable : ∀ a b, Unbegun process a ∧ Known row a → Undisturbed process a b → Unbegun process b ∧ Known row b :=
    fun _ _ both relied => ⟨unbegun_stable both.1 relied,known_stable both.2 relied⟩
  refine wp_seq (fun base? w => (Unbegun process w ∧ Known row w) ∧ byAgentEndpoint bases row.agentEndpoint = base?)
    (wp_mono ?_ (wp_read (c := .getBaseWalletByAgentEndpoint row.agentEndpoint) stable (fun _ => trivial)
      (fun _ _ => ⟨_,rfl,rfl⟩) ⟨unbegun,known row same⟩)) fun base? w found => ?_
  · rintro (error | value) w' ended
    · exact ended.1.free
    · exact ⟨ended.1,Except.ok.inj ended.2.2⟩
  obtain ⟨both,on_⟩ := found
  cases base? with
  | none => exact both.1.free
  | some base =>
  obtain ⟨-,-,endpoint⟩ := mem_byAgentEndpoint on_
  refine wp_seq (fun _ w => Unbegun process w ∧ Known row w) (wp_mono ?_ (wp_ask stable both)) fun _ w both => ?_
  · rintro (error | value) w' ended
    · exact ended.1.free
    · exact ended
  refine wp_seq _ (wp_deleteTenant both) fun deleted w ended => ?_
  obtain ⟨both,gone⟩ := ended
  refine wp_branches _ (fun _ => both.1.free) fun deleted_ => ?_
  have absent : (row.agentEndpoint,tenantId) ∉ w.agent := endpoint ▸ gone (by simpa using deleted_)
  refine wp_seq (fun _ => Holding process base.id ⟨0,[row.id],0⟩) (wp_command (c := .deleteCloudWalletDetails row.id)
    (P := fun w => (Unbegun process w ∧ Known row w) ∧ (row.agentEndpoint,tenantId) ∉ w.agent)
    (fun a b all relied => ⟨stable a b all.1 relied,(relied.used _ (all.1.2.2.2 tenantId id_)).2 all.2⟩)
    (fun w _ all => ?_) ?_ ⟨both,absent⟩) fun _ w holding => wp_release ⟨rfl,rfl⟩ holding
  · refine ⟨all.1.1.1,all.1.1.2,fun other there same' => ?_⟩
    obtain ⟨endpoint',tenant'⟩ := all.1.2.2.1 other there same'
    refine ⟨fun tenant named => ?_,base,by rw [endpoint',on_]⟩
    rw [tenant',id_] at named
    obtain rfl := Option.some.inj named
    rw [endpoint']
    exact ⟨all.1.2.2.2 tenantId id_,all.2⟩
  · intro w choice after answer _ all _ handled
    rcases deleteRow_cases handled with ⟨rfl,rfl⟩ | ⟨other,there,same',rfl,rfl⟩
    · exact all.1.1.free
    obtain ⟨fresh,none_⟩ := all.1.1
    refine ⟨?_,?_⟩
    · simp only [mine,World.without,(all.1.2.2.1 other there same').1,on_,Option.map_some,Option.toList_some,
        List.singleton_append]
      rw [List.filter_cons_of_pos (by simp)]
      exact congrArg _ none_
    · simp [World.without,fresh,Record.none,same']

theorem wp_deleteHolderOf {deleteHolder : Bool} (now : Unbegun process w) :
    wp (sys bases) (contract bases accurate sure) process (deleteHolderOf userId deleteHolder)
      (upon (fun _ => Free sure process) (Free sure process)) w := by
  have stable : ∀ a b, Free sure process a → Undisturbed process a b → Free sure process b := fun _ _ => free_stable
  refine wp_seq _ (wp_deleteCloudWallet now) fun _ w free => wp_branches _ (fun _ => ?_) fun _ => free
  refine wp_seq _ (wp_ask stable free) fun _ w free => ?_
  refine wp_command (c := .deleteUserAndRelatedData userId) stable (fun _ _ _ => trivial) ?_ free
  intro w choice after answer _ free _ handled
  have kept : Free sure process after := by
    rcases deleteUser_cases handled with rfl | rfl
    · exact free
    · exact free
  cases answer <;> exact kept

theorem wp_program {input : Input} (now : Unbegun process w) :
    wp (sys bases) (contract bases accurate sure) process (program process input) (settled sure process) w := by
  have ends : ∀ result w, upon (fun _ => Free sure process) (Free sure process) result w →
      settled sure process result w := by
    rintro (error | value) w ended <;> exact ended
  cases input with
  | create userId => exact wp_mono ends (wp_createCloudWallet now)
  | delete userId deleteHolder => exact wp_mono ends (wp_deleteHolderOf now)
theorem keeps : Keeps (sys bases) (contract bases accurate sure) (settled sure) where
  reflexive _ _ := undisturbed_refl
  transitive _ _ _ _ := undisturbed_trans
  stable _ _ _ _ ended relied _ := free_stable ended relied
  idles _ _ _ idle relied _ := unbegun_stable idle relied
  arrives _ _ _ _ sound idle arrived := by
    obtain rfl := Option.some.inj arrived
    exact ⟨sound,fun _ _ => undisturbed_refl,wp_program idle⟩
  moves event := event.elim

/-- No call has begun, and the counts are within the bounds. -/
structure Fresh (bases : Bases) (w : World) : Prop where
  bounds : ∀ base ∈ bases.rows, 0 ≤ w.useCount base.id ∧ w.useCount base.id ≤ base.maxSubWallets
  ids : (w.subs.map Sub.id).Nodup
  drawn : ∀ row ∈ w.subs, row.id ∈ w.drawn
  tenants : ∀ row ∈ w.subs, ∀ tenant, row.tenantId = some tenant → (row.agentEndpoint,tenant) ∈ w.used
  record : ∀ process, w.record process = .none
  slots : w.slots = []
  uncovered : w.uncovered = []
  deleted : w.deleted = []
  lost : w.lost = []

/-- The counters count the sub-wallets, each of which is on a base wallet. -/
structure Right (bases : Bases) (w : World) : Prop where
  counts : ∀ base ∈ bases.rows, w.useCount base.id = w.rowsOn base
  placed : ∀ row ∈ w.subs, ∃ base ∈ bases.rows, base.holds row = true

theorem Fresh.sound (fresh : Fresh bases w) : Sound bases (Right bases w) w := by
  refine ⟨fresh.bounds,?_,?_,fresh.ids,fresh.drawn,fresh.tenants,?_,fresh.uncovered,?_,?_⟩
  · intro right base listed
    simp [right.counts base listed,World.slotsOn,World.lostOn,fresh.slots,fresh.lost]
  · intro right row there
    rw [fresh.lost,List.append_nil] at there
    exact right.placed row there
  · rw [fresh.deleted]
    exact fun _ there => by cases there
  · intro process
    rw [fresh.record]
    exact ⟨Nat.zero_le _,Nat.zero_le _⟩
  · intro process id there
    rw [fresh.record] at there
    cases there

theorem Fresh.safe (fresh : Fresh bases w) :
    Safe (sys bases) (contract bases (Right bases w) sure) (settled sure) (Machine.initial w) :=
  safe_initial fresh.sound fun process => ⟨fresh.record process,by simp [mine,fresh.slots]⟩
/-- A call makes at most one claim or deletes at most one row, and releases it at most
    once; and no row is deleted by two calls. -/
def ReleasedOnce (w : World) : Prop :=
  (∀ process, (w.record process).claims + (w.record process).rows.length ≤ 1 ∧
    (w.record process).releases ≤ (w.record process).claims + (w.record process).rows.length) ∧
  ∀ process other id, id ∈ (w.record process).rows → id ∈ (w.record other).rows → other = process

/-- In every state that is reached the counters are in their bounds, no tenant was asked
    for without a slot, and nothing was released twice; and where the counters started
    right, no base wallet has more sub-wallets than it may. -/
theorem capped {bases : Bases} {w : World} {t : Machine Cmd Ret Failure Unit World} (fresh : Fresh bases w)
    {actions : List (Action Choice Input Empty)}
    (reached : run (step (sys bases)) (Machine.initial w) actions = some t) :
    (∀ base ∈ bases.rows, 0 ≤ t.world.useCount base.id ∧ t.world.useCount base.id ≤ base.maxSubWallets) ∧
      t.world.uncovered = [] ∧ ReleasedOnce t.world ∧
      (Right bases w → ∀ base ∈ bases.rows, (t.world.rowsOn base : Int) ≤ base.maxSubWallets) := by
  have considered : Along (step (sys bases)) (Considered (contract bases (Right bases w) False))
      (Machine.initial w) actions := by
    refine along_of_forall fun m a _ => ?_
    cases a with
    | start process input => trivial
    | crash process => trivial
    | environment event => exact event.elim
    | advance process choice => exact fun _ _ _ sure => sure.elim
  have sound := (run_safe keeps fresh.safe considered reached).inv
  refine ⟨sound.bounds,sound.covered,⟨sound.once,fun process other id there => (sound.rows process id there).2.2 other⟩,?_⟩
  intro right base listed
  have balance := sound.balance right base listed
  have bounds := (sound.bounds base listed).2
  omega

/-- Whatever is created, deleted and cut off at once, the tenants of the deleted wallets are gone, and a wallet that a
    call deleted is not stored again. -/
theorem deleted_gone {bases : Bases} {w : World} {t : Machine Cmd Ret Failure Unit World} (fresh : Fresh bases w)
    {actions : List (Action Choice Input Empty)}
    (reached : run (step (sys bases)) (Machine.initial w) actions = some t) :
    (∀ row ∈ t.world.deleted, ∀ tenant, row.tenantId = some tenant → (row.agentEndpoint,tenant) ∉ t.world.agent) ∧
      (t.world.subs.map Sub.id).Nodup ∧
      ∀ process, ∀ id ∈ (t.world.record process).rows, ∀ row ∈ t.world.subs, row.id ≠ id := by
  have considered : Along (step (sys bases)) (Considered (contract bases (Right bases w) False))
      (Machine.initial w) actions := by
    refine along_of_forall fun m a _ => ?_
    cases a with
    | environment event => exact event.elim
    | advance process choice => exact fun _ _ _ sure => sure.elim
    | _ => trivial
  have sound := (run_safe keeps fresh.safe considered reached).inv
  exact ⟨fun row there tenant named => (sound.gone row there tenant named).2,sound.ids,
    fun process id there => (sound.rows process id there).2.1⟩

end

/-- No call is in progress. A call that was cut off never ends. -/
def Quiet (m : Machine Cmd Ret Failure Unit World) : Prop :=
  ∀ process, m.thread process = .unused ∨ ∃ result, (m.thread process).ended = some result
/-- The counters count the sub-wallets, and the agents have no tenant of a deleted row. -/
structure Accurate (bases : Bases) (w : World) : Prop where
  counts : ∀ base ∈ bases.rows, w.useCount base.id = w.rowsOn base
  tenants : ∀ row ∈ w.deleted ++ w.lost, ∀ tenant, row.tenantId = some tenant → (row.agentEndpoint,tenant) ∉ w.agent
def Written (m : Machine Cmd Ret Failure Unit World) : Action Choice Input Empty → Prop
  | .advance process choice => ∀ c resume, m.thread process = .live (.await c resume) → c.writes = true →
      choice.fails = false
  | _ => True

/-- The deletion of a user finds no sub-wallet of the user. -/
def Parted (m : Machine Cmd Ret Failure Unit World) : Action Choice Input Empty → Prop
  | .advance process choice => ∀ userId resume,
      m.thread process = .live (.await (.deleteUserAndRelatedData userId) resume) →
        choice.fails = false → userId ∈ m.world.users → ∀ row ∈ m.world.subs, doomed choice.missed userId row = false
  | _ => True

section
variable {bases : Bases} {m next t : Machine Cmd Ret Failure Unit World} {w after : World} {process : Nat}
    {choice : Choice}

theorem handle_lost {c : Cmd} {answer : Except Failure (Ret c)} (other : ∀ userId, c ≠ .deleteUserAndRelatedData userId)
    (handled : handle bases process c choice w = some (after,answer)) : after.lost = w.lost := by
  cases c with
  | elsewhere what => rw [(lookedUp_cases handled).1]
  | checkUserExist userId => rw [(lookedUp_cases handled).1]
  | getAvailableBaseWallet => rw [(lookedUp_cases handled).1]
  | checkAgentHealth => rw [(lookedUp_cases handled).1]
  | getCloudSubWallet userId => rw [(lookedUp_cases handled).1]
  | getBaseWalletByAgentEndpoint agentEndpoint => rw [(lookedUp_cases handled).1]
  | claimBaseWalletCapacity walletId maxSubWallets => rcases claim_cases handled with ⟨rfl,-⟩ | ⟨rfl,-⟩ <;> rfl
  | httpPost agentEndpoint => obtain ⟨made,kept,rfl,-⟩ := postTenant_cases handled; rfl
  | storeCloudWalletDetails userId agentEndpoint tenantId =>
      rcases store_cases handled with ⟨rfl,-⟩ | ⟨row,rfl,-⟩ <;> rfl
  | decrementBaseWalletUseCount walletId => rcases decrement_cases handled with ⟨rfl,-⟩ | rfl <;> rfl
  | httpDelete agentEndpoint tenantId => rcases (removeTenant_cases handled).1 with rfl | rfl <;> rfl
  | deleteCloudWalletDetails id => rcases deleteRow_cases handled with ⟨rfl,-⟩ | ⟨row,-,-,rfl,-⟩ <;> rfl
  | deleteUserAndRelatedData userId => exact absurd rfl (other userId)

theorem deleteUser_lost {userId : String} {answer : Except Failure Unit}
    (handled : deleteUser choice w userId = some (after,answer)) :
    after.lost = [] ↔ w.lost = [] ∧
      (choice.fails = false → userId ∈ w.users → ∀ row ∈ w.subs, doomed choice.missed userId row = false) := by
  unfold deleteUser at handled
  by_cases refused : choice.fails = true ∨ userId ∉ w.users
  · rw [if_pos refused] at handled
    cases handled
    refine ⟨fun none_ => ⟨none_,fun went there => ?_⟩,fun both => both.1⟩
    rcases refused with fails | gone
    · rw [went] at fails
      cases fails
    · exact absurd there gone
  · rw [if_neg refused] at handled
    cases handled
    rw [not_or,Bool.not_eq_true,not_not] at refused
    change w.subs.filter (doomed choice.missed userId) ++ w.lost = [] ↔ _
    rw [List.append_eq_nil_iff,List.filter_eq_nil_iff]
    constructor
    · rintro ⟨none_,lost⟩
      exact ⟨lost,fun _ _ row there => by simpa using none_ row there⟩
    · rintro ⟨lost,none_⟩
      exact ⟨fun row there => by simp [none_ refused.1 refused.2 row there],lost⟩

/-- A slot is lost in a step exactly when its call parts from it there. -/
theorem step_lost {a : Action Choice Input Empty} (taken : step (sys bases) m a = some next) :
    next.world.lost = [] ↔ m.world.lost = [] ∧ Parted m a := by
  cases a with
  | start process input =>
    obtain ⟨-,world,arrived,rfl⟩ := step_start taken
    obtain rfl := Option.some.inj arrived
    exact ⟨fun none_ => ⟨none_,trivial⟩,fun both => both.1⟩
  | crash process =>
    obtain ⟨-,rfl⟩ := step_crash taken
    exact ⟨fun none_ => ⟨none_,trivial⟩,fun both => both.1⟩
  | environment event => exact event.elim
  | advance process choice =>
    obtain ⟨c,resume,after,answer,at_,handled,rfl⟩ := step_advance taken
    by_cases deletes : ∃ userId, c = .deleteUserAndRelatedData userId
    · obtain ⟨userId,rfl⟩ := deletes
      refine (deleteUser_lost handled).trans
          (and_congr_right fun _ => ⟨fun none_ userId' resume' at' => ?_,fun parted => ?_⟩)
      · cases at_.symm.trans at'
        exact none_
      · exact parted userId resume at_
    · change after.lost = [] ↔ _
      rw [handle_lost (fun userId same => deletes ⟨userId,same⟩) handled]
      refine ⟨fun none_ => ⟨none_,fun userId' resume' at' => ?_⟩,fun both => both.1⟩
      cases at_.symm.trans at'
      exact absurd ⟨userId',rfl⟩ deletes

/-- No slot is lost in a run exactly when no step parts from one. -/
theorem run_lost {actions : List (Action Choice Input Empty)} (none_ : m.world.lost = [])
    (reached : run (step (sys bases)) m actions = some t) :
    t.world.lost = [] ↔ Along (step (sys bases)) Parted m actions := by
  induction actions generalizing m with
  | nil =>
    obtain rfl := Option.some.inj reached
    exact ⟨fun _ => trivial,fun _ => none_⟩
  | cons a rest ih =>
    obtain ⟨next,taken,later⟩ := run_cons.mp reached
    constructor
    · intro kept
      have before : next.world.lost = [] := by
        refine run_reflects (K := fun u => u.world.lost = []) ?_ kept later
        exact fun _ _ _ taken none_ => ((step_lost taken).mp none_).1
      refine ⟨((step_lost taken).mp before).2,fun other same => ?_⟩
      obtain rfl := Option.some.inj (taken.symm.trans same)
      exact (ih before later).mp kept
    · rintro ⟨parted,along⟩
      exact (ih ((step_lost taken).mpr ⟨none_,parted⟩) later).mpr (along next taken)

/-- Whenever no call is in progress, and no write failed, the counters are right and the
    tenants of the deleted rows are gone exactly when no deletion of a user found a
    sub-wallet of that user. -/
theorem accurate_iff (fresh : Fresh bases w) (right : Right bases w) {actions : List (Action Choice Input Empty)}
    (written : Along (step (sys bases)) Written (Machine.initial w) actions)
    (reached : run (step (sys bases)) (Machine.initial w) actions = some t) (quiet : Quiet t) :
    Accurate bases t.world ↔ Along (step (sys bases)) Parted (Machine.initial w) actions := by
  have considered : Along (step (sys bases)) (Considered (contract bases (Right bases w) True))
      (Machine.initial w) actions := by
    refine along_mono (fun m a written => ?_) written
    cases a with
    | start process input => trivial
    | crash process => trivial
    | environment event => exact event.elim
    | advance process choice => exact fun c resume at_ _ writes => written c resume at_ writes
  have safe := run_safe keeps fresh.safe considered reached
  -- The calls that ended hold no slot, and no others were started.
  have settled_ : t.world.slots = [] := by
    refine List.eq_nil_iff_forall_not_mem.mpr fun slot there => ?_
    have held : slot ∈ mine slot.1 t.world := List.mem_filter.mpr ⟨there,by simp⟩
    have none_ : mine slot.1 t.world = [] := by
      rcases quiet slot.1 with unused | ⟨result,ended⟩
      · exact (safe.idle slot.1 unused).2
      · exact safe_ended safe ended trivial
    rw [none_] at held
    cases held
  have counts : ∀ base ∈ bases.rows, t.world.useCount base.id = t.world.rowsOn base + t.world.lostOn base := by
    intro base listed
    have balance := safe.inv.balance right base listed
    have slots : t.world.slotsOn base = 0 := by simp [World.slotsOn,settled_]
    omega
  refine Iff.trans ?_ (run_lost fresh.lost reached)
  constructor
  · intro accurate
    refine List.eq_nil_iff_forall_not_mem.mpr fun row there => ?_
    obtain ⟨base,listed,held⟩ := safe.inv.placed right row (List.mem_append_right _ there)
    have some_ : 0 < t.world.lostOn base := List.countP_pos_iff.mpr ⟨row,there,held⟩
    have count := counts base listed
    have count' := accurate.counts base listed
    omega
  · intro lost
    refine ⟨fun base listed => ?_,fun row there tenant named => ?_⟩
    · have none_ : t.world.lostOn base = 0 := by simp [World.lostOn,lost]
      have count := counts base listed
      omega
    · rw [lost,List.append_nil] at there
      exact (safe.inv.gone row there tenant named).2

end

def agentWallet : Base := ⟨0,some "https://agent",some "key",true,1⟩
def oneBase : Bases where
  rows := [agentWallet]
  ids := by simp
  endpoints := by simp
/-- The wallet of the only user, on the only base wallet, which has room for one. -/
def wallet : Sub := ⟨0,some "ada",some "https://agent",some "first"⟩

def oneWallet : World where
  useCount _ := 1
  subs := [wallet]
  users := ["ada"]
  agent := [(some "https://agent","first")]
  used := [(some "https://agent","first")]
  drawn := [0]
  record _ := .none
  slots := []
  uncovered := []
  deleted := []
  lost := []

theorem fresh_oneWallet : Fresh oneBase oneWallet := by
  refine ⟨?_,by decide,by decide,?_,fun _ => rfl,rfl,rfl,rfl,rfl⟩
  · intro base listed
    obtain rfl := List.mem_singleton.mp listed
    exact ⟨by decide,by decide⟩
  · intro row there tenant named
    obtain rfl := List.mem_singleton.mp there
    obtain rfl := Option.some.inj named
    exact List.mem_singleton_self _
theorem right_oneWallet : Right oneBase oneWallet := by
  constructor
  · intro base listed
    obtain rfl := List.mem_singleton.mp listed
    decide +kernel
  · intro row there
    obtain rfl := List.mem_singleton.mp there
    exact ⟨agentWallet,List.mem_singleton_self _,by decide +kernel⟩

def go (process : Nat) : Action Choice Input Empty := .advance process ⟨false,true,1,some "second",false,[]⟩
/-- The holder is deleted: the wallet is gone, a second one is created, and then the user
    is deleted. -/
def holderDeleted : List (Action Choice Input Empty) :=
  [.start 0 (.delete "ada" true),go 0,go 0,go 0,go 0,go 0,go 0] ++
    [.start 1 (.create "ada"),go 1,go 1,go 1,go 1,go 1,go 1,go 1,go 1] ++ [go 0,go 0]

theorem holderDeleted_reached :
    ∃ t, run (step (sys oneBase)) (Machine.initial oneWallet) holderDeleted = some t ∧ Quiet t ∧
    t.world.useCount 0 = 1 ∧ t.world.subs = [] := by
  have ran : (run (step (sys oneBase)) (Machine.initial oneWallet) holderDeleted).map (fun t =>
      ((t.thread 0).ended.isSome,(t.thread 1).ended.isSome,t.world.useCount 0,t.world.subs)) =
        some (true,true,1,[]) := by decide +kernel
  obtain ⟨t,reached,facts⟩ := Option.map_eq_some_iff.mp ran
  simp only [Prod.mk.injEq] at facts
  refine ⟨t,reached,fun process => ?_,facts.2.2⟩
  by_cases first : process = 0
  · exact .inr (Option.isSome_iff_exists.mp (first ▸ facts.1))
  by_cases second : process = 1
  · exact .inr (Option.isSome_iff_exists.mp (second ▸ facts.2.1))
  · refine .inl (run_thread ?_ reached)
    simp [holderDeleted,go,Action.process,Ne.symm first,Ne.symm second]

def succeeds : Action Choice Input Empty → Bool
  | .advance _ choice => !choice.fails
  | _ => true
theorem written_of_succeeds {m : Machine Cmd Ret Failure Unit World} {a : Action Choice Input Empty}
    (well : succeeds a = true) : Written m a := by
  cases a with
  | advance process choice => exact fun _ _ _ _ => by simpa [succeeds] using well
  | _ => trivial
theorem written_holderDeleted : Along (step (sys oneBase)) Written (Machine.initial oneWallet) holderDeleted := by
  have succeeding : holderDeleted.all succeeds = true := rfl
  exact along_of_forall fun m a there => written_of_succeeds (List.all_eq_true.mp succeeding a there)
theorem capped_holderDeleted : ∃ t, run (step (sys oneBase)) (Machine.initial oneWallet) holderDeleted = some t ∧
    ∀ base ∈ oneBase.rows, (t.world.rowsOn base : Int) ≤ base.maxSubWallets := by
  obtain ⟨t,reached,-⟩ := holderDeleted_reached
  exact ⟨t,reached,(capped fresh_oneWallet reached).2.2.2 right_oneWallet⟩
theorem deleted_gone_holderDeleted : ∃ t, run (step (sys oneBase)) (Machine.initial oneWallet) holderDeleted = some t ∧
    ∀ row ∈ t.world.deleted, ∀ tenant, row.tenantId = some tenant → (row.agentEndpoint,tenant) ∉ t.world.agent := by
  obtain ⟨t,reached,-⟩ := holderDeleted_reached
  exact ⟨t,reached,(deleted_gone fresh_oneWallet reached).1⟩
theorem accurate_iff_holderDeleted : ∃ t, run (step (sys oneBase)) (Machine.initial oneWallet) holderDeleted = some t ∧
    (Accurate oneBase t.world ↔ Along (step (sys oneBase)) Parted (Machine.initial oneWallet) holderDeleted) := by
  obtain ⟨t,reached,quiet,-⟩ := holderDeleted_reached
  exact ⟨t,reached,accurate_iff fresh_oneWallet right_oneWallet written_holderDeleted reached quiet⟩
/-- The wallet that was created between the two messages is deleted with the user, and
    its slot is never given back. -/
theorem slot_leaked : ¬∀ (bases : Bases) (w : World) (actions : List (Action Choice Input Empty))
    (t : Machine Cmd Ret Failure Unit World), Fresh bases w → Right bases w →
      Along (step (sys bases)) Written (Machine.initial w) actions →
        run (step (sys bases)) (Machine.initial w) actions = some t → Quiet t → Accurate bases t.world := by
  intro always
  obtain ⟨t,reached,quiet,count,rows⟩ := holderDeleted_reached
  have accurate :=
      always oneBase oneWallet holderDeleted t fresh_oneWallet right_oneWallet written_holderDeleted reached quiet
  have balance := accurate.counts agentWallet (List.mem_singleton_self _)
  rw [World.rowsOn,rows] at balance
  exact absurd (count.symm.trans balance) (by decide)

end Ngotag.CloudWallet
