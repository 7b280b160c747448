import Ngotag.CloudWallet

/-!
Where a new cloud wallet is placed. `createCloudWallet` reads which active base wallet has
room and claims a slot of it under the cap that it read; where the claim is lost it does
not look for another one. The calls that are refused all saw the pool full where none
comes to its claim after others took the last slot of the base wallet it had picked
(`placement_sound`). With two base wallets a call is refused though one of them is empty
all along (`empty_wallet_idle`).
-/
namespace Ngotag.WalletPlacement
open Runs Await
open CloudWallet (Base Sub Cmd Ret Failure Async TenantResponse Choice perform ask createTenant release
  createCloudWallet deleteTenant deleteCloudWallet)
open JsObject (truthy)

/-- A base wallet, and how many of its slots are taken. -/
structure Row where
  base : Base
  useCount : Int
def Row.room (row : Row) (maxSubWallets : Int) : Bool := row.useCount < maxSubWallets
def Row.available (row : Row) : Bool := row.base.isActive && row.room row.base.maxSubWallets
/-- The base wallets in the order of their creation. -/
structure Pool where
  rows : List Row
  ids : (rows.map fun row => row.base.id).Nodup
/-- Every active base wallet has as many sub-wallets as it may have. -/
def Pool.full (pool : Pool) : Prop := ∀ row ∈ pool.rows, row.base.isActive = true → row.base.maxSubWallets ≤ row.useCount
instance (pool : Pool) : Decidable pool.full := inferInstanceAs (Decidable (∀ row ∈ pool.rows, _))

/-- A conditional update of one row. -/
def Pool.change (pool : Pool) (walletId : Nat) (f : Row → Row) (keeps : ∀ row, (f row).base.id = row.base.id) :
    Pool where
  rows := pool.rows.map fun row => if row.base.id = walletId then f row else row
  ids := by
    have same : (fun row : Row => (if row.base.id = walletId then f row else row).base.id) = fun row => row.base.id := by
      funext row
      split
      · exact keeps row
      · rfl
    rw [List.map_map]
    exact (congrArg (fun g => (pool.rows.map g).Nodup) same).mpr pool.ids

def Pool.getAvailableBaseWallet (pool : Pool) : Option Base := (pool.rows.find? Row.available).map Row.base
def Pool.room (pool : Pool) (walletId : Nat) (maxSubWallets : Int) : Bool :=
  pool.rows.any fun row => row.base.id = walletId && row.room maxSubWallets
def Pool.claim (pool : Pool) (walletId : Nat) (maxSubWallets : Int) : Pool :=
  pool.change walletId
      (fun row => if row.room maxSubWallets = true then { row with useCount := row.useCount + 1 } else row)
    fun row => by split <;> rfl
def Pool.decrement (pool : Pool) (walletId : Nat) : Pool :=
  pool.change walletId (fun row => if 0 < row.useCount then { row with useCount := row.useCount - 1 } else row)
    fun row => by split <;> rfl
/-- The administrator's update, of what it has a value for. -/
def Pool.updateBaseWallet (pool : Pool) (walletId : Nat) (isActive : Option Bool) (maxSubWallets : Option Int) : Pool :=
  pool.change walletId (fun row => { row with base := { row.base with
      isActive      := isActive.getD row.base.isActive
      maxSubWallets := maxSubWallets.getD row.base.maxSubWallets } })
    fun _ => rfl

/-- The newest of the base wallets on the endpoint. -/
def Pool.byAgentEndpoint (pool : Pool) (agentEndpoint : Option String) : Option Base :=
  (truthy agentEndpoint).bind fun _ => (pool.rows.reverse.map Row.base).find? fun base =>
      base.agentEndpoint = agentEndpoint
inductive Input where
  | create (userId : String)
  | delete (userId : String) (deleteHolder : Bool)
/-- The write of an `updateBaseWallet`. Its `findFirst` before it sees the same row, as no
    base wallet is ever removed. -/
inductive Event where
  | updateBaseWallet (walletId : Nat) (isActive : Option Bool) (maxSubWallets : Option Int)

/-- `moments` has for each call the pool at each moment since it came, the last one first;
    `claims` the slots claimed, with the call; and `picked` the base wallet that each call
    has read, with whether a slot of it was claimed since. -/
structure World where
  pool : Pool
  subs : List Sub
  moments : Nat → List Pool
  claims : List (Nat × Nat)
  picked : Nat → Option (Base × Bool)
def World.noted (w : World) : World := { w with moments := fun process => w.pool :: w.moments process }
def write (choice : Choice) (w after : World) : Option (World × Except Failure Unit) :=
  some (if choice.fails then (w,.error .other) else (after,.ok ()))
def pick (process : Nat) (choice : Choice) (w : World) : Option (World × Except Failure (Option Base)) :=
  if choice.fails = true then some (w,.error .other)
  else some ({ w with picked := Function.update w.picked process (w.pool.getAvailableBaseWallet.map (·,false)) },
    .ok w.pool.getAvailableBaseWallet)
def claim (process : Nat) (choice : Choice) (w : World) (walletId : Nat) (maxSubWallets : Int) :
    Option (World × Except Failure Bool) :=
  if choice.fails = true then some (w,.error .other)
  else if w.pool.room walletId maxSubWallets = true then
    some ({ w with
      pool := w.pool.claim walletId maxSubWallets
      claims := (process,walletId) :: w.claims
      picked := fun other => (w.picked other).map fun pick => (pick.1,pick.2 || pick.1.id = walletId) },.ok true)
  else some (w,.ok false)

/-- A row with a new key, and the only one of its user. -/
def store (choice : Choice) (w : World) (row : Sub) : Option (World × Except Failure Unit) :=
  if (w.subs.any fun other => other.id = row.id) = true then none
  else if (w.subs.any fun other => other.userId = row.userId) = true then some (w,.error .other)
  else write choice w { w with subs := row :: w.subs }
def deleteRow (choice : Choice) (w : World) (id : Nat) : Option (World × Except Failure Unit) :=
  if (w.subs.any fun row => row.id = id) = true then write choice w
      { w with subs := w.subs.filter fun row => row.id ≠ id }
  else some (w,.error .other)
/-- What the agent answers, and whether it has a tenant, is up to the choice. -/
def httpDelete (choice : Choice) (w : World) : Option (World × Except Failure Bool) :=
  some (w,if choice.fails then .error .other else if choice.empty then .ok false else if choice.done then .ok true
    else .error .tenantNotFound)

def act (process : Nat) (c : Cmd) (choice : Choice) (w : World) : Option (World × Except Failure (Ret c)) :=
  match c with
  | .elsewhere _ => lookedUp (β := Unit) choice.fails .other w (.ok ())
  | .checkUserExist userId => lookedUp (β := Bool) choice.fails .other w
      (.ok (w.subs.any fun row => row.userId = some userId))
  | .getAvailableBaseWallet => pick process choice w
  | .claimBaseWalletCapacity walletId maxSubWallets => claim process choice w walletId maxSubWallets
  | .checkAgentHealth => lookedUp (β := Bool) choice.fails .other w (.ok choice.done)
  | .httpPost _ => lookedUp (β := Option TenantResponse) choice.fails .other w
      (.ok (if choice.empty then none else some ⟨choice.tenant⟩))
  | .storeCloudWalletDetails userId agentEndpoint tenantId =>
      store choice w ⟨choice.drawn,some userId,agentEndpoint,tenantId⟩
  | .decrementBaseWalletUseCount walletId => write choice w { w with pool := w.pool.decrement walletId }
  | .getCloudSubWallet userId => lookedUp (β := Option Sub) choice.fails .other w
      (.ok (w.subs.find? fun row => row.userId = some userId))
  | .getBaseWalletByAgentEndpoint agentEndpoint =>
    lookedUp (β := Option Base) choice.fails .other w (.ok (w.pool.byAgentEndpoint agentEndpoint))
  | .httpDelete _ _ => httpDelete choice w
  | .deleteCloudWalletDetails id => deleteRow choice w id
  | .deleteUserAndRelatedData _ => lookedUp (β := Unit) choice.fails .other w (.ok ())

def program (_ : Nat) : Input → Async Unit
  | .create userId => createCloudWallet userId
  | .delete userId deleteHolder => deleteCloudWallet userId deleteHolder
def sys : System Cmd Ret Failure Unit World Choice Input Event where
  handle process c choice w := act process c choice w.noted
  arrive process _ w := some { w with moments := Function.update w.moments process [] }
  program := program
  environment
    | .updateBaseWallet walletId isActive maxSubWallets,w =>
      some { w.noted with pool := w.pool.updateBaseWallet walletId isActive maxSubWallets }

def World.initial (pool : Pool) (subs : List Sub) : World := ⟨pool,subs,fun _ => [],[],fun _ => none⟩
/-- The call had a moment at which the base wallet was active, with room under its cap. -/
def Seen (process walletId : Nat) (w : World) : Prop :=
  ∃ pool ∈ w.moments process, ∃ row ∈ pool.rows, row.base.id = walletId ∧ row.available = true
/-- The call had a moment at which the pool was full. -/
def SawFull (process : Nat) (w : World) : Prop := ∃ pool ∈ w.moments process, pool.full
/-- Every slot was claimed where its call had a moment with room. -/
def Placed (w : World) : Prop := ∀ slot ∈ w.claims, Seen slot.1 slot.2 w
/-- The call was refused for want of room. -/
def Refused (m : Machine Cmd Ret Failure Unit World) (process : Nat) : Prop :=
  (m.thread process).ended = some (.error .BaseWalletLimitExceeded)
/-- A call is only refused after a moment at which every base was full. -/
def Justified (m : Machine Cmd Ret Failure Unit World) : Prop := ∀ process, Refused m process → SawFull process m.world

/-- A call that comes to its claim after a slot of the base wallet it had picked was claimed
    still finds room there, under the cap that it read. -/
def Kept (process : Nat) (c : Cmd) (choice : Choice) (w : World) : Prop :=
  match c with
  | .claimBaseWalletCapacity _ _ =>
    choice.fails = true ∨ ∀ pick ∈ w.picked process, pick.2 = true → w.pool.room pick.1.id pick.1.maxSubWallets = true
  | _ => True
instance (process : Nat) (c : Cmd) (choice : Choice) (w : World) : Decidable (Kept process c choice w) := by
  unfold Kept
  split <;> infer_instance
/-- While nobody claims a slot of the base wallet that was picked, it keeps its room. -/
structure Kind (w : World) : Prop where
  placed : Placed w
  unraced : ∀ process base, w.picked process = some (base,false) → w.pool.room base.id base.maxSubWallets = true
/-- What the steps of others leave of a call. -/
structure Relied (process : Nat) (a b : World) : Prop where
  moments : ∀ pool ∈ a.moments process, pool ∈ b.moments process
  claims : ∀ slot ∈ b.claims, slot.1 = process → slot ∈ a.claims
  picked : ∀ base raced, a.picked process = some (base,raced) → ∃ raced', b.picked process = some (base,raced')
/-- `sure` where all claims are such. -/
def contract (sure : Prop) : Contract Cmd World Choice Event where
  inv := Kind
  rely := Relied
  idle process w := ∀ slot ∈ w.claims, slot.1 ≠ process
  allowed process c choice w := sure → Kept process c choice w
  happens _ _ := True

section
variable {sure : Prop} {process other : Nat} {a b w after : World} {choice : Choice}

theorem room_change {pool : Pool} {walletId id : Nat} {f : Row → Row} (keeps : ∀ row, (f row).base.id = row.base.id)
    {maxSubWallets : Int}
    (rooms : id = walletId → ∀ row, row.room maxSubWallets = true → (f row).room maxSubWallets = true)
    (room : pool.room id maxSubWallets = true) : (pool.change walletId f keeps).room id maxSubWallets = true := by
  obtain ⟨row,listed,both⟩ := List.any_eq_true.mp room
  obtain ⟨is,free⟩ := Bool.and_eq_true_iff.mp both
  refine List.any_eq_true.mpr ⟨_,List.mem_map_of_mem listed,?_⟩
  split
  · rename_i same
    exact Bool.and_eq_true_iff.mpr ⟨(keeps row).symm ▸ is,rooms ((of_decide_eq_true is).symm.trans same) row free⟩
  · exact both
theorem room_updateBaseWallet {pool : Pool} {walletId id : Nat} {isActive : Option Bool} {cap : Option Int}
    {maxSubWallets : Int}
    (room : pool.room id maxSubWallets = true) :
    (pool.updateBaseWallet walletId isActive cap).room id maxSubWallets = true := by
  unfold Pool.updateBaseWallet
  exact room_change _ (fun _ _ free => free) room
theorem room_decrement {pool : Pool} {walletId id : Nat} {maxSubWallets : Int}
    (room : pool.room id maxSubWallets = true) :
    (pool.decrement walletId).room id maxSubWallets = true := by
  refine room_change (fun row => by split <;> rfl) (fun _ row free => ?_) room
  have less : row.useCount < maxSubWallets := of_decide_eq_true free
  split
  · exact decide_eq_true (by dsimp only; omega)
  · exact free

variable {β : Type}
theorem not_refused {value : Except Failure β} (plain : value ≠ .error .BaseWalletLimitExceeded) :
    (if choice.fails then .error .other else value) ≠ .error .BaseWalletLimitExceeded := by
  split
  · rintro ⟨⟩
  · exact plain
/-- Nothing of a call but its wallet is written, and no base wallet has less room. -/
structure Beside (w after : World) : Prop where
  moments : after.moments = w.moments
  claims : after.claims = w.claims
  picked : after.picked = w.picked
  room : ∀ walletId maxSubWallets, w.pool.room walletId maxSubWallets = true →
      after.pool.room walletId maxSubWallets = true
theorem beside_refl : Beside w w := ⟨rfl,rfl,rfl,fun _ _ free => free⟩
/-- Also, the refusal is not what it ends with. -/
structure Usual (w after : World) {β : Type} (answer : Except Failure β) : Prop extends Beside w after where
  usual : answer ≠ .error .BaseWalletLimitExceeded
theorem usual_lookedUp {value : β} {answer : Except Failure β}
    (handled : lookedUp choice.fails .other w (.ok value) = some (after,answer)) :
    Usual w after answer := by
  obtain ⟨rfl,rfl⟩ := lookedUp_eq handled
  exact ⟨beside_refl,not_refused nofun⟩

variable {answer : Except Failure Unit}
theorem usual_write {next : World} (handled : write choice w next = some (after,answer))
    (same : Beside w next) : Usual w after answer := by
  have done := Option.some.inj handled
  split at done
  · obtain ⟨rfl,rfl⟩ := Prod.mk.inj done
    exact ⟨beside_refl,nofun⟩
  · obtain ⟨rfl,rfl⟩ := Prod.mk.inj done
    exact ⟨same,nofun⟩
theorem usual_error (handled : some (w,.error .other) = some (after,answer)) : Usual w after answer := by
  obtain ⟨rfl,rfl⟩ := Prod.mk.inj (Option.some.inj handled)
  exact ⟨beside_refl,nofun⟩
theorem usual_store {row : Sub} (handled : store choice w row = some (after,answer)) : Usual w after answer := by
  unfold store at handled
  split at handled
  · cases handled
  · split at handled
    · exact usual_error handled
    · exact usual_write handled ⟨rfl,rfl,rfl,fun _ _ free => free⟩
theorem usual_deleteRow {id : Nat} (handled : deleteRow choice w id = some (after,answer)) :
    Usual w after answer := by
  unfold deleteRow at handled
  split at handled
  · exact usual_write handled ⟨rfl,rfl,rfl,fun _ _ free => free⟩
  · exact usual_error handled
theorem usual_httpDelete {answer : Except Failure Bool} (handled : httpDelete choice w = some (after,answer)) :
    Usual w after answer := by
  obtain ⟨rfl,rfl⟩ := Prod.mk.inj (Option.some.inj handled)
  refine ⟨beside_refl,not_refused ?_⟩
  split
  · rintro ⟨⟩
  · split <;> rintro ⟨⟩

theorem claim_cases {walletId : Nat} {maxSubWallets : Int} {answer : Except Failure Bool}
    (handled : claim process choice w walletId maxSubWallets = some (after,answer)) :
    (after = w ∧ answer = .error .other) ∨
    (after = { w with
        pool := w.pool.claim walletId maxSubWallets
        claims := (process,walletId) :: w.claims
        picked := fun other => (w.picked other).map fun pick => (pick.1,pick.2 || pick.1.id = walletId) } ∧
            answer = .ok true) ∨
    (after = w ∧ answer = .ok false ∧ choice.fails = false ∧ w.pool.room walletId maxSubWallets = false) := by
  unfold claim at handled
  split at handled
  · obtain ⟨rfl,rfl⟩ := Prod.mk.inj (Option.some.inj handled)
    exact .inl ⟨rfl,rfl⟩
  · rename_i succeeds
    split at handled
    · obtain ⟨rfl,rfl⟩ := Prod.mk.inj (Option.some.inj handled)
      exact .inr (.inl ⟨rfl,rfl⟩)
    · rename_i lost
      obtain ⟨rfl,rfl⟩ := Prod.mk.inj (Option.some.inj handled)
      exact .inr (.inr ⟨rfl,rfl,Bool.eq_false_iff.mpr succeeds,Bool.eq_false_iff.mpr lost⟩)

def plain : Cmd → Bool
  | .claimBaseWalletCapacity _ _ | .getAvailableBaseWallet => false
  | _ => true

theorem act_plain {c : Cmd} {answer : Except Failure (Ret c)} (plain_ : plain c = true)
    (acted : act process c choice w = some (after,answer)) : Usual w after answer := by
  cases c with
  | getAvailableBaseWallet | claimBaseWalletCapacity => cases plain_
  | elsewhere what => exact usual_lookedUp acted
  | checkUserExist userId => exact usual_lookedUp acted
  | checkAgentHealth => exact usual_lookedUp acted
  | httpPost agentEndpoint => exact usual_lookedUp acted
  | storeCloudWalletDetails userId agentEndpoint tenantId => exact usual_store acted
  | decrementBaseWalletUseCount walletId => exact usual_write acted ⟨rfl,rfl,rfl,fun _ _ => room_decrement⟩
  | getCloudSubWallet userId => exact usual_lookedUp acted
  | getBaseWalletByAgentEndpoint agentEndpoint => exact usual_lookedUp acted
  | httpDelete agentEndpoint tenantId => exact usual_httpDelete acted
  | deleteCloudWalletDetails id => exact usual_deleteRow acted
  | deleteUserAndRelatedData userId => exact usual_lookedUp acted

theorem noted_grows (same : after.moments = w.noted.moments) :
    ∀ pool ∈ w.moments process, pool ∈ after.moments process := by
  rw [same]
  exact fun _ => List.mem_cons_of_mem _
theorem seen_grows {walletId : Nat} (seen : Seen process walletId a)
    (grows : ∀ pool ∈ a.moments process, pool ∈ b.moments process) :
    Seen process walletId b := by
  obtain ⟨pool,held,row⟩ := seen
  exact ⟨pool,grows pool held,row⟩
theorem sawFull_grows (saw : SawFull process a) (grows : ∀ pool ∈ a.moments process, pool ∈ b.moments process) :
    SawFull process b := by
  obtain ⟨pool,held,full⟩ := saw
  exact ⟨pool,grows pool held,full⟩
theorem placed_noted (placed : Placed w) (same : after.moments = w.noted.moments)
    (claims : ∀ slot ∈ after.claims, slot ∈ w.claims ∨ Seen slot.1 slot.2 after) : Placed after := by
  intro slot there
  rcases claims slot there with old | seen
  · exact seen_grows (placed slot old) (noted_grows same)
  · exact seen
theorem noted_keeps (kind : Kind w) (beside : Beside w.noted after) : Kind after ∧ ∀ other, Relied other w after :=
  ⟨⟨placed_noted kind.placed beside.moments fun _ there => .inl (beside.claims ▸ there),
      fun process base mine =>
      beside.room _ _ (kind.unraced process base ((congrFun beside.picked process).symm.trans mine))⟩,
    fun other => ⟨noted_grows beside.moments,fun _ there _ => beside.claims ▸ there,
      fun _ raced mine => ⟨raced,(congrFun beside.picked other).trans mine⟩⟩⟩
/-- The function picks and claims nothing, and does not end with the refusal. -/
def Calm {β : Type} : Async β → Prop
  | .ret _ => True
  | .fail error => error ≠ .BaseWalletLimitExceeded
  | .await c resume => plain c = true ∧ ∀ answer, answer ≠ .error .BaseWalletLimitExceeded → Calm (resume answer)
theorem calm_pure (value : β) : Calm (pure value : Async β) := trivial
theorem calm_throw {error : Failure} (other : error ≠ .BaseWalletLimitExceeded) : Calm (throw error : Async β) := other
theorem calm_perform {c : Cmd} (plain_ : plain c = true) : Calm (perform c) := by
  refine ⟨plain_,fun answer usual => ?_⟩
  cases answer with
  | ok value => trivial
  | error error => exact fun same => usual (congrArg _ same)
theorem calm_bind {β γ : Type} {p : Async β} {f : β → Async γ} (first : Calm p) (second : ∀ value, Calm (f value)) :
    Calm (p >>= f) := by
  change Calm (p.bind f)
  induction p with
  | ret value => exact second value
  | fail error => exact first
  | await c resume ih => exact ⟨first.1,fun answer usual => ih answer (first.2 answer usual)⟩
theorem calm_tryCatch {p : Async β} {handler : Failure → Async β} (body : Calm p)
    (caught : ∀ error, error ≠ .BaseWalletLimitExceeded → Calm (handler error)) : Calm (p.tryCatch handler) := by
  induction p with
  | ret value => trivial
  | fail error => exact caught error body
  | await c resume ih => exact ⟨body.1,fun answer usual => ih answer (body.2 answer usual)⟩
theorem calm_ask (what : CloudWallet.Elsewhere) : Calm (ask what) := calm_perform rfl
theorem calm_release (walletId : Nat) : Calm (release walletId) :=
  calm_tryCatch (calm_perform rfl) fun _ _ => calm_pure _

theorem calm_createTenant (base : Base) (userId : String) : Calm (createTenant base userId) := by
  unfold createTenant
  split
  · refine calm_bind (calm_ask _) fun _ => calm_bind (calm_perform rfl) fun healthy => ?_
    split
    · exact calm_throw nofun
    · refine calm_bind (calm_perform rfl) fun response => ?_
      cases response with
      | none => exact calm_throw nofun
      | some response => exact calm_bind (calm_ask _) fun _ => calm_perform rfl
  · exact calm_throw nofun

theorem calm_deleteCloudWallet (userId : String) (deleteHolder : Bool) :
    Calm (deleteCloudWallet userId deleteHolder) := by
  refine calm_bind (calm_perform rfl) fun details => ?_
  split
  · split
    · exact calm_pure _
    · exact calm_throw nofun
  · refine calm_bind (calm_perform rfl) fun base => ?_
    cases base with
    | none => exact calm_throw nofun
    | some base =>
      refine calm_bind (calm_ask _) fun _ => calm_bind (calm_tryCatch (calm_perform rfl) ?_) fun deleted => ?_
      · intro error other
        split
        · exact calm_pure _
        · exact calm_throw other
      · split
        · exact calm_throw nofun
        · exact calm_bind (calm_perform rfl) fun _ => calm_release _

theorem wp_plain {c : Cmd} (plain_ : plain c = true) {Q : Except Failure (Ret c) → World → Prop}
    (ends : ∀ after answer, answer ≠ .error .BaseWalletLimitExceeded → Q answer after) :
    wp sys (contract sure) process (perform c) Q w := by
  apply wp_call
  intro before _ kind choice after answer _ acted
  have usual := act_plain plain_ acted
  obtain ⟨kept,others⟩ := noted_keeps kind usual.toBeside
  exact ⟨kept,fun other _ => others other,ends after answer usual.usual⟩
theorem wp_calm {p : Async β} (calm : Calm p) :
    wp sys (contract sure) process p (fun result _ => result ≠ .error .BaseWalletLimitExceeded) w := by
  induction p generalizing w with
  | ret value => exact nofun
  | fail error => exact fun same => calm (Except.error.inj same)
  | await c resume ih =>
    intro before _ kind choice after answer _ acted
    have usual := act_plain calm.1 acted
    obtain ⟨kept,others⟩ := noted_keeps kind usual.toBeside
    exact ⟨kept,fun other _ => others other,ih answer (calm.2 answer usual.usual)⟩

/-- What a call has seen if it is refused. -/
def settled (sure : Prop) (process : Nat) (result : Except Failure Unit) (w : World) : Prop :=
  sure → result = .error .BaseWalletLimitExceeded → SawFull process w
theorem settled_calm {p : Async Unit} (calm : Calm p) : wp sys (contract sure) process p (settled sure process) w :=
  wp_mono (fun _ _ usual _ refused => absurd refused usual) (wp_calm calm)
theorem full_of_none {pool : Pool} (none_ : pool.getAvailableBaseWallet = none) : pool.full := by
  intro row listed active
  have taken := List.find?_eq_none.mp (Option.map_eq_none_iff.mp none_) row listed
  simpa [Row.available,Row.room,active] using taken
theorem available_of_some {pool : Pool} {base : Base} (found : pool.getAvailableBaseWallet = some base) :
    ∃ row ∈ pool.rows, row.base = base ∧ row.available = true := by
  obtain ⟨row,first,rfl⟩ := Option.map_eq_some_iff.mp found
  exact ⟨row,List.mem_of_find?_eq_some first,rfl,List.find?_some first⟩

/-- What a call knows that has picked a base wallet. -/
structure Picked (process : Nat) (base : Base) (w : World) : Prop where
  seen : Seen process base.id w
  held : ∃ raced, w.picked process = some (base,raced)
theorem wp_pick : wp sys (contract sure) process (perform .getAvailableBaseWallet) (fun answer after => match answer with
    | .error error => error ≠ .BaseWalletLimitExceeded
    | .ok none => SawFull process after
    | .ok (some base) => Picked process base after) w := by
  apply wp_call
  intro before _ kind choice after answer _ acted
  change pick process choice before.noted = some (after,answer) at acted
  unfold pick at acted
  split at acted
  · obtain ⟨rfl,rfl⟩ := Prod.mk.inj (Option.some.inj acted)
    obtain ⟨kept,others⟩ := noted_keeps kind beside_refl
    exact ⟨kept,fun other _ => others other,nofun⟩
  · obtain ⟨rfl,rfl⟩ := Prod.mk.inj (Option.some.inj acted)
    have held : before.pool ∈ before.noted.moments process := List.mem_cons_self
    refine ⟨⟨placed_noted kind.placed rfl fun _ there => .inl there,fun other base mine => ?_⟩,
      fun other different => ⟨noted_grows rfl,fun _ there _ => there,fun _ raced mine => ⟨raced,?_⟩⟩,?_⟩
    · by_cases same : other = process
      · subst same
        dsimp only at mine
        rw [Function.update_self] at mine
        obtain ⟨found,now,is⟩ := Option.map_eq_some_iff.mp mine
        obtain rfl := (Prod.mk.inj is).1
        obtain ⟨row,listed,rfl,available⟩ := available_of_some now
        exact List.any_eq_true.mpr
            ⟨row,listed,Bool.and_eq_true_iff.mpr ⟨decide_eq_true rfl,(Bool.and_eq_true_iff.mp available).2⟩⟩
      · dsimp only at mine
        rw [Function.update_of_ne same] at mine
        exact kind.unraced other base mine
    · exact (Function.update_of_ne different _ _).trans mine
    · cases now : before.noted.pool.getAvailableBaseWallet with
      | none => exact ⟨before.pool,held,full_of_none now⟩
      | some base =>
        obtain ⟨row,listed,rfl,available⟩ := available_of_some now
        exact ⟨⟨before.pool,held,row,listed,rfl,available⟩,false,Function.update_self _ _ _⟩

/-- A claim is lost only in a race: where nobody has claimed a slot since the read, there is room. -/
theorem wp_claim {base : Base} (picked : Picked process base w) :
    wp sys (contract sure) process (perform (.claimBaseWalletCapacity base.id base.maxSubWallets))
      (fun answer _ => answer ≠ .error .BaseWalletLimitExceeded ∧ (sure → answer ≠ .ok false)) w := by
  apply wp_call
  intro before relied kind choice after answer allowed handled
  rcases claim_cases handled with ⟨rfl,rfl⟩ | ⟨rfl,rfl⟩ | ⟨rfl,rfl,succeeds,lost⟩
  · obtain ⟨kept,others⟩ := noted_keeps kind beside_refl
    exact ⟨kept,fun other _ => others other,nofun,fun _ => nofun⟩
  · refine ⟨⟨placed_noted kind.placed rfl fun slot there => ?_,fun other found mine => ?_⟩,
      fun other different => ⟨noted_grows rfl,fun slot there mine => ?_,fun found raced mine => ?_⟩,nofun,fun _ => nofun⟩
    · rcases List.mem_cons.mp there with rfl | old
      · exact .inr (seen_grows (seen_grows picked.seen relied.moments) (noted_grows rfl))
      · exact .inl old
    · obtain ⟨pick,was,is⟩ := Option.map_eq_some_iff.mp mine
      obtain ⟨rfl,raced⟩ := Prod.mk.inj is
      obtain ⟨unraced,different⟩ := Bool.or_eq_false_iff.mp raced
      refine room_change (fun row => by split <;> rfl) (fun same => absurd same (of_decide_eq_false different))
          (kind.unraced other pick.1 ?_)
      rw [← unraced]
      exact was
    · rcases List.mem_cons.mp there with rfl | old
      · exact absurd mine.symm different
      · exact old
    · exact ⟨_,congrArg (Option.map _) mine⟩
  · obtain ⟨kept,others⟩ := noted_keeps kind beside_refl
    refine ⟨kept,fun other _ => others other,nofun,fun now _ => ?_⟩
    obtain ⟨raced,mine⟩ := picked.held
    obtain ⟨raced',mine'⟩ := relied.picked base raced mine
    have room : before.pool.room base.id base.maxSubWallets = true := by
      cases raced' with
      | false => exact kind.unraced process base mine'
      | true =>
        rcases allowed now with fails | kept
        · exact absurd (succeeds.symm.trans fails) (by decide)
        · exact kept (base,true) mine' rfl
    exact absurd (lost.symm.trans room) (by decide)

/-- The creation of a tenant, whose slot is given back where it fails. -/
def claimed (base : Base) (userId : String) : Async Unit :=
  Prog.tryCatch (createTenant base userId) fun error => do
    release base.id
    throw error
theorem calm_claimed (base : Base) (userId : String) : Calm (claimed base userId) :=
  calm_tryCatch (calm_createTenant base userId) fun _ other => calm_bind (calm_release _) fun _ => calm_throw other

theorem wp_createCloudWallet (userId : String) :
    wp sys (contract sure) process (createCloudWallet userId) (settled sure process) w := by
  refine (wp_bind _ _ _ _).mpr (wp_plain (c := .checkUserExist userId) rfl ?_)
  intro w exists_ usual
  rcases exists_ with error | (exists_ : Bool)
  · exact fun _ refused => absurd (congrArg _ (Except.error.inj refused)) usual
  refine wp_branches _ (fun _ _ => nofun) fun _ => (wp_bind _ _ _ _).mpr (wp_mono ?_ wp_pick)
  rintro (error | found) w known
  · exact fun _ refused => absurd (Except.error.inj refused) known
  cases found with
  | none => exact fun _ _ => known
  | some base =>
    refine (wp_bind _ _ _ _).mpr (wp_mono ?_ (wp_claim known))
    rintro (error | claimed_) w' ⟨usual,kept⟩
    · exact fun _ refused => absurd (congrArg _ (Except.error.inj refused)) usual
    · refine wp_branches _ (fun no => ?_) fun _ => settled_calm (calm_claimed base userId)
      exact fun now _ => absurd (congrArg _ no) (kept now)

theorem keeps : Keeps sys (contract sure) (settled sure) where
  reflexive _ _ := ⟨fun _ there => there,fun _ there _ => there,fun _ raced mine => ⟨raced,mine⟩⟩
  transitive _ _ _ _ first second := by
    refine ⟨fun pool there => second.moments pool (first.moments pool there),
      fun slot there mine => first.claims slot (second.claims slot there mine) mine,fun base raced mine => ?_⟩
    obtain ⟨raced',mine'⟩ := first.picked base raced mine
    exact second.picked base raced' mine'
  stable _ _ _ _ held relied _ now refused := sawFull_grows (held now refused) relied.moments
  idles _ _ _ idle relied _ slot there mine := idle slot (relied.claims slot there mine) mine
  arrives process input a b kind idle arrived := by
    obtain rfl := Option.some.inj arrived
    have own (other : Nat) (different : other ≠ process) : ∀ pool ∈ a.moments other,
        pool ∈ Function.update a.moments process [] other := by
      rw [Function.update_of_ne different]
      exact fun _ there => there
    refine ⟨⟨fun slot there => seen_grows (kind.placed slot there) (own slot.1 (idle slot there)),kind.unraced⟩,
      fun other different => ⟨own other different,fun _ there _ => there,fun _ raced mine => ⟨raced,mine⟩⟩,?_⟩
    cases input with
    | create userId => exact wp_createCloudWallet userId
    | delete userId deleteHolder => exact settled_calm (calm_deleteCloudWallet userId deleteHolder)
  moves event a b kind _ moved := by
    cases event with
    | updateBaseWallet walletId isActive maxSubWallets =>
      obtain rfl := Option.some.inj moved
      exact noted_keeps kind ⟨rfl,rfl,rfl,fun _ _ => room_updateBaseWallet⟩

variable {m : Machine Cmd Ret Failure Unit World}
/-- A call that comes to its claim is not the loser of a race. -/
def Held (m : Machine Cmd Ret Failure Unit World) : Action Choice Input Event → Prop
  | .advance process choice => ∀ c ∈ (m.thread process).awaited, Kept process c choice m.world
  | _ => True
instance (m : Machine Cmd Ret Failure Unit World) : (a : Action Choice Input Event) → Decidable (Held m a)
  | .advance _ _ => inferInstanceAs (Decidable (∀ c ∈ (m.thread _).awaited, _))
  | .start _ _ => isTrue trivial
  | .crash _ => isTrue trivial
  | .environment _ => isTrue trivial
theorem considered_of_held {a : Action Choice Input Event} (held : sure → Held m a) :
    Considered (contract sure) m a := by
  cases a with
  | start process input => trivial
  | advance process choice => exact fun c resume stood now => held now c (congrArg Thread.awaited stood)
  | crash process => trivial
  | environment event => trivial

end

theorem safe_world (sure : Prop) (pool : Pool) (subs : List Sub) :
    Safe sys (contract sure) (settled sure) (Machine.initial (World.initial pool subs)) :=
  safe_initial ⟨by rintro _ ⟨⟩,by rintro _ _ ⟨⟩⟩ (by rintro _ _ ⟨⟩)

/-- No slot is claimed without room; and in a run in which nobody comes to its claim too late, each
    refusal is one of a full pool. -/
theorem placement_sound {pool : Pool} {subs : List Sub} {actions : List (Action Choice Input Event)}
    {t : Machine Cmd Ret Failure Unit World}
    (reached : run (step sys) (Machine.initial (World.initial pool subs)) actions = some t) :
    Placed t.world ∧ (Along (step sys) Held (Machine.initial (World.initial pool subs)) actions → Justified t) := by
  constructor
  · have anyhow : Along (step sys) (Considered (contract False)) (Machine.initial (World.initial pool subs)) actions :=
      along_of_forall fun _ _ _ => considered_of_held False.elim
    exact (run_safe keeps (safe_world False pool subs) anyhow reached).inv.placed
  · intro held process refused
    have considered : Along (step sys) (Considered (contract True))
        (Machine.initial (World.initial pool subs)) actions :=
      along_mono (fun _ _ held => considered_of_held fun _ => held) held
    exact safe_ended (run_safe keeps (safe_world True pool subs) considered reached) refused trivial rfl

def twoWallets : Pool where
  rows := [⟨⟨0,some "https://first",some "key",true,1⟩,0⟩,⟨⟨1,some "https://second",some "key",true,1⟩,0⟩]
  ids := by decide
def go (process : Nat) : Action Choice Input Event := .advance process ⟨false,true,process,some "tenant",false,[]⟩
/-- Both calls read the first base wallet, and the second one comes too late for it. -/
def racing : List (Action Choice Input Event) :=
  [.start 0 (.create "ada"),.start 1 (.create "bob"),go 0,go 0,go 1,go 1,go 0,go 1]
def inTurn : List (Action Choice Input Event) :=
  [.start 0 (.create "ada"),go 0,go 0,go 0,.start 1 (.create "bob"),go 1,go 1,go 1,.start 2 (.create "cyd"),go 2,go 2]

theorem placement_sound_inTurn : ∃ t, run (step sys) (Machine.initial (World.initial twoWallets [])) inTurn = some t ∧
    Refused t 2 ∧ Placed t.world ∧ Justified t := by
  obtain ⟨t,reached,refused⟩ : ∃ t, run (step sys) (Machine.initial (World.initial twoWallets [])) inTurn = some t ∧
      Refused t 2 := ⟨_,rfl,rfl⟩
  obtain ⟨placed,justified⟩ := placement_sound reached
  exact ⟨t,reached,refused,placed,justified (by decide)⟩
/-- The second base wallet has room at every moment of the call that is refused. -/
theorem empty_wallet_idle : ¬∀ (pool : Pool) (subs : List Sub) (actions : List (Action Choice Input Event))
    (t : Machine Cmd Ret Failure Unit World),
    run (step sys) (Machine.initial (World.initial pool subs)) actions = some t → Placed t.world ∧ Justified t := by
  intro every
  obtain ⟨t,reached,refused,never⟩ : ∃ t,
      run (step sys) (Machine.initial (World.initial twoWallets [])) racing = some t ∧
      Refused t 1 ∧ ∀ pool ∈ t.world.moments 1, ¬pool.full := ⟨_,rfl,rfl,by decide⟩
  obtain ⟨pool,held,full⟩ := (every _ _ _ _ reached).2 1 refused
  exact never pool held full

end Ngotag.WalletPlacement
