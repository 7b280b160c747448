import Ngotag.WalletProvisioning

/-!
What a provisioning that fails leaves behind, and what `walletProvision` reports. The ways of a step are told
apart once (`Way`); in which runs every failed provisioning has cleaned up is `clean_iff_tidy`, in which every
reply is true `reported_iff_honest`, and both together `provisioning_iff`.
-/
namespace Ngotag.WalletProvisioning
open Runs

/-- An upper bound of the operations that the process still awaits. -/
def Process.rank : Process → Nat
  | .walletProvision _ _ .getPlatformConfigDetails => 30
  | .walletProvision _ _ (.getPlatfomAdminUser _) => 29
  | .walletProvision _ _ (.getPlatfomOrg _) => 28
  | .walletProvision _ _ (.getAgentDetails _) => 27
  | .walletProvision _ _ (.getOrgDetails _ _) => 26
  | .walletProvision _ _ (.getGenesisUrl _ _) => 25
  | .walletProvision _ _ (.initSocketConnection _) => 24
  | .walletProvision _ _ (.createOrgAgent _) => 23
  | .agentSpinup _ (.getALlLedgerDetails _) => 20
  | .agentSpinup _ .getLedgerDetails => 19
  | .agentSpinup _ .walletProvision => 18
  | .agentSpinup _ .initSocketConnection => 17
  | .agentSpinup _ .getBaseAgentToken => 16
  | .agentSpinup _ .tokenEncryption => 15
  | .agentSpinup _ .getOrgAgentTypeDetails => 14
  | .agentSpinup _ .storeOrgAgentDetails => 13
  | .agentSpinup _ .emitCompleted => 12
  | .agentSpinup _ .handleError => 11
  | .agentSpinup _ .emitError => 10
  | .agentSpinup _ .removeOrgAgent => 9
  | .createTenant _ _ .getAgentDetails => 15
  | .createTenant _ _ .createOrgAgent => 14
  | .createTenant _ _ .createSocketInstance => 13
  | .createTenant _ _ .platformAdminAgent => 12
  | .createTenant _ _ (.createTenantAndNotify _) => 11
  | .createTenant _ _ (.decryptPassword _) => 10
  | .createTenant _ _ (.createTenantWallet _) => 9
  | .createTenant _ _ .getOrgAgentTypeDetails => 8
  | .createTenant _ _ .getAgentTypeId => 7
  | .createTenant _ _ .dataEncryption => 6
  | .createTenant _ _ .getOrgDetails => 5
  | .createTenant _ _ .storeOrgAgentDetails => 4
  | .createTenant _ _ .createConnectionInvitation => 3
  | .createTenant _ _ .deleteOrgAgentById => 2
  | .succeeded => 0
  | .failed => 0

/-- An upper bound of the steps that a call and its promises still take. -/
def Call.work (c : Call) : Nat := 2 * c.process.rank + c.promises.length
/-- The step is possible, and the call is nearer to the end of all its promises. -/
def Nearer (svc : Services) (s : State) (call : Nat) (c : Call) (a : Action) : Prop :=
  ∃ t c', step svc s a = some t ∧ t.calls call = some c' ∧ c'.work < c.work

/-- What the calls that have ended or failed have left behind. -/
structure Clean (svc : Services) (s : State) : Prop where
  /-- A failed provisioning has removed the row that it stored, once. -/
  removed : ∀ call c, s.calls call = some c → c.process = .failed → c.removed = if c.created then [call] else []
  own : ∀ call c, s.calls call = some c → ∀ id ∈ c.removed, id = call
  tenant : ∀ call c, s.calls call = some c → c.process = .failed → call ∈ s.tenants →
    ∃ row, s.org_agents = some row ∧ row.tenantId = some call
  handled : s.unhandled = []
  settles : ∀ call c, s.calls call = some c →
    (c.process = .succeeded ∨ c.process = .failed ∨ ∀ answer, Nearer svc s call c (.advance call answer)) ∧
      ∀ promise ∈ c.promises, ∀ answer, Nearer svc s call c (.settle call promise answer)
  /-- What keeps a new provisioning out is the row of one that has not failed. -/
  admitted : ∀ row, s.org_agents = some row → ∃ c, s.calls row.id = some c ∧ c.process ≠ .failed

/-- Whoever was told the end of a call was told that the DID was created. -/
def Reported (s : State) : Prop := ∀ reply ∈ s.replies, reply.2 = some .DID_CREATED
/-- Calls clean up after themselves and are reported as they ended. -/
structure Good (svc : Services) (s : State) : Prop where
  clean : Clean svc s
  reported : Reported s
/-- The end of the awaited operation is not one that leaves something behind. -/
def Fine (s : State) (call : Nat) (answer : Answer) : Process → Prop
  | .createTenant _ user .createOrgAgent => answer = .lost → createOrgAgent s call user.id = none
  | .createTenant _ _ .deleteOrgAgentById => answer ≠ .fails ∧ removable s call = true ∧ call ∉ s.tenants
  | .walletProvision _ _ (.createOrgAgent userId) => answer = .lost → createOrgAgent s call userId = none
  | .agentSpinup _ .emitError => answer = .ok
  | .agentSpinup _ .removeOrgAgent => answer = .ok ∧ removable s call = true
  | _ => True
def FineAlone (s : State) (call : Nat) (answer : Answer) : Promise → Prop
  | .removeOrgAgent => answer = .ok ∧ removable s call = true
  | _ => answer = .ok
/-- No stored row goes unnoticed, `createTenant` fails before it has a tenant, every removal finds its row free
    to be removed, and what is not awaited does not fail. -/
def Tidy (s : State) : Action → Prop
  | .advance call answer => ∀ c, s.calls call = some c → Fine s call answer c.process
  | .settle call promise answer => FineAlone s call answer promise
  | _ => True
/-- `walletProvision` does not get its row. -/
def Honest (s : State) : Action → Prop
  | .advance call answer => ∀ c dto user userId, s.calls call = some c →
    c.process = .walletProvision dto user (.createOrgAgent userId) → answer = .ok → createOrgAgent s call userId = none
  | _ => True
inductive Phase where
  | before
  | during
  | closing
  | succeeded
  | failed

/-- Before its row, with it, and in the `catch` of `_agentSpinup`. -/
def Process.phase : Process → Phase
  | .createTenant _ _ .getAgentDetails => .before
  | .createTenant _ _ .createOrgAgent => .before
  | .createTenant _ _ _ => .during
  | .walletProvision _ _ _ => .before
  | .agentSpinup _ .emitError => .closing
  | .agentSpinup _ .removeOrgAgent => .closing
  | .agentSpinup _ _ => .during
  | .succeeded => .succeeded
  | .failed => .failed

def Process.isSpinup : Process → Bool
  | .agentSpinup _ _ => true
  | _ => false
/-- The effect leaves the id of the row, and stores no row. -/
def Effect.harmless (call : Nat) : Effect → Prop
  | .nothing => True
  | .createTenant => True
  | .saveInvitation => True
  | .storeOrgAgentDetails row => row.id = call
  | _ => False

section
variable {svc : Services} {s t : State} {call other : Nat} {c : Call} {o : Outcome} {answer : Answer}

/-- How the awaited operation of a process may end. -/
inductive Way (s : State) (call : Nat) (answer : Answer) (p : Process) : Outcome → Prop
  | starts (process : Process) (started : List Promise) (replies : Bool) (phase : p.phase = .before)
      (next : process.phase = .before ∨ process.phase = .failed) (quiet : .removeOrgAgent ∉ started)
      (fine : Fine s call answer p) : Way s call answer p ⟨.nothing,process,started,false,replies⟩
  | creates (row : OrgAgent) (process : Process) (replies : Bool) (phase : p.phase = .before)
      (next : process.phase = .during ∨ process.phase = .closing) (free : s.org_agents = none) (id : row.id = call)
      (fine : Fine s call answer p) : Way s call answer p ⟨.createOrgAgent row,process,[],false,replies⟩
  | unnoticed (row : OrgAgent) (started : List Promise) (replies : Bool) (phase : p.phase = .before)
      (free : s.org_agents = none) (id : row.id = call) (spoilt : ¬Fine s call answer p) :
      Way s call answer p ⟨.createOrgAgent row,.failed,started,false,replies⟩
  | goes (effect : Effect) (process : Process) (started : List Promise) (replies : Bool) (phase : p.phase = .during)
      (next : process.phase = .during ∨ process.phase = .succeeded) (harmless : effect.harmless call)
      (spinup : process.isSpinup = true → p.isSpinup = true ∧ effect ≠ .createTenant)
      (quiet : .removeOrgAgent ∉ started) (fine : Fine s call answer p) :
      Way s call answer p ⟨effect,process,started,false,replies⟩
  | catches (effect : Effect) (process : Process) (started : List Promise) (replies : Bool) (phase : p.phase = .during)
      (spinup : p.isSpinup = true) (next : process.phase = .closing) (harmless : effect.harmless call)
      (apart : effect ≠ .createTenant) (once : started.count .removeOrgAgent ≤ 1) (fine : Fine s call answer p) :
      Way s call answer p ⟨effect,process,started,false,replies⟩
  | deletes (started : List Promise) (replies : Bool) (phase : p.phase = .during)
      (fine : Fine s call answer p ↔ answer ≠ .fails ∧ removable s call = true ∧ call ∉ s.tenants) :
      Way s call answer p ⟨removal s call answer,.failed,started,false,replies⟩
  | closes (process : Process) (replies : Bool) (phase : p.phase = .closing) (next : process.phase = .closing)
      (fine : Fine s call answer p) : Way s call answer p ⟨.nothing,process,[],false,replies⟩
  | leaves (replies : Bool) (spoilt : ¬Fine s call answer p) : Way s call answer p ⟨.nothing,.failed,[],true,replies⟩
  | removes (replies : Bool) (phase : p.phase = .closing)
      (fine : Fine s call answer p ↔ answer = .ok ∧ removable s call = true) :
      Way s call answer p ⟨removal s call answer,.failed,[],!(answer = .ok && removable s call),replies⟩

theorem createOrgAgent_some {userId : Option String} {row : OrgAgent}
    (created : createOrgAgent s call userId = some row) :
    s.org_agents = none ∧ row.id = call ∧ row.agentSpinUpStatus = .WALLET_CREATED := by
  cases free : s.org_agents with
  | none =>
    cases userId with
    | none => simp only [createOrgAgent,free,reduceCtorEq] at created
    | some userId =>
      simp only [createOrgAgent,free,Option.some.injEq] at created
      exact ⟨rfl,created ▸ rfl,created ▸ rfl⟩
  | some old => simp only [createOrgAgent,free,reduceCtorEq] at created
theorem storeOrgAgentDetails_some {update : OrgAgent → OrgAgent} {row : OrgAgent}
    (stored : storeOrgAgentDetails s call update = some row) (keeps : ∀ row, (update row).id = row.id) :
    row.id = call := by
  obtain ⟨old,found,rfl⟩ := Option.map_eq_some_iff.mp stored
  rw [keeps]
  exact of_decide_eq_true (Option.filter_eq_some_iff.mp found).2
theorem caughtSpinup_phase (dto : AgentSpinupDto) : (caughtSpinup dto).phase = .closing := by
  unfold caughtSpinup
  split <;> rfl
theorem spinup_phase (svc : Services) (dto : AgentSpinupDto) :
    (_agentSpinup svc dto).phase = .during ∨ (_agentSpinup svc dto).phase = .closing := by
  unfold _agentSpinup
  split
  · exact .inl rfl
  · split
    · exact .inl rfl
    · exact .inr (caughtSpinup_phase dto)

theorem tenantStep_way (dto : TenantDto) (user : UserRequest) (at_ : TenantAwait) :
    Way s call answer (.createTenant dto user at_) (tenantStep s call answer dto user at_) := by
  have goes (process : Process) (phase : (Process.createTenant dto user at_).phase = .during)
      (next : process.phase = .during) (spinup : process.isSpinup = false)
      (fine : Fine s call answer (.createTenant dto user at_)) :
      Way s call answer (.createTenant dto user at_) process.only :=
    .goes .nothing process [] false phase (.inl next) trivial (fun is => absurd (spinup.symm.trans is) nofun) nofun fine
  cases at_ with
  | getAgentDetails =>
    simp only [tenantStep]
    split
    · exact .starts _ [] false rfl (.inl rfl) nofun trivial
    · exact .starts _ [] false rfl (.inr rfl) nofun trivial
  | createOrgAgent =>
    simp only [tenantStep]
    split
    · rename_i row created
      obtain ⟨free,id,-⟩ := createOrgAgent_some created
      exact .creates row _ false rfl (.inl rfl) free id nofun
    · rename_i row created
      obtain ⟨free,id,-⟩ := createOrgAgent_some created
      exact .unnoticed row _ false rfl free id fun fine => nomatch created.symm.trans (fine rfl)
    · rename_i noticed unnoticed
      refine .starts .failed _ false rfl (.inr rfl) (by decide) fun lost => ?_
      cases created : createOrgAgent s call user.id with
      | none => rfl
      | some row => exact absurd lost (unnoticed row created)
  | createSocketInstance =>
    simp only [tenantStep]
    split <;> exact goes _ rfl rfl rfl trivial
  | platformAdminAgent =>
    simp only [tenantStep]
    split <;> exact goes _ rfl rfl rfl trivial
  | createTenantAndNotify org_agents =>
    simp only [tenantStep]
    split <;> exact goes _ rfl rfl rfl trivial
  | decryptPassword platformAgent =>
    simp only [tenantStep]
    split <;> exact goes _ rfl rfl rfl trivial
  | createTenantWallet platformAgent =>
    simp only [tenantStep]
    split
    · split <;> exact .goes .createTenant _ [] false rfl (.inl rfl) trivial nofun nofun trivial
    · exact .goes .createTenant _ [] false rfl (.inl rfl) trivial nofun nofun trivial
    · exact goes _ rfl rfl rfl trivial
  | getOrgAgentTypeDetails =>
    simp only [tenantStep]
    split <;> exact goes _ rfl rfl rfl trivial
  | getAgentTypeId =>
    simp only [tenantStep]
    split <;> exact goes _ rfl rfl rfl trivial
  | dataEncryption =>
    simp only [tenantStep]
    split <;> exact goes _ rfl rfl rfl trivial
  | getOrgDetails =>
    simp only [tenantStep]
    split
    · exact .goes .nothing _ _ false rfl (.inl rfl) trivial nofun (by decide) trivial
    · exact goes _ rfl rfl rfl trivial
  | storeOrgAgentDetails =>
    dsimp only [tenantStep]
    split
    · rename_i row stored
      exact .goes _ _ _ false rfl (.inl rfl) (storeOrgAgentDetails_some stored fun _ => rfl) nofun (by decide) trivial
    · rename_i row stored
      exact .goes _ _ [] false rfl (.inl rfl) (storeOrgAgentDetails_some stored fun _ => rfl) nofun nofun trivial
    · exact goes _ rfl rfl rfl trivial
  | createConnectionInvitation =>
    simp only [tenantStep]
    split
    · exact .goes .saveInvitation _ _ false rfl (.inr rfl) trivial nofun (by decide) trivial
    · exact .goes .saveInvitation _ [] false rfl (.inl rfl) trivial nofun nofun trivial
    · exact goes _ rfl rfl rfl trivial
  | deleteOrgAgentById => exact .deletes _ false rfl Iff.rfl

theorem provisionStep_way (dto : AgentSpinupDto) (user : UserRequest) (at_ : ProvisionAwait) :
    Way s call answer (.walletProvision dto user at_) (provisionStep svc s call answer dto user at_) := by
  have starts (process : Process) (next : process.phase = .before ∨ process.phase = .failed)
      (fine : Fine s call answer (.walletProvision dto user at_)) :
      Way s call answer (.walletProvision dto user at_) process.only :=
    .starts process [] false rfl next nofun fine
  cases at_ with
  | getPlatformConfigDetails =>
    simp only [provisionStep]
    split
    · split <;> exact starts _ (.inl rfl) trivial
    · exact starts _ (.inr rfl) trivial
  | getPlatfomAdminUser | getPlatfomOrg | getAgentDetails | getOrgDetails | getGenesisUrl | initSocketConnection =>
    simp only [provisionStep]
    split
    · exact starts _ (.inl rfl) trivial
    · exact starts _ (.inr rfl) trivial
  | createOrgAgent userId =>
    simp only [provisionStep]
    split
    · rename_i row created
      obtain ⟨free,id,-⟩ := createOrgAgent_some created
      exact .creates row _ true rfl (spinup_phase svc dto) free id nofun
    · rename_i row created
      obtain ⟨free,id,-⟩ := createOrgAgent_some created
      exact .unnoticed row _ false rfl free id fun fine => nomatch created.symm.trans (fine rfl)
    · rename_i noticed unnoticed
      refine starts .failed (.inr rfl) fun lost => ?_
      cases created : createOrgAgent s call userId with
      | none => rfl
      | some row => exact absurd lost (unnoticed row created)

theorem spinupStep_way (dto : AgentSpinupDto) (at_ : SpinupAwait) :
    Way s call answer (.agentSpinup dto at_) (spinupStep svc s call answer dto at_) := by
  have goes (process : Process) (phase : (Process.agentSpinup dto at_).phase = .during)
      (next : process.phase = .during ∨ process.phase = .succeeded) (fine : Fine s call answer (.agentSpinup dto at_)) :
      Way s call answer (.agentSpinup dto at_) process.only :=
    .goes .nothing process [] false phase next trivial (fun _ => ⟨rfl,nofun⟩) nofun fine
  have catches (phase : (Process.agentSpinup dto at_).phase = .during)
      (fine : Fine s call answer (.agentSpinup dto at_)) :
      Way s call answer (.agentSpinup dto at_) (caughtSpinup dto).only :=
    .catches .nothing _ [] false phase rfl (caughtSpinup_phase dto) trivial nofun (by decide) fine
  have stores (effect : Effect) (harmless : effect.harmless call) (apart : effect ≠ .createTenant)
      (phase : (Process.agentSpinup dto at_).phase = .during) (fine : Fine s call answer (.agentSpinup dto at_)) :
      Way s call answer (.agentSpinup dto at_) (caughtStore dto effect) := by
    unfold caughtStore
    split
    · exact .goes effect _ [] false phase (.inl rfl) harmless (fun _ => ⟨rfl,apart⟩) nofun fine
    · exact .catches effect _ _ false phase rfl (caughtSpinup_phase dto) harmless apart (by decide) fine
  cases at_ with
  | getALlLedgerDetails ledger =>
    simp only [spinupStep]
    split
    · exact goes _ rfl (.inl rfl) trivial
    · exact catches rfl trivial
  | getLedgerDetails =>
    simp only [spinupStep]
    split
    · exact goes _ rfl (.inl rfl) trivial
    · exact catches rfl trivial
  | walletProvision =>
    simp only [spinupStep]
    split
    · exact goes _ rfl (.inl rfl) trivial
    · exact catches rfl trivial
  | initSocketConnection =>
    simp only [spinupStep]
    split
    · exact goes _ rfl (.inl rfl) trivial
    · exact catches rfl trivial
  | getBaseAgentToken =>
    simp only [spinupStep]
    split
    · exact goes _ rfl (.inl rfl) trivial
    · exact catches rfl trivial
  | tokenEncryption =>
    simp only [spinupStep]
    split
    · exact goes _ rfl (.inl rfl) trivial
    · exact catches rfl trivial
  | getOrgAgentTypeDetails =>
    simp only [spinupStep]
    split
    · exact goes _ rfl (.inl rfl) trivial
    · exact stores .nothing trivial nofun rfl trivial
  | storeOrgAgentDetails =>
    dsimp only [spinupStep]
    split
    · rename_i row stored
      refine .goes (.storeOrgAgentDetails row) _ [] false rfl ?_ (storeOrgAgentDetails_some stored fun _ => rfl)
        (fun _ => ⟨rfl,nofun⟩) nofun trivial
      split
      · exact .inl rfl
      · exact .inr rfl
    · rename_i row stored
      exact stores _ (storeOrgAgentDetails_some stored fun _ => rfl) nofun rfl trivial
    · exact stores .nothing trivial nofun rfl trivial
  | emitCompleted =>
    simp only [spinupStep]
    split
    · exact goes _ rfl (.inr rfl) trivial
    · exact catches rfl trivial
  | handleError =>
    simp only [spinupStep]
    split
    · exact .catches .nothing _ _ false rfl rfl (caughtSpinup_phase dto) trivial nofun (by decide) trivial
    · exact catches rfl trivial
  | emitError =>
    simp only [spinupStep]
    split
    · rename_i fine
      exact .closes _ false rfl rfl fine
    · rename_i spoilt
      exact .leaves false spoilt
  | removeOrgAgent => exact .removes false rfl Iff.rfl

variable {p : Process}
theorem outcome_way (ends : outcome svc s call answer p = some o) : Way s call answer p o := by
  cases p with
  | createTenant dto user at_ => exact Option.some.inj ends ▸ tenantStep_way dto user at_
  | walletProvision dto user at_ => exact Option.some.inj ends ▸ provisionStep_way dto user at_
  | agentSpinup dto at_ => exact Option.some.inj ends ▸ spinupStep_way dto at_
  | succeeded => cases ends
  | failed => cases ends
theorem caughtSpinup_rank (dto : AgentSpinupDto) : (caughtSpinup dto).rank ≤ 10 := by
  unfold caughtSpinup
  split <;> exact Nat.le_of_ble_eq_true rfl
theorem spinup_rank (svc : Services) (dto : AgentSpinupDto) : (_agentSpinup svc dto).rank ≤ 20 := by
  unfold _agentSpinup
  split
  · exact Nat.le_of_ble_eq_true rfl
  · split
    · exact Nat.le_of_ble_eq_true rfl
    · exact Nat.le_trans (caughtSpinup_rank dto) (Nat.le_of_ble_eq_true rfl)
theorem caughtStore_rank (dto : AgentSpinupDto) (effect : Effect) :
    2 * (caughtStore dto effect).process.rank + (caughtStore dto effect).started.length ≤ 22 := by
  unfold caughtStore
  split
  · exact Nat.le_refl 22
  · have bound := caughtSpinup_rank dto
    show 2 * (caughtSpinup dto).rank + 1 ≤ 22
    omega

theorem outcome_rank (ends : outcome svc s call answer p = some o) :
    2 * o.process.rank + o.started.length < 2 * p.rank := by
  cases p with
  | createTenant dto user at_ =>
    cases ends
    cases at_ <;> simp only [tenantStep] <;> (repeat' split) <;> exact Nat.le_of_ble_eq_true rfl
  | walletProvision dto user at_ =>
    cases ends
    cases at_ with
    | createOrgAgent userId =>
      have bound := spinup_rank svc dto
      simp only [provisionStep]
      split
      · show 2 * (_agentSpinup svc dto).rank + 0 < 2 * 23
        omega
      · exact Nat.le_of_ble_eq_true rfl
      · exact Nat.le_of_ble_eq_true rfl
    | _ =>
      simp only [provisionStep]
      (repeat' split) <;> exact Nat.le_of_ble_eq_true rfl
  | agentSpinup dto at_ =>
    cases ends
    have bound := caughtSpinup_rank dto
    have caught (rank : Nat) (above : 10 < rank) : 2 * (caughtSpinup dto).only.process.rank + 0 < 2 * rank := by
      show 2 * (caughtSpinup dto).rank + 0 < 2 * rank
      omega
    cases at_ with
    | storeOrgAgentDetails =>
      dsimp only [spinupStep]
      split
      · split <;> exact Nat.le_of_ble_eq_true rfl
      · exact Nat.lt_of_le_of_lt (caughtStore_rank dto _) (Nat.le_of_ble_eq_true rfl)
      · exact Nat.lt_of_le_of_lt (caughtStore_rank dto _) (Nat.le_of_ble_eq_true rfl)
    | getOrgAgentTypeDetails =>
      simp only [spinupStep]
      split
      · exact Nat.le_of_ble_eq_true rfl
      · exact Nat.lt_of_le_of_lt (caughtStore_rank dto _) (Nat.le_of_ble_eq_true rfl)
    | handleError =>
      simp only [spinupStep]
      split
      · show 2 * (caughtSpinup dto).rank + 1 < 22
        omega
      · exact caught 11 (by omega)
    | emitError =>
      simp only [spinupStep]
      split <;> exact Nat.le_of_ble_eq_true rfl
    | removeOrgAgent => exact Nat.le_of_ble_eq_true rfl
    | _ =>
      simp only [spinupStep]
      split
      · exact Nat.le_of_ble_eq_true rfl
      · exact caught _ (Nat.le_of_ble_eq_true rfl)
  | succeeded => cases ends
  | failed => cases ends

theorem after_self : (s.after call c o).calls call = some (c.after call o) := Function.update_self ..
theorem advance_nearer (now : s.calls call = some c) (is : c.process = p)
    (ends : outcome svc s call answer p = some o) : Nearer svc s call c (.advance call answer) := by
  refine ⟨s.after call c o,c.after call o,by simp only [step,now,is,ends,Option.map_some],after_self,?_⟩
  have less := outcome_rank ends
  simp only [Call.work,Call.after,List.length_append,is]
  omega

theorem settle_nearer {promise : Promise} (now : s.calls call = some c) (pending : promise ∈ c.promises) :
    Nearer svc s call c (.settle call promise answer) := by
  have taken : step svc s (.settle call promise answer) = some (s.after call
      { c with promises := c.promises.erase promise } (settled s call answer c.process promise)) := by
    simp only [step,now,if_pos pending]
  refine ⟨_,_,taken,after_self,?_⟩
  have less := List.length_erase_of_mem pending
  have some_ := List.length_pos_of_mem pending
  have same : (settled s call answer c.process promise).process = c.process ∧
      (settled s call answer c.process promise).started = [] := by
    cases promise <;> exact ⟨rfl,rfl⟩
  simp only [Call.work,Call.after,List.length_append,same.1,same.2,List.length_nil]
  omega

/-- Whatever the answers, every call ends and so do its promises. -/
theorem settles (now : s.calls call = some c) :
    (c.process = .succeeded ∨ c.process = .failed ∨ ∀ answer, Nearer svc s call c (.advance call answer)) ∧
      ∀ promise ∈ c.promises, ∀ answer, Nearer svc s call c (.settle call promise answer) := by
  refine ⟨?_,fun promise pending answer => settle_nearer now pending⟩
  cases is : c.process with
  | createTenant dto user at_ => exact .inr (.inr fun answer => advance_nearer now is rfl)
  | walletProvision dto user at_ => exact .inr (.inr fun answer => advance_nearer now is rfl)
  | agentSpinup dto at_ => exact .inr (.inr fun answer => advance_nearer now is rfl)
  | succeeded => exact .inl rfl
  | failed => exact .inr (.inl rfl)

def Holds (s : State) (call : Nat) : Prop := ∃ row, s.org_agents = some row ∧ row.id = call
def Fits (s : State) (call : Nat) (c : Call) : Prop :=
  match c.process.phase with
  | .before => c.created = false ∧ c.removed = [] ∧ .removeOrgAgent ∉ c.promises ∧ ¬Holds s call ∧ call ∉ s.tenants
  | .during => c.created = true ∧ c.removed = [] ∧ .removeOrgAgent ∉ c.promises ∧ Holds s call ∧
    (c.process.isSpinup = true → call ∉ s.tenants)
  | .closing => c.created = true ∧ call ∉ s.tenants ∧
      (c.removed = [] ∧ Holds s call ∧ c.promises.count .removeOrgAgent ≤ 1 ∨
    c.removed = [call] ∧ ¬Holds s call ∧ .removeOrgAgent ∉ c.promises)
  | .succeeded => c.removed = [] ∧ .removeOrgAgent ∉ c.promises ∧ Holds s call
  | .failed => call ∉ s.tenants ∧ ¬Holds s call ∧ c.removed = if c.created then [call] else []
/-- Each call has what its stage says, and what is not a call has nothing. -/
structure Kept (s : State) : Prop where
  fits : ∀ call c, s.calls call = some c → Fits s call c
  unused : ∀ call, s.calls call = none → ¬Holds s call ∧ call ∉ s.tenants
  handled : s.unhandled = []
theorem fits_congr (row : Holds t call ↔ Holds s call) (tenant : call ∈ t.tenants ↔ call ∈ s.tenants)
    (fits : Fits s call c) : Fits t call c := by
  unfold Fits at fits ⊢
  rw [row,tenant]
  exact fits

theorem fits_removed (fits : Fits s call c) : ∀ id ∈ c.removed, id = call := by
  have none_ (empty : c.removed = []) : ∀ id ∈ c.removed, id = call := by
    rw [empty]
    exact nofun
  have one (single : c.removed = [call]) : ∀ id ∈ c.removed, id = call := by
    rw [single]
    exact fun id there => List.mem_singleton.mp there
  unfold Fits at fits
  split at fits
  · exact none_ fits.2.1
  · exact none_ fits.2.1
  · rcases fits.2.2 with ⟨empty,-⟩ | ⟨single,-⟩
    · exact none_ empty
    · exact one single
  · exact none_ fits.1
  · split at fits
    · exact one fits.2.2
    · exact none_ fits.2.2

theorem Kept.clean (kept : Kept s) : Clean svc s where
  removed call c now failed := by
    have fits := kept.fits call c now
    rw [Fits,failed] at fits
    exact fits.2.2
  own call c now := fits_removed (kept.fits call c now)
  tenant call c now failed there := by
    have fits := kept.fits call c now
    rw [Fits,failed] at fits
    exact absurd there fits.1
  handled := kept.handled
  settles call c now := settles now
  admitted row stored := by
    have holds : Holds s row.id := ⟨row,stored,rfl⟩
    cases now : s.calls row.id with
    | none => exact absurd holds (kept.unused row.id now).1
    | some c =>
      refine ⟨c,rfl,fun failed => ?_⟩
      have fits := kept.fits row.id c now
      rw [Fits,failed] at fits
      exact fits.2.1 holds

def Own (call : Nat) (org_agents : Option OrgAgent) : Prop := ∀ row, org_agents = some row → row.id = call

theorem kept_after (kept : Kept s) (fits : Fits (s.after call c o) call (c.after call o))
    (row : o.effect.row s.org_agents = s.org_agents ∨ Own call s.org_agents ∧ Own call (o.effect.row s.org_agents))
    (handled : o.unhandled = false) : Kept (s.after call c o) := by
  have holds (other : Nat) (apart : other ≠ call) : Holds (s.after call c o) other ↔ Holds s other := by
    rcases row with same | ⟨before,after⟩
    · exact iff_of_eq (congrArg (fun rows : Option OrgAgent => ∃ row, rows = some row ∧ row.id = other) same)
    · exact iff_of_false (fun ⟨row,stored,is⟩ => apart (is.symm.trans (after row stored)))
        (fun ⟨row,stored,is⟩ => apart (is.symm.trans (before row stored)))
  have tenant (other : Nat) (apart : other ≠ call) : other ∈ (s.after call c o).tenants ↔ other ∈ s.tenants := by
    show other ∈ (if o.effect = .createTenant then call :: s.tenants else s.tenants) ↔ other ∈ s.tenants
    split
    · exact ⟨fun there => (List.mem_cons.mp there).resolve_left apart,List.mem_cons_of_mem call⟩
    · exact Iff.rfl
  refine ⟨?_,?_,?_⟩
  · intro other c' now
    by_cases same : other = call
    · subst same
      exact Option.some.inj (after_self.symm.trans now) ▸ fits
    · have before : s.calls other = some c' := (Function.update_of_ne same ..).symm.trans now
      exact fits_congr (holds other same) (tenant other same) (kept.fits other c' before)
  · intro other now
    by_cases same : other = call
    · subst same
      cases after_self.symm.trans now
    · have before : s.calls other = none := (Function.update_of_ne same ..).symm.trans now
      rw [holds other same,tenant other same]
      exact kept.unused other before
  · show (if o.unhandled then call :: s.unhandled else s.unhandled) = []
    rw [handled]
    exact kept.handled

theorem removable_holds (there : removable s call = true) : Holds s call := by
  have any := (Bool.and_eq_true_iff.mp there).1
  cases stored : s.org_agents with
  | none =>
    rw [stored] at any
    cases any
  | some row =>
    rw [stored] at any
    exact ⟨row,stored,of_decide_eq_true any⟩
theorem holds_own (holds : Holds s call) : Own call s.org_agents := by
  obtain ⟨row,stored,is⟩ := holds
  intro other found
  exact Option.some.inj (stored.symm.trans found) ▸ is

variable {effect : Effect}
theorem harmless_row (harmless : effect.harmless call) (holds : Holds s call) :
    effect.row s.org_agents = s.org_agents ∨ Own call s.org_agents ∧ Own call (effect.row s.org_agents) := by
  cases effect with
  | storeOrgAgentDetails row => exact .inr ⟨holds_own holds,fun other found => Option.some.inj found ▸ harmless⟩
  | createOrgAgent row => exact absurd harmless id
  | removeOrgAgent => exact absurd harmless id
  | _ => exact .inl rfl

variable {process : Process}
theorem harmless_holds {started : List Promise} {unhandled replies : Bool}
    (harmless : effect.harmless call) (holds : Holds s call) :
    Holds (s.after call c ⟨effect,process,started,unhandled,replies⟩) call := by
  cases effect with
  | storeOrgAgentDetails row => exact ⟨row,rfl,harmless⟩
  | createOrgAgent row => exact absurd harmless id
  | removeOrgAgent => exact absurd harmless id
  | _ => exact holds
theorem harmless_removed (harmless : effect.harmless call) : effect ≠ .removeOrgAgent := by
  rintro rfl
  exact harmless
theorem removal_effective (sent : answer ≠ .fails) (there : removable s call = true) :
    removal s call answer = .removeOrgAgent := by
  unfold removal
  rw [there,if_pos (Bool.and_eq_true_iff.mpr ⟨decide_eq_true sent,rfl⟩)]

theorem way_fits (fits : Fits s call c) (way : Way s call answer c.process o) (fine : Fine s call answer c.process) :
    Fits (s.after call c o) call (c.after call o) := by
  cases way with
  | starts process started replies phase next quiet _ =>
    rw [Fits,phase] at fits
    obtain ⟨created,removed,pending,holds,tenant⟩ := fits
    have quiet' : Promise.removeOrgAgent ∉ started ++ c.promises := List.not_mem_append quiet pending
    rcases next with next | next
    · simp only [Fits,Call.after,next]
      exact ⟨by rw [created]; rfl,removed,quiet',holds,tenant⟩
    · simp only [Fits,Call.after,next]
      refine ⟨tenant,holds,?_⟩
      show c.removed = if (c.created || false) then [call] else []
      rw [created]
      exact removed
  | creates row process replies phase next free id _ =>
    rw [Fits,phase] at fits
    obtain ⟨created,removed,pending,-,tenant⟩ := fits
    have holds : Holds (s.after call c ⟨.createOrgAgent row,process,[],false,replies⟩) call := ⟨row,rfl,id⟩
    rcases next with next | next
    · simp only [Fits,Call.after,next]
      exact ⟨Bool.or_true _,removed,pending,holds,fun _ => tenant⟩
    · simp only [Fits,Call.after,next]
      refine ⟨Bool.or_true _,tenant,.inl ⟨removed,holds,?_⟩⟩
      show c.promises.count .removeOrgAgent ≤ 1
      rw [List.count_eq_zero_of_not_mem pending]
      exact Nat.zero_le 1
  | unnoticed row started replies phase free id spoilt => exact absurd fine spoilt
  | goes effect process started replies phase next harmless spinup quiet _ =>
    rw [Fits,phase] at fits
    obtain ⟨created,removed,pending,holds,tenant⟩ := fits
    have quiet' : Promise.removeOrgAgent ∉ started ++ c.promises := List.not_mem_append quiet pending
    have removed' : (if effect = .removeOrgAgent then call :: c.removed else c.removed) = [] := by
      rw [if_neg (harmless_removed harmless),removed]
    have created' : (c.created || effect.creates) = true := by rw [created,Bool.true_or]
    rcases next with next | next
    · simp only [Fits,Call.after,next]
      refine ⟨created',removed',quiet',harmless_holds harmless holds,fun is => ?_⟩
      show call ∉ (if effect = .createTenant then call :: s.tenants else s.tenants)
      rw [if_neg (spinup is).2]
      exact tenant (spinup is).1
    · simp only [Fits,Call.after,next]
      exact ⟨removed',quiet',harmless_holds harmless holds⟩
  | catches effect process started replies phase spinup next harmless apart once _ =>
    rw [Fits,phase] at fits
    obtain ⟨created,removed,pending,holds,tenant⟩ := fits
    simp only [Fits,Call.after,next]
    refine ⟨by rw [created,Bool.true_or],?_,.inl ⟨?_,harmless_holds harmless holds,?_⟩⟩
    · show call ∉ (if effect = .createTenant then call :: s.tenants else s.tenants)
      rw [if_neg apart]
      exact tenant spinup
    · rw [if_neg (harmless_removed harmless),removed]
    · rw [List.count_append,List.count_eq_zero_of_not_mem pending]
      exact once
  | deletes started replies phase fine_iff =>
    obtain ⟨sent,there,tenant⟩ := fine_iff.mp fine
    rw [Fits,phase] at fits
    obtain ⟨created,removed,-,-,-⟩ := fits
    rw [removal_effective sent there]
    simp only [Fits,Call.after,Process.phase]
    refine ⟨tenant,(fun ⟨_,none_,_⟩ => nomatch none_),?_⟩
    show call :: c.removed = if (c.created || false) then [call] else []
    rw [created,removed]
    rfl
  | closes process replies phase next _ =>
    rw [Fits,phase] at fits
    obtain ⟨created,tenant,ways⟩ := fits
    simp only [Fits,Call.after,next]
    exact ⟨by rw [created,Bool.true_or],tenant,ways⟩
  | leaves replies spoilt => exact absurd fine spoilt
  | removes replies phase fine_iff =>
    obtain ⟨sent,there⟩ := fine_iff.mp fine
    rw [Fits,phase] at fits
    obtain ⟨created,tenant,ways⟩ := fits
    rw [removal_effective (sent ▸ nofun) there]
    rcases ways with ⟨removed,-,-⟩ | ⟨-,gone,-⟩
    · simp only [Fits,Call.after,Process.phase]
      refine ⟨tenant,(fun ⟨_,none_,_⟩ => nomatch none_),?_⟩
      show call :: c.removed = if (c.created || false) then [call] else []
      rw [created,removed]
      rfl
    · exact absurd (removable_holds there) gone

theorem way_rows (fits : Fits s call c) (way : Way s call answer c.process o) (fine : Fine s call answer c.process) :
    (o.effect.row s.org_agents = s.org_agents ∨ Own call s.org_agents ∧ Own call (o.effect.row s.org_agents)) ∧
      o.unhandled = false := by
  have gone (there : removable s call = true) (sent : answer ≠ .fails) :
      Own call s.org_agents ∧ Own call ((removal s call answer).row s.org_agents) := by
    rw [removal_effective sent there]
    exact ⟨holds_own (removable_holds there),fun _ => nofun⟩
  cases way with
  | starts process started replies phase next quiet _ => exact ⟨.inl rfl,rfl⟩
  | creates row process replies phase next free id _ =>
    refine ⟨.inr ⟨?_,fun other found => Option.some.inj found ▸ id⟩,rfl⟩
    rw [free]
    exact fun _ => nofun
  | unnoticed row started replies phase free id spoilt => exact absurd fine spoilt
  | goes effect process started replies phase next harmless spinup quiet _ =>
    rw [Fits,phase] at fits
    exact ⟨harmless_row harmless fits.2.2.2.1,rfl⟩
  | catches effect process started replies phase spinup next harmless apart once _ =>
    rw [Fits,phase] at fits
    exact ⟨harmless_row harmless fits.2.2.2.1,rfl⟩
  | deletes started replies phase fine_iff =>
    obtain ⟨sent,there,-⟩ := fine_iff.mp fine
    exact ⟨.inr (gone there sent),rfl⟩
  | closes process replies phase next _ => exact ⟨.inl rfl,rfl⟩
  | leaves replies spoilt => exact absurd fine spoilt
  | removes replies phase fine_iff =>
    obtain ⟨sent,there⟩ := fine_iff.mp fine
    refine ⟨.inr (gone there (sent ▸ nofun)),?_⟩
    show (!(answer = .ok && removable s call)) = false
    rw [there,decide_eq_true sent]
    rfl

theorem settled_fits {promise : Promise} (fits : Fits s call c) (pending : promise ∈ c.promises)
    (fine : FineAlone s call answer promise) :
    let c' := { c with promises := c.promises.erase promise }
    let o := settled s call answer c.process promise
    Fits (s.after call c' o) call (c'.after call o) ∧
      (o.effect.row s.org_agents = s.org_agents ∨ Own call s.org_agents ∧ Own call (o.effect.row s.org_agents)) ∧
        o.unhandled = false := by
  have quiet (alone : .removeOrgAgent ∉ c.promises) : Promise.removeOrgAgent ∉ c.promises.erase promise :=
    fun there => alone (List.mem_of_mem_erase there)
  have notifies : Fits (s.after call { c with promises := c.promises.erase promise } c.process.only) call
      ({ c with promises := c.promises.erase promise }.after call c.process.only) := by
    have same : (c.created || false) = c.created := Bool.or_false _
    cases phase : c.process.phase with
    | before =>
      simp only [Fits,phase,Call.after,Process.only] at fits ⊢
      exact ⟨same.trans fits.1,fits.2.1,quiet fits.2.2.1,fits.2.2.2⟩
    | during =>
      simp only [Fits,phase,Call.after,Process.only] at fits ⊢
      exact ⟨same.trans fits.1,fits.2.1,quiet fits.2.2.1,fits.2.2.2⟩
    | closing =>
      simp only [Fits,phase,Call.after,Process.only] at fits ⊢
      refine ⟨same.trans fits.1,fits.2.1,fits.2.2.imp ?_ ?_⟩
      · rintro ⟨removed,holds,once⟩
        exact ⟨removed,holds,Nat.le_trans (List.erase_sublist.count_le _) once⟩
      · rintro ⟨removed,gone,alone⟩
        exact ⟨removed,gone,quiet alone⟩
    | succeeded =>
      simp only [Fits,phase,Call.after,Process.only] at fits ⊢
      exact ⟨fits.1,quiet fits.2.1,fits.2.2⟩
    | failed =>
      simp only [Fits,phase,Call.after,Process.only] at fits ⊢
      refine ⟨fits.1,fits.2.1,?_⟩
      show c.removed = if (c.created || false) then [call] else []
      rw [same]
      exact fits.2.2
  have handled (ok : answer = .ok) : decide (answer ≠ .ok) = false := by rw [ok]; rfl
  cases promise with
  | notifyClientSocket =>
    refine ⟨?_,.inl rfl,handled fine⟩
    dsimp only [settled]
    rw [handled fine]
    exact notifies
  | handleError =>
    refine ⟨?_,.inl rfl,handled fine⟩
    dsimp only [settled]
    rw [handled fine]
    exact notifies
  | removeOrgAgent =>
    obtain ⟨rfl,there⟩ := fine
    have effect : removal s call .ok = .removeOrgAgent := removal_effective nofun there
    have holds := removable_holds there
    dsimp only [settled]
    rw [effect,there]
    refine ⟨?_,.inr ⟨holds_own holds,fun _ => nofun⟩,rfl⟩
    cases phase : c.process.phase with
    | before =>
      rw [Fits,phase] at fits
      exact absurd pending fits.2.2.1
    | during =>
      rw [Fits,phase] at fits
      exact absurd pending fits.2.2.1
    | closing =>
      simp only [Fits,phase,Call.after] at fits ⊢
      obtain ⟨created,tenant,ways⟩ := fits
      rcases ways with ⟨removed,-,once⟩ | ⟨-,gone,-⟩
      · refine ⟨by rw [created]; rfl,tenant,.inr ⟨?_,(fun ⟨_,none_,_⟩ => nomatch none_),?_⟩⟩
        · rw [removed]
          rfl
        · intro left
          have more := List.count_pos_iff.mpr left
          rw [List.nil_append,List.count_erase_self] at more
          omega
      · exact absurd holds gone
    | succeeded =>
      rw [Fits,phase] at fits
      exact absurd pending fits.2.1
    | failed =>
      rw [Fits,phase] at fits
      exact absurd holds fits.2.1

theorem start_kept (kept : Kept s) (phase : process.phase = .before)
    (taken : s.start call process = some t) : Kept t := by
  unfold State.start at taken
  split at taken
  · rename_i unused
    cases taken
    obtain ⟨holds,tenant⟩ := kept.unused call unused
    refine ⟨?_,?_,kept.handled⟩
    · intro other c now
      by_cases same : other = call
      · subst same
        have is : process.begin = c :=
            Option.some.inj ((Function.update_self other (some process.begin) s.calls).symm.trans now)
        subst is
        rw [Fits,show process.begin.process.phase = .before from phase]
        exact ⟨rfl,rfl,nofun,holds,tenant⟩
      · exact kept.fits other c ((Function.update_of_ne same ..).symm.trans now)
    · intro other now
      by_cases same : other = call
      · subst same
        exact ⟨holds,tenant⟩
      · exact kept.unused other ((Function.update_of_ne same ..).symm.trans now)
  · cases taken

/-- A tidy step of any call keeps what each has. -/
theorem step_kept {a : Action} (kept : Kept s) (taken : step svc s a = some t) (tidy : Tidy s a) : Kept t := by
  cases a with
  | createTenant call dto user => exact start_kept kept rfl taken
  | walletProvision call dto user => exact start_kept kept rfl taken
  | advance call answer =>
    simp only [step] at taken
    split at taken
    · rename_i c now
      obtain ⟨o,ends,rfl⟩ := Option.map_eq_some_iff.mp taken
      have fits := kept.fits call c now
      have way := outcome_way ends
      obtain ⟨rows,handled⟩ := way_rows fits way (tidy c now)
      exact kept_after kept (way_fits fits way (tidy c now)) rows handled
    · cases taken
  | settle call promise answer =>
    simp only [step] at taken
    split at taken
    · rename_i c now
      split at taken
      · rename_i pending
        cases taken
        obtain ⟨fits,rows,handled⟩ := settled_fits (kept.fits call c now) pending tidy
        exact kept_after kept fits rows handled
      · cases taken
    · cases taken
  | platform agents =>
    cases taken
    exact ⟨kept.fits,kept.unused,kept.handled⟩

theorem unhandled_spoils (unhandled : o.unhandled = true) : ¬Clean svc (s.after call c o) := by
  intro clean
  have none_ : (if o.unhandled then call :: s.unhandled else s.unhandled) = [] := clean.handled
  rw [unhandled] at none_
  cases none_

theorem way_spoils (fits : Fits s call c) (way : Way s call answer c.process o) (not : ¬Fine s call answer c.process) :
    ¬Clean svc (s.after call c o) := by
  cases way with
  | unnoticed row started replies phase free id spoilt =>
    intro clean
    rw [Fits,phase] at fits
    have removed : c.removed = if (c.created || true) then [call] else [] := clean.removed call _ after_self rfl
    rw [fits.2.1,Bool.or_true] at removed
    cases removed
  | deletes started replies phase fine_iff =>
    intro clean
    rw [Fits,phase] at fits
    by_cases effective : answer ≠ .fails ∧ removable s call = true
    · -- the row is gone, and the tenant is there
      have tenant : call ∈ s.tenants := by
        by_contra none_
        exact not (fine_iff.mpr ⟨effective.1,effective.2,none_⟩)
      rw [removal_effective effective.1 effective.2] at clean
      obtain ⟨row,stored,-⟩ := clean.tenant call _ after_self rfl tenant
      cases stored
    · -- the row is not removed
      have nothing : removal s call answer = .nothing := by
        refine if_neg fun both => effective ?_
        rw [Bool.and_eq_true_iff,decide_eq_true_iff] at both
        exact both
      rw [nothing] at clean
      have removed : c.removed = if (c.created || false) then [call] else [] := clean.removed call _ after_self rfl
      rw [fits.2.1,fits.1] at removed
      cases removed
  | leaves replies spoilt => exact unhandled_spoils rfl
  | removes replies phase fine_iff =>
    refine unhandled_spoils ?_
    show (!(answer = .ok && removable s call)) = true
    rw [Bool.not_eq_true',← Bool.not_eq_true,Bool.and_eq_true_iff,decide_eq_true_iff]
    exact fun both => not (fine_iff.mpr both)
  | starts process started replies phase next quiet fine => exact absurd fine not
  | creates row process replies phase next free id fine => exact absurd fine not
  | goes effect process started replies phase next harmless spinup quiet fine => exact absurd fine not
  | catches effect process started replies phase spinup next harmless apart once fine => exact absurd fine not
  | closes process replies phase next fine => exact absurd fine not

/-- A step that is not tidy leaves something behind. -/
theorem step_spoils {a : Action} (kept : Kept s) (taken : step svc s a = some t) (not : ¬Tidy s a) : ¬Clean svc t := by
  cases a with
  | createTenant call dto user => exact absurd trivial not
  | walletProvision call dto user => exact absurd trivial not
  | advance call answer =>
    simp only [step] at taken
    split at taken
    · rename_i c now
      obtain ⟨o,ends,rfl⟩ := Option.map_eq_some_iff.mp taken
      refine way_spoils (kept.fits call c now) (outcome_way ends) fun fine => not ?_
      intro c' now'
      exact Option.some.inj (now.symm.trans now') ▸ fine
    · cases taken
  | settle call promise answer =>
    simp only [step] at taken
    split at taken
    · rename_i c now
      split at taken
      · cases taken
        refine unhandled_spoils ?_
        cases promise with
        | notifyClientSocket => exact decide_eq_true not
        | handleError => exact decide_eq_true not
        | removeOrgAgent =>
          show (!(answer = .ok && removable s call)) = true
          rw [Bool.not_eq_true',← Bool.not_eq_true,Bool.and_eq_true_iff,decide_eq_true_iff]
          exact not
      · cases taken
    · cases taken
  | platform agents => exact absurd trivial not

theorem initial_kept : Kept .initial where
  fits _ _ := nofun
  unused _ _ := ⟨(fun ⟨_,none_,_⟩ => nomatch none_),nofun⟩
  handled := rfl
/-- All along a run the failed provisionings have cleaned up exactly when its steps are tidy. -/
theorem clean_iff_tidy {actions : List Action} (reached : run (step svc) .initial actions = some t) :
    (∀ first rest u, actions = first ++ rest → run (step svc) .initial first = some u → Clean svc u) ↔
      Along (step svc) Tidy .initial actions :=
  wanted_iff_along (fun _ kept => kept.clean) (fun _ _ _ kept taken tidy => step_kept kept taken tidy)
    (fun _ _ _ kept taken not => step_spoils kept taken not) initial_kept reached
theorem tenantStep_replies (dto : TenantDto) (user : UserRequest) (at_ : TenantAwait) :
    (tenantStep s call answer dto user at_).replies = false := by
  cases at_ <;> simp only [tenantStep] <;> (repeat' split) <;> rfl
theorem spinupStep_replies (dto : AgentSpinupDto) (at_ : SpinupAwait) :
    (spinupStep svc s call answer dto at_).replies = false := by
  cases at_ <;> simp only [spinupStep,caughtStore] <;> (repeat' split) <;> rfl

theorem outcome_replies (ends : outcome svc s call answer p = some o) :
    (o.replies = true ↔ ∃ dto user userId,
      p = .walletProvision dto user (.createOrgAgent userId) ∧ answer = .ok ∧ createOrgAgent s call userId ≠ none) ∧
      (o.replies = true → (o.effect.row s.org_agents).map OrgAgent.agentSpinUpStatus = some .WALLET_CREATED) := by
  have none_ (quiet : o.replies = false)
      (apart : ∀ dto user userId, p = .walletProvision dto user (.createOrgAgent userId) →
      answer = .ok → createOrgAgent s call userId = none) :
      (o.replies = true ↔ ∃ dto user userId,
        p = .walletProvision dto user (.createOrgAgent userId) ∧ answer = .ok ∧ createOrgAgent s call userId ≠ none) ∧
        (o.replies = true → (o.effect.row s.org_agents).map OrgAgent.agentSpinUpStatus = some .WALLET_CREATED) := by
    rw [quiet]
    exact ⟨iff_of_false nofun fun ⟨dto,user,userId,is,ok,got⟩ => got (apart dto user userId is ok),nofun⟩
  cases p with
  | createTenant dto user at_ =>
    cases ends
    exact none_ (tenantStep_replies dto user at_) fun _ _ _ => nofun
  | walletProvision dto user at_ =>
    cases ends
    cases at_ with
    | createOrgAgent userId =>
      cases created : createOrgAgent s call userId with
      | none =>
        refine none_ (by simp only [provisionStep,created]; rfl) ?_
        rintro _ _ _ ⟨⟩ -
        exact created
      | some row =>
        cases answer with
        | ok =>
          have got : createOrgAgent s call userId ≠ none := by
            rw [created]
            exact nofun
          have replied : provisionStep svc s call .ok dto user (.createOrgAgent userId) =
              ⟨.createOrgAgent row,_agentSpinup svc dto,[],false,true⟩ := by
            simp only [provisionStep,created]
          rw [replied]
          exact ⟨iff_of_true rfl ⟨dto,user,userId,rfl,rfl,got⟩,fun _ => congrArg some (createOrgAgent_some created).2.2⟩
        | lost => exact none_ (by simp only [provisionStep,created]; rfl) fun _ _ _ _ => nofun
        | fails => exact none_ (by simp only [provisionStep,created]; rfl) fun _ _ _ _ => nofun
    | _ =>
      refine none_ ?_ fun _ _ _ => nofun
      simp only [provisionStep]
      (repeat' split) <;> rfl
  | agentSpinup dto at_ =>
    cases ends
    exact none_ (spinupStep_replies dto at_) fun _ _ _ => nofun
  | succeeded => cases ends
  | failed => cases ends

theorem reported_same (same : t.replies = s.replies) (reported : Reported s) : Reported t := by
  unfold Reported
  rw [same]
  exact reported
theorem start_replies (taken : s.start call process = some t) : t.replies = s.replies := by
  unfold State.start at taken
  split at taken
  · cases taken
    rfl
  · cases taken

/-- A step reports honestly exactly when the call ended as it says. -/
theorem step_reported {a : Action} (reported : Reported s) (taken : step svc s a = some t) :
    Reported t ↔ Honest s a := by
  cases a with
  | createTenant call dto user => exact iff_of_true (reported_same (start_replies taken) reported) trivial
  | walletProvision call dto user => exact iff_of_true (reported_same (start_replies taken) reported) trivial
  | advance call answer =>
    simp only [step] at taken
    split at taken
    · rename_i c now
      obtain ⟨o,ends,rfl⟩ := Option.map_eq_some_iff.mp taken
      obtain ⟨replies,status⟩ := outcome_replies ends
      by_cases replied : o.replies = true
      · refine iff_of_false (fun after => ?_) fun honest => ?_
        · have reply := after (call,(o.effect.row s.org_agents).map OrgAgent.agentSpinUpStatus)
            (by simp only [State.after,replied,if_true]; exact List.mem_cons_self)
          cases (status replied).symm.trans reply
        · obtain ⟨dto,user,userId,is,ok,got⟩ := replies.mp replied
          exact got (honest c dto user userId now is ok)
      · refine iff_of_true (reported_same (if_neg replied) reported) ?_
        intro c' dto user userId now' is ok
        by_contra got
        exact replied (replies.mpr ⟨dto,user,userId,Option.some.inj (now.symm.trans now') ▸ is,ok,got⟩)
    · cases taken
  | settle call promise answer =>
    refine iff_of_true (reported_same ?_ reported) trivial
    simp only [step] at taken
    split at taken
    · split at taken
      · cases taken
        cases promise <;> rfl
      · cases taken
    · cases taken
  | platform agents =>
    cases taken
    exact iff_of_true reported trivial

/-- All along a run every reply is true exactly when no `walletProvision` gets its row. -/
theorem reported_iff_honest {actions : List Action} (reached : run (step svc) .initial actions = some t) :
    (∀ first rest u, actions = first ++ rest → run (step svc) .initial first = some u → Reported u) ↔
      Along (step svc) Honest .initial actions :=
  always_iff_along (fun _ _ _ reported taken => step_reported reported taken) (fun _ => nofun) reached
/-- All along a run a failed provisioning leaves nothing behind and every reply is true, exactly when the steps are
    tidy and no `walletProvision` gets its row. -/
theorem provisioning_iff {actions : List Action} (reached : run (step svc) .initial actions = some t) :
    (∀ first rest u, actions = first ++ rest → run (step svc) .initial first = some u → Good svc u) ↔
      Along (step svc) Tidy .initial actions ∧ Along (step svc) Honest .initial actions := by
  rw [← clean_iff_tidy reached,← reported_iff_honest reached]
  constructor
  · exact fun good => ⟨fun first rest u split_ now => (good first rest u split_ now).clean,
      fun first rest u split_ now => (good first rest u split_ now).reported⟩
  · exact fun ⟨clean,reported⟩ first rest u split_ now =>
      ⟨clean first rest u split_ now,reported first rest u split_ now⟩

end

instance (s : State) (call : Nat) (answer : Answer) (p : Process) : Decidable (Fine s call answer p) := by
  unfold Fine
  split <;> infer_instance
instance (s : State) (call : Nat) (answer : Answer) (promise : Promise) :
    Decidable (FineAlone s call answer promise) := by
  unfold FineAlone
  split <;> infer_instance

instance (s : State) : (a : Action) → Decidable (Tidy s a)
  | .createTenant _ _ _ => isTrue trivial
  | .walletProvision _ _ _ => isTrue trivial
  | .advance call answer =>
    match now : s.calls call with
    | some c => decidable_of_iff (Fine s call answer c.process)
        ⟨fun fine _ now' => Option.some.inj (now.symm.trans now') ▸ fine,fun tidy => tidy c now⟩
    | none => isTrue fun _ other => nomatch now.symm.trans other
  | .settle call promise answer => inferInstanceAs (Decidable (FineAlone s call answer promise))
  | .platform _ => isTrue trivial

/-- The call that is about to store the row of `walletProvision`. -/
def Process.storesFor : Process → Option (Option String)
  | .walletProvision _ _ (.createOrgAgent userId) => some userId
  | _ => none

theorem storesFor_iff (p : Process) (userId : Option String) :
    p.storesFor = some userId ↔ ∃ dto user, p = .walletProvision dto user (.createOrgAgent userId) := by
  constructor
  · intro stores
    unfold Process.storesFor at stores
    split at stores
    · cases stores
      exact ⟨_,_,rfl⟩
    · cases stores
  · rintro ⟨dto,user,rfl⟩
    rfl

instance (s : State) : (a : Action) → Decidable (Honest s a)
  | .createTenant _ _ _ => isTrue trivial
  | .walletProvision _ _ _ => isTrue trivial
  | .advance call answer =>
    decidable_of_iff (∀ userId ∈ ((s.calls call).bind fun c => c.process.storesFor),
        answer = .ok → createOrgAgent s call userId = none)
      ⟨fun all c dto user userId now is ok => all userId (by rw [now]; exact (storesFor_iff _ _).mpr ⟨dto,user,is⟩) ok,
        fun honest userId there ok => by
          obtain ⟨c,now,stores⟩ := Option.bind_eq_some_iff.mp there
          obtain ⟨dto,user,is⟩ := (storesFor_iff _ _).mp stores
          exact honest c dto user userId now is ok⟩
  | .settle _ _ _ => isTrue trivial
  | .platform _ => isTrue trivial

def services : Services := ⟨fun _ => none,["Indicio Demonet"],String.capitalize⟩
def tenant : TenantDto := ⟨"wallet",some "socket"⟩
def admin : UserRequest := ⟨some "admin",some "admin"⟩
/-- The platform has no agent yet, so the first call fails and removes its row; then the agent is there, and the
    second has its tenant. -/
def secondTry : List Action :=
  [.createTenant 0 tenant admin,.advance 0 .ok,.advance 0 .ok,.advance 0 .ok,.advance 0 .ok,.advance 0 .ok,.advance 0 .ok,
    .settle 0 .handleError .ok,.platform [.DID_CREATED],.createTenant 1 tenant admin] ++ List.replicate 13
    (.advance 1 .ok)
theorem second_try_leaves_nothing : (run (step services) .initial secondTry).isSome = true ∧
    ∀ first rest u, secondTry = first ++ rest → run (step services) .initial first = some u → Good services u :=
  ⟨by decide +kernel,(provisioning_iff (Option.some_get (by decide +kernel)).symm).mpr (by decide +kernel)⟩
/-- The store of the tenant's details fails: the row is removed, the tenant stays. -/
def lateFailure : List Action :=
  .platform [.DID_CREATED] :: .createTenant 0 tenant admin :: List.replicate 11 (.advance 0 .ok) ++
    [.advance 0 .fails,.advance 0 .ok]

theorem tenant_without_row : ∃ t, run (step services) .initial lateFailure = some t ∧
    (t.calls 0).map Call.process = some .failed ∧ t.org_agents = none ∧ t.tenants = [0] ∧ ¬Good services t := by
  have left : (run (step services) .initial lateFailure).any (fun t => t.org_agents = none && t.tenants = [0] &&
      (t.calls 0).map Call.process = some .failed) = true := by
    decide +kernel
  obtain ⟨t,reached,left⟩ := Option.any_eq_true .. |>.mp left
  simp only [Bool.and_eq_true,decide_eq_true_eq] at left
  obtain ⟨⟨row,tenants⟩,failed⟩ := left
  refine ⟨t,reached,failed,row,tenants,fun good => ?_⟩
  obtain ⟨c,now,is⟩ := Option.map_eq_some_iff.mp failed
  obtain ⟨left,stored,-⟩ := good.clean.tenant 0 c now is (tenants ▸ List.mem_singleton_self 0)
  rw [row] at stored
  cases stored

end Ngotag.WalletProvisioning
