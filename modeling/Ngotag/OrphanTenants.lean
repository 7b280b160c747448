import Mathlib.Data.List.Nodup
import Mathlib.Data.List.Perm.Subperm
import Ngotag.CloudWallet

/-!
The tenants on the agents, and the sub-wallets that name them. `createCloudWallet` has the
tenant made before the row that the unique index may refuse; where the row is refused the
slot is given back and the tenant stays. `deleteCloudWallet` has the tenant deleted before
the row.

Whenever no call is in progress the tenants are those that rows name, and no more than the
base wallet may have, exactly when every row was stored and none is left whose deletion
failed (`tenants_iff`).
-/
namespace Ngotag.OrphanTenants
open Runs Await
open CloudWallet (Base Bases Sub Cmd Ret Failure Async TenantResponse Choice Input Record Sound Undisturbed Side Unbegun
  Holding Known Fresh Right mine perform ask release createTenant createCloudWallet deleteTenant deleteCloudWallet
  byAgentEndpoint)
open JsObject (truthy)

abbrev Tenant := Option String × String
def tenant (row : Sub) : Option Tenant := row.tenantId.map fun tenantId => (row.agentEndpoint,tenantId)

/-- Beside the database and the agents there is a record of what the calls are at: `named`
    has the tenants that a row ever named, `pending` those that a call had made and has
    not stored, `orphans` those whose row was refused, `halved` those that a call had
    deleted and whose row it has not, and `stuck` the rows whose deletion failed. -/
structure World where
  wallets : CloudWallet.World
  named : List Tenant
  pending : List (Nat × Tenant)
  orphans : List Tenant
  halved : List (Nat × Tenant)
  stuck : List Nat

def own (process : Nat) (entries : List (Nat × Tenant)) : List (Nat × Tenant) := entries.filter fun e => e.1 = process
def others (process : Nat) (entries : List (Nat × Tenant)) : List (Nat × Tenant) := entries.filter fun e => e.1 ≠ process
def World.at_ (w : World) (wallets : CloudWallet.World) : World := { w with wallets := wallets }
def World.posted (w : World) (process : Nat) (made : Option Tenant) : World :=
  { w with pending := (made.map fun x => (process,x)).toList ++ w.pending }
def World.stored (w : World) (process : Nat) (x : Tenant) : World :=
  { w with named := x :: w.named, pending := others process w.pending }
def World.refused (w : World) (process : Nat) (x : Tenant) : World :=
  { w with orphans := x :: w.orphans, pending := others process w.pending }
def World.removed (w : World) (process : Nat) (x : Tenant) : World := { w with halved := (process,x) :: w.halved }
def World.without (w : World) (process id : Nat) : World :=
  { w with halved := others process w.halved, stuck := w.stuck.filter (· ≠ id) }
def World.kept (w : World) (process id : Nat) : World :=
  { w with
    halved := others process w.halved
    stuck  := if (w.wallets.subs.any fun row => row.id = id) = true then id :: w.stuck else w.stuck }

/-- What the answer to a command says about the tenants. -/
def World.noted (w : World) (process : Nat) : (c : Cmd) → Except Failure (Ret c) → World
  | .httpPost agentEndpoint,.ok answer =>
      w.posted process ((answer.bind TenantResponse.id).map fun id => (some agentEndpoint,id))
  | .storeCloudWalletDetails _ agentEndpoint (some tenantId),.ok _ => w.stored process (agentEndpoint,tenantId)
  | .storeCloudWalletDetails _ agentEndpoint (some tenantId),.error _ => w.refused process (agentEndpoint,tenantId)
  | .httpDelete agentEndpoint tenantId,.ok true => w.removed process (agentEndpoint,tenantId)
  | .httpDelete agentEndpoint tenantId,.error .tenantNotFound => w.removed process (agentEndpoint,tenantId)
  | .deleteCloudWalletDetails id,.ok _ => w.without process id
  | .deleteCloudWalletDetails id,.error _ => w.kept process id
  | _,_ => w

def handle (bases : Bases) (process : Nat) (c : Cmd) (choice : Choice) (w : World) :
    Option (World × Except Failure (Ret c)) :=
  (CloudWallet.handle bases process c choice w.wallets).map fun outcome =>
    ((w.noted process c outcome.2).at_ outcome.1,outcome.2)
def program (_ : Nat) : Input → Async Unit
  | .create userId => createCloudWallet userId
  | .delete userId deleteHolder => deleteCloudWallet userId deleteHolder
def sys (bases : Bases) : System Cmd Ret Failure Unit World Choice Input Empty where
  handle := handle bases
  arrive _ _ w := some w
  program := program
  environment event _ := event.elim
def World.initial (wallets : CloudWallet.World) : World := ⟨wallets,wallets.subs.filterMap tenant,[],[],[],[]⟩

/-- The tenants on the agents are named by rows, made by calls that have not stored them,
    or orphans, and each row's tenant is there, deleted by a call that has not deleted the
    row, or of a row that is stuck. -/
structure Tracked (bases : Bases) (w : World) : Prop where
  named : ∀ row ∈ w.wallets.subs, ∃ x ∈ w.named, tenant row = some x
  single : ∀ a ∈ w.wallets.subs, ∀ b ∈ w.wallets.subs, tenant a = tenant b → a.id = b.id
  used : ∀ x ∈ w.named ++ w.wallets.agent, x ∈ w.wallets.used
  agent : w.wallets.agent.Nodup
  there : ∀ x ∈ w.wallets.agent, (∃ row ∈ w.wallets.subs, tenant row = some x) ∨
      x ∈ w.pending.map Prod.snd ∨ x ∈ w.orphans
  processes : (w.pending.map Prod.fst).Nodup
  tenants : (w.pending.map Prod.snd).Nodup
  pending : ∀ e ∈ w.pending, e.2 ∈ w.wallets.agent ∧ e.2 ∉ w.named ∧
    ∃ base ∈ bases.rows, (truthy base.agentEndpoint).isSome = true ∧ e.2.1 = base.agentEndpoint ∧
    (e.1,base.id) ∈ w.wallets.slots
  orphans : ∀ x ∈ w.orphans, x ∈ w.wallets.agent ∧ x ∉ w.named ∧ x ∉ w.pending.map Prod.snd
  rows : ∀ row ∈ w.wallets.subs, ∀ x, tenant row = some x → x ∈ w.wallets.agent ∨ x ∈ w.halved.map Prod.snd ∨
      row.id ∈ w.stuck
  stuck : ∀ id ∈ w.stuck, ∃ row ∈ w.wallets.subs, row.id = id ∧ ∃ x, tenant row = some x ∧ x ∉ w.wallets.agent

/-- What the others leave to a process: its entries, and who names a tenant. -/
structure Aside (process : Nat) (a b : World) : Prop where
  wallets : Undisturbed process a.wallets b.wallets
  pending : own process b.pending = own process a.pending
  halved : own process b.halved = own process a.halved
  named : ∀ x ∈ a.named, x ∈ b.named
  rows : ∀ x ∈ a.named, ∀ row ∈ b.wallets.subs, tenant row = some x → ∃ old ∈ a.wallets.subs, old.id = row.id ∧
      tenant old = some x
/-- The agent answers every request, and only what is written to the database may fail. -/
def Served (c : Cmd) (choice : Choice) : Prop :=
  match c with
  | .checkAgentHealth => choice.fails = false ∧ choice.done = true
  | .httpPost _ => choice.fails = false ∧ choice.empty = false ∧ choice.tenant.isSome = true
  | .httpDelete _ _ => choice.fails = false ∧ choice.empty = false
  | c => c.writes = false → choice.fails = false
/-- The call has made or deleted no tenant without a row. -/
def Done (process : Nat) (w : World) : Prop := own process w.pending = [] ∧ own process w.halved = []
def contract (bases : Bases) (right : Prop) : Contract Cmd World Choice Empty where
  inv w := Sound bases right w.wallets ∧ Tracked bases w
  rely := Aside
  idle process w := Unbegun process w.wallets ∧ Done process w
  allowed _ c choice _ := Served c choice
  happens _ _ := True

section
variable {bases : Bases} {right : Prop} {process other : Nat} {a b w : World} {after : CloudWallet.World}
    {choice : Choice}

variable {entries : List (Nat × Tenant)} {e : Nat × Tenant}
theorem mem_own : e ∈ own process entries ↔ e ∈ entries ∧ e.1 = process := by
  simp [own]
theorem mem_others : e ∈ others process entries ↔ e ∈ entries ∧ e.1 ≠ process := by
  simp [others]
theorem own_settled (entries : List (Nat × Tenant)) : own process (others process entries) = [] := by
  rw [own,List.filter_eq_nil_iff]
  intro e there
  simpa using (mem_others.mp there).2
theorem own_others (different : other ≠ process) (entries : List (Nat × Tenant)) :
    own other (others process entries) = own other entries := by
  rw [own,others,List.filter_filter]
  refine List.filter_congr fun e _ => ?_
  by_cases same : e.1 = other
  · simp [same,different]
  · simp [same]
theorem own_cons (different : other ≠ process) (x : Tenant) (entries : List (Nat × Tenant)) :
    own other ((process,x) :: entries) = own other entries := by
  simp [own,Ne.symm different]
theorem own_first (x : Tenant) (entries : List (Nat × Tenant)) :
    own process ((process,x) :: entries) = (process,x) :: own process entries := by
  simp [own]

variable {x : Tenant}
theorem own_single (held : own process entries = [(process,x)])
    (there : e ∈ entries) (mine_ : e.1 = process) : e = (process,x) := by
  have listed := mem_own.mpr ⟨there,mine_⟩
  rw [held] at listed
  exact List.mem_singleton.mp listed
theorem mem_single (held : own process entries = [(process,x)]) : (process,x) ∈ entries :=
  (mem_own.mp (held ▸ List.mem_singleton_self _)).1
theorem entry_unique (tenants : (entries.map Prod.snd).Nodup) {e f : Nat × Tenant} (first : e ∈ entries)
    (second : f ∈ entries) (same : e.2 = f.2) : e = f :=
  List.inj_on_of_nodup_map tenants first second same

theorem tracked_wallets (tracked : Tracked bases w) (subs : after.subs = w.wallets.subs)
    (agent : after.agent = w.wallets.agent)
    (used : after.used = w.wallets.used)
    (slots : ∀ e ∈ w.pending, ∀ id, (e.1,id) ∈ w.wallets.slots → (e.1,id) ∈ after.slots) :
    Tracked bases (w.at_ after) := by
  constructor
  case pending =>
    intro e there
    obtain ⟨alive,unnamed,base,listed,some_,endpoint,slot⟩ := tracked.pending e there
    exact ⟨agent ▸ alive,unnamed,base,listed,some_,endpoint,slots e there _ slot⟩
  all_goals simp only [World.at_,subs,agent,used]
  · exact tracked.named
  · exact tracked.single
  · exact tracked.used
  · exact tracked.agent
  · exact tracked.there
  · exact tracked.processes
  · exact tracked.tenants
  · exact tracked.orphans
  · exact tracked.rows
  · exact tracked.stuck

theorem tracked_posted (tracked : Tracked bases w) (new : x ∉ w.wallets.used) (none_ : own process w.pending = [])
    (slot : ∃ base ∈ bases.rows, (truthy base.agentEndpoint).isSome = true ∧ x.1 = base.agentEndpoint ∧
      (process,base.id) ∈ w.wallets.slots) :
    Tracked bases ((w.posted process (some x)).at_ (w.wallets.posted process [x] [x])) := by
  have absent : x ∉ w.wallets.agent := fun alive => new (tracked.used x (List.mem_append_right _ alive))
  have unnamed : x ∉ w.named := fun named => new (tracked.used x (List.mem_append_left _ named))
  have fresh : x ∉ w.pending.map Prod.snd := fun listed => by
    obtain ⟨e,there,rfl⟩ := List.mem_map.mp listed
    exact absent (tracked.pending e there).1
  refine ⟨tracked.named,tracked.single,?_,List.nodup_cons.mpr ⟨absent,tracked.agent⟩,?_,
      List.nodup_cons.mpr ⟨?_,tracked.processes⟩,
    List.nodup_cons.mpr ⟨fresh,tracked.tenants⟩,?_,?_,?_,?_⟩
  · intro y there
    rcases List.mem_append.mp there with named | alive
    · exact List.mem_cons_of_mem _ (tracked.used y (List.mem_append_left _ named))
    · rcases List.mem_cons.mp alive with rfl | alive
      · exact List.mem_cons_self
      · exact List.mem_cons_of_mem _ (tracked.used y (List.mem_append_right _ alive))
  · intro y there
    rcases List.mem_cons.mp there with rfl | alive
    · exact .inr (.inl List.mem_cons_self)
    · exact (tracked.there y alive).imp_right fun rest => rest.imp_left (List.mem_cons_of_mem _)
  · intro listed
    obtain ⟨e,there,mine_⟩ := List.mem_map.mp listed
    have entry : e ∈ own process w.pending := mem_own.mpr ⟨there,mine_⟩
    rw [none_] at entry
    cases entry
  · intro e there
    rcases List.mem_cons.mp there with rfl | there
    · exact ⟨List.mem_cons_self,unnamed,slot⟩
    · obtain ⟨alive,unnamed,slot⟩ := tracked.pending e there
      exact ⟨List.mem_cons_of_mem _ alive,unnamed,slot⟩
  · intro y there
    obtain ⟨alive,unnamed,apart⟩ := tracked.orphans y there
    refine ⟨List.mem_cons_of_mem _ alive,unnamed,fun listed => ?_⟩
    rcases List.mem_cons.mp listed with rfl | listed
    · exact absent alive
    · exact apart listed
  · exact fun row there y names => (tracked.rows row there y names).imp_left (List.mem_cons_of_mem _)
  · intro id there
    obtain ⟨row,listed,same,y,names,dead⟩ := tracked.stuck id there
    refine ⟨row,listed,same,y,names,fun alive => ?_⟩
    obtain ⟨z,named,names'⟩ := tracked.named row listed
    rcases List.mem_cons.mp alive with rfl | alive
    · exact unnamed (Option.some.inj (names.symm.trans names') ▸ named)
    · exact dead alive

variable {row : Sub}
theorem tracked_stored (tracked : Tracked bases w) (names : tenant row = some x)
    (held : own process w.pending = [(process,x)]) :
    Tracked bases ((w.stored process x).at_ (w.wallets.stored process row)) := by
  have mine_ := mem_single held
  obtain ⟨alive,unnamed,-⟩ := tracked.pending _ mine_
  -- Nobody else has the tenant.
  have apart {e : Nat × Tenant} (there : e ∈ others process w.pending) : e ∈ w.pending ∧ e.1 ≠ process ∧ e.2 ≠ x := by
    obtain ⟨there,different⟩ := mem_others.mp there
    exact ⟨there,different,fun same => different (congrArg Prod.fst (entry_unique tracked.tenants there mine_ same))⟩
  have before {old : Sub} (there : old ∈ w.wallets.subs) : tenant old ≠ some x := fun names' => by
    obtain ⟨y,named,names''⟩ := tracked.named old there
    exact unnamed (Option.some.inj (names''.symm.trans names') ▸ named)
  refine ⟨?_,?_,?_,tracked.agent,?_,?_,?_,?_,?_,?_,?_⟩
  · intro old there
    rcases List.mem_cons.mp there with rfl | there
    · exact ⟨x,List.mem_cons_self,names⟩
    · obtain ⟨y,named,names'⟩ := tracked.named old there
      exact ⟨y,List.mem_cons_of_mem _ named,names'⟩
  · intro c first d second same
    rcases List.mem_cons.mp first with rfl | first' <;> rcases List.mem_cons.mp second with rfl | second'
    · rfl
    · exact absurd (same.symm.trans names) (before second')
    · exact absurd (same.trans names) (before first')
    · exact tracked.single c first' d second' same
  · intro y there
    rcases List.mem_append.mp there with named | alive'
    · rcases List.mem_cons.mp named with rfl | named
      · exact tracked.used _ (List.mem_append_right _ alive)
      · exact tracked.used y (List.mem_append_left _ named)
    · exact tracked.used y (List.mem_append_right _ alive')
  · intro y there
    rcases tracked.there y there with ⟨old,listed,names'⟩ | listed | orphan
    · exact .inl ⟨old,List.mem_cons_of_mem _ listed,names'⟩
    · obtain ⟨e,entry,rfl⟩ := List.mem_map.mp listed
      by_cases same : e.1 = process
      · obtain rfl := own_single held entry same
        exact .inl ⟨row,List.mem_cons_self,names⟩
      · exact .inr (.inl (List.mem_map_of_mem (mem_others.mpr ⟨entry,same⟩)))
    · exact .inr (.inr orphan)
  · exact tracked.processes.sublist (List.filter_sublist.map _)
  · exact tracked.tenants.sublist (List.filter_sublist.map _)
  · intro e there
    obtain ⟨there,different,other_⟩ := apart there
    obtain ⟨alive',unnamed',base,listed,some_,endpoint,slot⟩ := tracked.pending e there
    refine ⟨alive',fun named => ?_,base,listed,some_,endpoint,List.mem_filter.mpr ⟨slot,by simpa using different⟩⟩
    rcases List.mem_cons.mp named with same | named
    · exact other_ same
    · exact unnamed' named
  · intro y there
    obtain ⟨alive',unnamed',apart'⟩ := tracked.orphans y there
    refine ⟨alive',fun named => ?_,fun listed => apart' ((List.filter_sublist.map _).subset listed)⟩
    rcases List.mem_cons.mp named with rfl | named
    · exact apart' (List.mem_map_of_mem mine_)
    · exact unnamed' named
  · intro old there y names'
    rcases List.mem_cons.mp there with rfl | there
    · exact .inl (Option.some.inj (names.symm.trans names') ▸ alive)
    · exact tracked.rows old there y names'
  · intro id there
    obtain ⟨old,listed,rest⟩ := tracked.stuck id there
    exact ⟨old,List.mem_cons_of_mem _ listed,rest⟩

theorem tracked_refused (tracked : Tracked bases w) (held : own process w.pending = [(process,x)]) :
    Tracked bases ((w.refused process x).at_ w.wallets) := by
  have mine_ := mem_single held
  obtain ⟨alive,unnamed,-⟩ := tracked.pending _ mine_
  have fewer : ∀ y, y ∈ (others process w.pending).map Prod.snd → y ∈ w.pending.map Prod.snd :=
    fun _ listed => (List.filter_sublist.map _).subset listed
  refine ⟨tracked.named,tracked.single,tracked.used,tracked.agent,?_,tracked.processes.sublist (List.filter_sublist.map _),
    tracked.tenants.sublist (List.filter_sublist.map _),fun e there =>
    tracked.pending e (mem_others.mp there).1,?_,tracked.rows,tracked.stuck⟩
  · intro y there
    rcases tracked.there y there with row | listed | orphan
    · exact .inl row
    · obtain ⟨e,entry,rfl⟩ := List.mem_map.mp listed
      by_cases same : e.1 = process
      · obtain rfl := own_single held entry same
        exact .inr (.inr List.mem_cons_self)
      · exact .inr (.inl (List.mem_map_of_mem (mem_others.mpr ⟨entry,same⟩)))
    · exact .inr (.inr (List.mem_cons_of_mem _ orphan))
  · intro y there
    rcases List.mem_cons.mp there with rfl | there
    · refine ⟨alive,unnamed,fun listed => ?_⟩
      obtain ⟨e,there,same⟩ := List.mem_map.mp listed
      obtain ⟨there,different⟩ := mem_others.mp there
      exact different (congrArg Prod.fst (entry_unique tracked.tenants there mine_ same))
    · obtain ⟨alive',unnamed',apart⟩ := tracked.orphans y there
      exact ⟨alive',unnamed',fun listed => apart (fewer y listed)⟩

theorem tracked_removed (tracked : Tracked bases w) (named : x ∈ w.named)
    (moved : after = w.wallets ∨ after = w.wallets.removed x.1 x.2) (gone : x ∉ after.agent) :
    Tracked bases ((w.removed process x).at_ after) := by
  have alive (y : Tenant) : y ∈ after.agent ↔ y ∈ w.wallets.agent ∧ y ≠ x := by
    rcases moved with rfl | rfl
    · exact ⟨fun there => ⟨there,fun same => gone (same ▸ there)⟩,And.left⟩
    · simp [CloudWallet.World.removed]
  have agent : after.agent.Sublist w.wallets.agent := by
    rcases moved with rfl | rfl
    · exact List.Sublist.refl _
    · exact List.filter_sublist
  have rest : after.subs = w.wallets.subs ∧ after.used = w.wallets.used ∧ after.slots = w.wallets.slots := by
    rcases moved with rfl | rfl <;> exact ⟨rfl,rfl,rfl⟩
  obtain ⟨subs,used,slots⟩ := rest
  constructor
  case pending =>
    intro e there
    obtain ⟨alive',unnamed,slot⟩ := tracked.pending e there
    exact ⟨(alive _).mpr ⟨alive',fun same => unnamed (same ▸ named)⟩,unnamed,by simpa only [World.at_,slots] using slot⟩
  all_goals simp only [World.at_,World.removed,subs,used]
  · exact tracked.named
  · exact tracked.single
  · intro y there
    rcases List.mem_append.mp there with named | there
    · exact tracked.used y (List.mem_append_left _ named)
    · exact tracked.used y (List.mem_append_right _ (agent.subset there))
  · exact tracked.agent.sublist agent
  · exact fun y there => tracked.there y (agent.subset there)
  · exact tracked.processes
  · exact tracked.tenants
  · intro y there
    obtain ⟨alive',unnamed,apart⟩ := tracked.orphans y there
    exact ⟨(alive y).mpr ⟨alive',fun same => unnamed (same ▸ named)⟩,unnamed,apart⟩
  · intro row listed y names
    rcases tracked.rows row listed y names with alive' | halved | stuck
    · by_cases same : y = x
      · exact .inr (.inl (same ▸ List.mem_cons_self))
      · exact .inl ((alive y).mpr ⟨alive',same⟩)
    · exact .inr (.inl (List.mem_cons_of_mem _ halved))
    · exact .inr (.inr stuck)
  · intro id there
    obtain ⟨row,listed,same,y,names,dead⟩ := tracked.stuck id there
    exact ⟨row,listed,same,y,names,fun alive' => dead (agent.subset alive')⟩

/-- The deletion is at the row with the key: the tenant that it names is gone, and no
    other row names it. -/
structure Halfway (process id : Nat) (x : Tenant) (w : World) : Prop where
  held : own process w.halved = [(process,x)]
  named : x ∈ w.named
  gone : x ∉ w.wallets.agent
  rows : ∀ row ∈ w.wallets.subs, tenant row = some x ↔ row.id = id

theorem tracked_without (tracked : Tracked bases w) (half : Halfway process row.id x w) :
    Tracked bases ((w.without process row.id).at_ (w.wallets.without process bases row)) := by
  have left {old : Sub} (there : old ∈ w.wallets.subs.filter fun other => other.id ≠ row.id) : old ∈ w.wallets.subs ∧
      old.id ≠ row.id := by
    simpa using there
  have stays {old : Sub} (there : old ∈ w.wallets.subs) (different : old.id ≠ row.id) :
      old ∈ w.wallets.subs.filter fun other => other.id ≠ row.id := by
    simpa using ⟨there,different⟩
  refine ⟨fun old there => tracked.named old (left there).1,fun c first d second => tracked.single c (left first).1 d
      (left second).1,
    tracked.used,tracked.agent,?_,tracked.processes,tracked.tenants,?_,tracked.orphans,?_,?_⟩
  · intro y there
    rcases tracked.there y there with ⟨old,listed,names⟩ | rest
    · refine .inl ⟨old,stays listed fun same => ?_,names⟩
      have gone := Option.some.inj (names.symm.trans ((half.rows old listed).mpr same))
      exact half.gone (gone ▸ there)
    · exact .inr rest
  · intro e there
    obtain ⟨alive,unnamed,base,listed,some_,endpoint,slot⟩ := tracked.pending e there
    exact ⟨alive,unnamed,base,listed,some_,endpoint,List.mem_append_right _ slot⟩
  · intro old there y names
    obtain ⟨listed,different⟩ := left there
    rcases tracked.rows old listed y names with alive | halved | stuck
    · exact .inl alive
    · obtain ⟨e,entry,rfl⟩ := List.mem_map.mp halved
      by_cases mine_ : e.1 = process
      · obtain rfl := own_single half.held entry mine_
        exact absurd ((half.rows old listed).mp names) different
      · exact .inr (.inl (List.mem_map_of_mem (mem_others.mpr ⟨entry,mine_⟩)))
    · exact .inr (.inr (List.mem_filter.mpr ⟨stuck,by simpa using different⟩))
  · intro id there
    obtain ⟨stuck,different⟩ := List.mem_filter.mp there
    obtain ⟨old,listed,rfl,rest⟩ := tracked.stuck id stuck
    exact ⟨old,stays listed (by simpa using different),rfl,rest⟩

theorem mem_kept {id other : Nat} : other ∈ (w.kept process id).stuck ↔
    other ∈ w.stuck ∨ other = id ∧ ∃ row ∈ w.wallets.subs, row.id = id := by
  unfold World.kept
  dsimp only
  split
  · rename_i present
    obtain ⟨row,listed,same⟩ := List.any_eq_true.mp present
    have there : ∃ row ∈ w.wallets.subs, row.id = id := ⟨row,listed,by simpa using same⟩
    rw [List.mem_cons,or_comm]
    exact or_congr_right (and_iff_left there).symm
  · rename_i absent
    refine (or_iff_left fun added => absent ?_).symm
    obtain ⟨-,row,listed,same⟩ := added
    exact List.any_eq_true.mpr ⟨row,listed,by simpa using same⟩

theorem tracked_kept (tracked : Tracked bases w) {id : Nat} (half : Halfway process id x w) :
    Tracked bases ((w.kept process id).at_ w.wallets) := by
  refine ⟨tracked.named,tracked.single,tracked.used,tracked.agent,tracked.there,tracked.processes,tracked.tenants,
      tracked.pending,
    tracked.orphans,?_,?_⟩
  · intro row listed y names
    rcases tracked.rows row listed y names with alive | halved | stuck
    · exact .inl alive
    · obtain ⟨e,entry,rfl⟩ := List.mem_map.mp halved
      by_cases mine_ : e.1 = process
      · obtain rfl := own_single half.held entry mine_
        have same := (half.rows row listed).mp names
        exact .inr (.inr (mem_kept.mpr (.inr ⟨same,row,listed,same⟩)))
      · exact .inr (.inl (List.mem_map_of_mem (mem_others.mpr ⟨entry,mine_⟩)))
    · exact .inr (.inr (mem_kept.mpr (.inl stuck)))
  · intro other there
    rcases mem_kept.mp there with stuck | ⟨rfl,row,listed,same⟩
    · exact tracked.stuck other stuck
    · exact ⟨row,listed,same,x,(half.rows row listed).mpr same,half.gone⟩

theorem aside_refl : Aside process a a :=
  ⟨CloudWallet.undisturbed_refl,rfl,rfl,fun _ => id,fun _ _ row there names => ⟨row,there,rfl,names⟩⟩
theorem aside_trans {c : World} (first : Aside process a b) (second : Aside process b c) : Aside process a c := by
  refine ⟨CloudWallet.undisturbed_trans first.wallets second.wallets,second.pending.trans first.pending,
    second.halved.trans first.halved,fun x there =>
    second.named x (first.named x there),fun x there row listed names => ?_⟩
  obtain ⟨old,listed,same,names⟩ := second.rows x (first.named x there) row listed names
  obtain ⟨older,listed,same',names⟩ := first.rows x there old listed names
  exact ⟨older,listed,same'.trans same,names⟩
theorem aside_fewer (moved : Undisturbed other w.wallets b.wallets) (pending : own other b.pending = own other w.pending)
    (halved : own other b.halved = own other w.halved) (named : b.named = w.named)
    (rows : b.wallets.subs ⊆ w.wallets.subs) :
    Aside other w b :=
  ⟨moved,pending,halved,fun _ there => named ▸ there,fun _ _ row there names => ⟨row,rows there,rfl,names⟩⟩
theorem aside_stored (tracked : Tracked bases w) (names : tenant row = some x)
    (held : own process w.pending = [(process,x)]) (different : other ≠ process)
    (moved : Undisturbed other w.wallets (w.wallets.stored process row)) :
    Aside other w ((w.stored process x).at_ (w.wallets.stored process row)) := by
  refine ⟨moved,own_others different _,rfl,fun _ there => List.mem_cons_of_mem _ there,
      fun y there old listed names' => ?_⟩
  rcases List.mem_cons.mp listed with rfl | listed
  · have same : x = y := Option.some.inj (names.symm.trans names')
    exact absurd (same ▸ there) (tracked.pending _ (mem_single held)).2.1
  · exact ⟨old,listed,rfl,names'⟩
theorem handle_cases {c : Cmd} {answer : Except Failure (Ret c)}
    (handled : handle bases process c choice w = some (b,answer)) :
    ∃ after, CloudWallet.handle bases process c choice w.wallets = some (after,answer) ∧
    b = (w.noted process c answer).at_ after := by
  obtain ⟨outcome,done,same⟩ := Option.map_eq_some_iff.mp handled
  obtain ⟨rfl,rfl⟩ := Prod.mk.inj same
  exact ⟨outcome.1,done,rfl⟩

theorem post_served {v : CloudWallet.World} {agentEndpoint : String} {answer : Except Failure (Option TenantResponse)}
    (served : Served (.httpPost agentEndpoint) choice)
    (handled : CloudWallet.postTenant process choice v agentEndpoint = some (after,answer)) :
    ∃ id, (some agentEndpoint,id) ∉ v.used ∧ after = v.posted process [(some agentEndpoint,id)]
        [(some agentEndpoint,id)] ∧
      answer = .ok (some ⟨some id⟩) := by
  obtain ⟨succeeds,filled,some_⟩ := served
  obtain ⟨id,made⟩ := Option.isSome_iff_exists.mp some_
  simp only [CloudWallet.postTenant,made,succeeds,filled,Option.map_some,Option.toList_some,Bool.false_eq_true,
      false_and,if_false] at handled
  split at handled
  · cases handled
  · rename_i new
    obtain ⟨rfl,rfl⟩ := Prod.mk.inj (Option.some.inj handled)
    exact ⟨id,by simpa using new,rfl,rfl⟩

theorem delete_served {v : CloudWallet.World} {agentEndpoint : Option String} {tenantId : String}
    {answer : Except Failure Bool}
    (served : Served (.httpDelete agentEndpoint tenantId) choice)
    (handled : CloudWallet.removeTenant choice v agentEndpoint tenantId = some (after,answer)) :
    answer = .ok true ∨ answer = .error .tenantNotFound := by
  obtain ⟨succeeds,filled⟩ := served
  simp only [CloudWallet.removeTenant,succeeds,filled,Bool.false_eq_true,if_false] at handled
  split at handled
  · obtain ⟨-,rfl⟩ := Prod.mk.inj (Option.some.inj handled)
    exact .inr rfl
  · obtain ⟨-,rfl⟩ := Prod.mk.inj (Option.some.inj handled)
    exact .inl rfl

/-- What a command asks of its process about the tenants. -/
def Own (bases : Bases) (process : Nat) (c : Cmd) (w : World) : Prop :=
  match c with
  | .httpPost agentEndpoint => own process w.pending = [] ∧ ∃ base ∈ bases.rows,
      (truthy base.agentEndpoint).isSome = true ∧
      some agentEndpoint = base.agentEndpoint ∧ (process,base.id) ∈ w.wallets.slots
  | .storeCloudWalletDetails _ agentEndpoint tenantId =>
      ∃ id, tenantId = some id ∧ own process w.pending = [(process,(agentEndpoint,id))]
  | .decrementBaseWalletUseCount _ => own process w.pending = []
  | .httpDelete agentEndpoint tenantId => (agentEndpoint,tenantId) ∈ w.named
  | .deleteCloudWalletDetails id => ∃ x, Halfway process id x w
  | .deleteUserAndRelatedData _ => False
  | _ => True

theorem handle_safe {c : Cmd} {answer : Except Failure (Ret c)} (sound : Sound bases right w.wallets)
    (tracked : Tracked bases w)
    (side : Side bases process c w.wallets) (own_ : Own bases process c w) (served : Served c choice)
    (handled : CloudWallet.handle bases process c choice w.wallets = some (after,answer)) :
    (Sound bases right after ∧ Tracked bases ((w.noted process c answer).at_ after)) ∧
      ∀ other, other ≠ process → Aside other w ((w.noted process c answer).at_ after) := by
  obtain ⟨kept,moved⟩ := CloudWallet.handle_safe sound side handled
  have same : after = w.wallets → w.noted process c answer = w →
      (Sound bases right after ∧ Tracked bases ((w.noted process c answer).at_ after)) ∧
        ∀ other, other ≠ process → Aside other w ((w.noted process c answer).at_ after) := by
    rintro rfl plain
    rw [plain]
    exact ⟨⟨kept,tracked⟩,fun _ _ => aside_refl⟩
  cases c with
  | elsewhere what => exact same (lookedUp_cases handled).1 (by cases answer <;> rfl)
  | checkUserExist userId => exact same (lookedUp_cases handled).1 (by cases answer <;> rfl)
  | getAvailableBaseWallet => exact same (lookedUp_cases handled).1 (by cases answer <;> rfl)
  | checkAgentHealth => exact same (lookedUp_cases handled).1 (by cases answer <;> rfl)
  | getCloudSubWallet userId => exact same (lookedUp_cases handled).1 (by cases answer <;> rfl)
  | getBaseWalletByAgentEndpoint agentEndpoint => exact same (lookedUp_cases handled).1 (by cases answer <;> rfl)
  | claimBaseWalletCapacity walletId maxSubWallets =>
    have plain : w.noted process (.claimBaseWalletCapacity walletId maxSubWallets) answer = w := by cases answer <;> rfl
    rcases CloudWallet.claim_cases handled with ⟨nothing,-⟩ | ⟨rfl,-,-⟩
    · exact same nothing plain
    · rw [plain]
      exact ⟨⟨kept,tracked_wallets tracked rfl rfl rfl fun _ _ _ slot => List.mem_cons_of_mem _ slot⟩,
        fun other different => aside_fewer (moved other different) rfl rfl rfl fun _ there => there⟩
  | httpPost agentEndpoint =>
    obtain ⟨none_,base,listed,some_,endpoint,slot⟩ := own_
    obtain ⟨id,new,rfl,rfl⟩ := post_served served handled
    exact ⟨⟨kept,tracked_posted tracked new none_ ⟨base,listed,some_,endpoint,slot⟩⟩,
      fun other different => aside_fewer (moved other different) (own_cons different _ _) rfl rfl fun _ there => there⟩
  | storeCloudWalletDetails userId agentEndpoint tenantId =>
    obtain ⟨id,rfl,held⟩ := own_
    rcases CloudWallet.store_cases handled with ⟨rfl,rfl⟩ | ⟨row,rfl,rfl,-,rfl,named⟩
    · exact ⟨⟨kept,tracked_refused tracked held⟩,
        fun other different => aside_fewer (moved other different) (own_others different _) rfl rfl fun _ there => there⟩
    · have names : tenant row = some (row.agentEndpoint,id) := by rw [tenant,named]; rfl
      exact ⟨⟨kept,tracked_stored tracked names held⟩,fun other different => aside_stored tracked names held different
          (moved other different)⟩
  | decrementBaseWalletUseCount walletId =>
    have plain : w.noted process (.decrementBaseWalletUseCount walletId) answer = w := by cases answer <;> rfl
    rcases CloudWallet.decrement_cases handled with ⟨nothing,-⟩ | rfl
    · exact same nothing plain
    · rw [plain]
      refine ⟨⟨kept,tracked_wallets tracked rfl rfl rfl fun e there id slot => List.mem_filter.mpr ⟨slot,?_⟩⟩,
        fun other different => aside_fewer (moved other different) rfl rfl rfl fun _ there => there⟩
      have different : e.1 ≠ process := fun mine_ => by
        have entry := mem_own.mpr ⟨there,mine_⟩
        rw [own_] at entry
        cases entry
      simpa using different
  | httpDelete agentEndpoint tenantId =>
    have answers := delete_served served handled
    have removed : w.noted process (.httpDelete agentEndpoint tenantId) answer = w.removed process
        (agentEndpoint,tenantId) := by
      rcases answers with rfl | rfl <;> rfl
    obtain ⟨moved_,gone⟩ := CloudWallet.removeTenant_cases handled
    rw [removed]
    refine ⟨⟨kept,tracked_removed tracked own_ moved_ (gone answers)⟩,fun other different =>
      aside_fewer (moved other different) rfl (own_cons different _ _) rfl ?_⟩
    rcases moved_ with rfl | rfl <;> exact fun _ there => there
  | deleteCloudWalletDetails id =>
    obtain ⟨x,half⟩ := own_
    rcases CloudWallet.deleteRow_cases handled with ⟨rfl,rfl⟩ | ⟨row,there,rfl,rfl,rfl⟩
    · exact ⟨⟨kept,tracked_kept tracked half⟩,
        fun other different => aside_fewer (moved other different) rfl (own_others different _) rfl fun _ there => there⟩
    · exact ⟨⟨kept,tracked_without tracked half⟩,fun other different =>
        aside_fewer (moved other different) rfl (own_others different _) rfl fun _ there => List.mem_of_mem_filter there⟩
  | deleteUserAndRelatedData userId => exact own_.elim

variable {P : World → Prop}
theorem wp_command {c : Cmd} {Q : Except Failure (Ret c) → World → Prop}
    (stable : ∀ a b, P a → Aside process a b → P b)
    (side : ∀ w, Sound bases right w.wallets → Tracked bases w → P w → Side bases process c w.wallets ∧ Own bases process c w)
    (ends : ∀ w choice after answer, Sound bases right w.wallets → Tracked bases w → P w → Served c choice →
      CloudWallet.handle bases process c choice w.wallets = some (after,answer) →
      Q answer ((w.noted process c answer).at_ after))
    (now : P w) : wp (sys bases) (contract bases right) process (perform c) Q w := by
  apply wp_call
  rintro before relied ⟨sound,tracked⟩ choice after answer served handled
  obtain ⟨moved,done,rfl⟩ := handle_cases handled
  have held := stable w before now relied
  obtain ⟨side_,own_⟩ := side before sound tracked held
  obtain ⟨kept,others⟩ := handle_safe sound tracked side_ own_ served done
  exact ⟨kept,others,ends before choice moved answer sound tracked held served done⟩

theorem wp_read {c : Cmd} {V : CloudWallet.World → Ret c} (stable : ∀ a b, P a → Aside process a b → P b)
    (side : ∀ w : World, Side bases process c w.wallets ∧ Own bases process c w)
    (plain : ∀ (w : World) (answer : Except Failure (Ret c)), w.noted process c answer = w)
    (succeeds : ∀ choice, Served c choice → choice.fails = false)
    (reads : ∀ choice v, CloudWallet.handle bases process c choice v = lookedUp choice.fails .other v (.ok (V v)))
    (now : P w) :
    wp (sys bases) (contract bases right) process (perform c)
      (upon (fun value w => P w ∧ Sound bases right w.wallets ∧ Tracked bases w ∧ V w.wallets = value) fun _ =>
      False) w := by
  refine wp_command stable (fun w _ _ _ => side w) ?_ now
  intro w choice after answer sound tracked held served handled
  rw [plain]
  rw [reads,lookedUp,succeeds choice served] at handled
  obtain ⟨rfl,rfl⟩ := Prod.mk.inj (Option.some.inj handled)
  exact ⟨held,sound,tracked,rfl⟩

theorem done_stable (done : Done process a) (relied : Aside process a b) : Done process b :=
  ⟨relied.pending.trans done.1,relied.halved.trans done.2⟩
/-- The process has not begun, and holds no tenant. -/
def Idle (process : Nat) (w : World) : Prop := Unbegun process w.wallets ∧ Done process w
theorem idle_stable (a b : World) (idle : Idle process a) (relied : Aside process a b) : Idle process b :=
  ⟨CloudWallet.unbegun_stable idle.1 relied.wallets,done_stable idle.2 relied⟩
/-- It holds a slot of a base wallet, and has no tenant yet or no longer. -/
def Claimed (process walletId : Nat) (record : Record) (w : World) :
    Prop := Holding process walletId record w.wallets ∧ Done process w
theorem claimed_stable {walletId : Nat} {record : Record} (a b : World) (claimed : Claimed process walletId record a)
    (relied : Aside process a b) :
    Claimed process walletId record b :=
  ⟨CloudWallet.holding_stable claimed.1 relied.wallets,done_stable claimed.2 relied⟩
/-- The call has made the tenant on its slot and not stored it. -/
def Made (process walletId : Nat) (x : Tenant) (w : World) : Prop :=
  Holding process walletId .claimed w.wallets ∧ own process w.pending = [(process,x)] ∧ own process w.halved = [] ∧
      x ∈ w.wallets.used
theorem made_stable {walletId : Nat} (a b : World) (made : Made process walletId x a) (relied : Aside process a b) :
    Made process walletId x b :=
  ⟨CloudWallet.holding_stable made.1 relied.wallets,relied.pending.trans made.2.1,relied.halved.trans made.2.2.1,
    (relied.wallets.used x made.2.2.2).1⟩
theorem wp_ask {what : CloudWallet.Elsewhere} (stable : ∀ a b, P a → Aside process a b → P b) (now : P w) :
    wp (sys bases) (contract bases right) process (ask what) (upon (fun _ => P) fun _ => False) w := by
  refine wp_mono ?_ (wp_read (c := .elsewhere what) (V := fun _ => ()) stable (fun _ => ⟨trivial,trivial⟩)
    (fun _ answer => by cases answer <;> rfl) (fun _ served => served rfl) (fun _ _ => rfl) now)
  rintro (error | value) w' ended
  · exact ended
  · exact ended.1
theorem wp_next {β γ : Type} {p : Async β} {f : β → Async γ} (done : β → World → Prop)
    {wanted : Except Failure γ → World → Prop}
    (first : wp (sys bases) (contract bases right) process p (upon done fun _ => False) w)
    (second : ∀ value w, done value w → wp (sys bases) (contract bases right) process (f value) wanted w) :
    wp (sys bases) (contract bases right) process (p >>= f) wanted w := by
  refine (wp_bind _ _ _ _).mpr (wp_mono ?_ first)
  rintro (error | value) w' ended
  · exact ended.elim
  · exact second value w' ended
theorem wp_release {walletId : Nat} {record : Record}
    (once : record.releases = 0 ∧ record.claims + record.rows.length = 1)
    (now : Claimed process walletId record w) :
    wp (sys bases) (contract bases right) process (release walletId)
        (upon (fun _ => Done process) (Done process)) w := by
  refine (wp_tryCatch _ _ _ _).mpr (wp_mono ?_ (wp_command (c := .decrementBaseWalletUseCount walletId)
    (Q := fun _ => Done process) claimed_stable
    (fun _ _ _ claimed => ⟨⟨claimed.1.1,by rw [claimed.1.2]; exact once⟩,claimed.2.1⟩) ?_ now))
  · rintro (error | value) w' ended <;> exact ended
  · intro w choice after answer _ _ claimed _ _
    cases answer <;> exact claimed.2

variable {userId : String}
theorem wp_createTenant {base : Base} (listed : base ∈ bases.rows) (now : Claimed process base.id .claimed w) :
    wp (sys bases) (contract bases right) process (createTenant base userId)
      (upon (fun _ => Done process) (Claimed process base.id .claimed)) w := by
  unfold createTenant
  cases endpoint : truthy base.agentEndpoint with
  | none => exact now
  | some agentEndpoint =>
  cases apiKey : truthy base.agentApiKey with
  | none => exact now
  | some agentApiKey =>
  have same : base.agentEndpoint = some agentEndpoint := (Option.filter_eq_some_iff.mp endpoint).1
  refine wp_next _ (wp_ask claimed_stable now) fun _ w claimed => ?_
  refine wp_seq (fun _ => Claimed process base.id .claimed) (wp_command (c := .checkAgentHealth)
    (Q := upon (fun _ => Claimed process base.id .claimed) (Claimed process base.id .claimed)) claimed_stable
    (fun _ _ _ _ => ⟨trivial,trivial⟩) ?_ claimed) fun healthy w claimed => ?_
  · intro w choice after answer _ _ claimed _ handled
    obtain ⟨rfl,-⟩ := lookedUp_cases handled
    cases answer <;> exact claimed
  refine wp_branches _ (fun _ => claimed) fun _ => ?_
  refine wp_seq (fun response w => ∃ id, response = some ⟨some id⟩ ∧ Made process base.id (some agentEndpoint,id) w)
    (wp_command (c := .httpPost agentEndpoint) claimed_stable (fun w _ _ claimed => ?_) ?_ claimed)
    fun response w answered => ?_
  · have slot : (process,base.id) ∈ w.wallets.slots := (List.mem_filter.mp (claimed.1.1 ▸ List.mem_singleton_self _)).1
    refine ⟨⟨by rw [claimed.1.1]; rintro ⟨⟩,by rw [claimed.1.2]; rfl⟩,claimed.2.1,base,listed,?_,same.symm,slot⟩
    rw [endpoint]
    rfl
  · intro w choice after answer _ _ claimed served handled
    obtain ⟨id,-,rfl,rfl⟩ := post_served served handled
    refine ⟨id,rfl,claimed.1,?_,claimed.2.2,List.mem_cons_self⟩
    exact (own_first _ _).trans (congrArg _ claimed.2.1)
  obtain ⟨id,rfl,made⟩ := answered
  refine wp_next _ (wp_ask made_stable made) fun _ w made => ?_
  refine wp_command (c := .storeCloudWalletDetails userId base.agentEndpoint (some id)) made_stable
      (fun w _ _ made => ?_) ?_ made
  · refine ⟨⟨⟨base,listed,by rw [endpoint]; rfl,rfl,made.1.1⟩,fun other named => ?_⟩,id,rfl,?_⟩
    · rw [same,← Option.some.inj named]
      exact made.2.2.2
    · rw [same]
      exact made.2.1
  · intro w choice after answer _ _ made _ handled
    rcases CloudWallet.store_cases handled with ⟨rfl,rfl⟩ | ⟨row,rfl,rfl,-⟩
    · exact ⟨made.1,own_settled _,made.2.2.1⟩
    · exact ⟨own_settled _,made.2.2.1⟩

theorem wp_createCloudWallet (now : Idle process w) :
    wp (sys bases) (contract bases right) process (createCloudWallet userId)
    (upon (fun _ => Done process) (Done process)) w := by
  refine wp_next _
      (wp_read (c := .checkUserExist userId) (V := fun v => v.subs.any fun row => row.userId = some userId) idle_stable
    (fun _ => ⟨trivial,trivial⟩) (fun _ answer => by cases answer <;> rfl) (fun _ served => served rfl)
    (fun _ _ => rfl) now)
    fun exists_ w ⟨idle,_⟩ => ?_
  refine wp_branches _ (fun _ => idle.2) fun _ => ?_
  refine wp_next _ (wp_read (c := .getAvailableBaseWallet)
    (V := fun v => bases.rows.find? fun base => base.isActive && v.useCount base.id < base.maxSubWallets) idle_stable
    (fun _ => ⟨trivial,trivial⟩) (fun _ answer => by cases answer <;> rfl) (fun _ served => served rfl)
        (fun _ _ => rfl) idle)
    fun base? w ⟨idle,_,_,found⟩ => ?_
  cases base? with
  | none => exact idle.2
  | some base =>
  have listed : base ∈ bases.rows := List.mem_of_find?_eq_some found
  refine wp_seq
      (fun claimed w => (claimed = true → Claimed process base.id .claimed w) ∧ (claimed = false → Done process w))
    (wp_command (c := .claimBaseWalletCapacity base.id base.maxSubWallets) idle_stable
      (fun w _ _ idle => ⟨⟨idle.1.1,idle.1.2,base,listed,rfl,rfl⟩,trivial⟩) ?_ idle) fun claimed w held => ?_
  · intro w choice after answer _ _ idle _ handled
    rcases CloudWallet.claim_cases handled with ⟨rfl,refused⟩ | ⟨rfl,rfl,-⟩
    · cases answer with
      | error error => exact idle.2
      | ok claimed => exact ⟨fun same => absurd (congrArg Except.ok same) refused,fun _ => idle.2⟩
    · refine ⟨fun _ => ⟨⟨?_,?_⟩,idle.2⟩,by rintro ⟨⟩⟩
      · change ((process,base.id) :: w.wallets.slots).filter _ = _
        rw [List.filter_cons_of_pos (by simp)]
        exact congrArg _ idle.1.2
      · simp [World.at_,World.noted,CloudWallet.World.claimed,idle.1.1,Record.none,Record.claimed]
  refine wp_branches _ (fun refused => held.2 refused) fun claimed_ => ?_
  refine (wp_tryCatch _ _ _ _).mpr (wp_mono ?_ (wp_createTenant listed (held.1 (by simpa using claimed_))))
  rintro (error | value) w' ended
  · exact wp_seq _ (wp_release ⟨rfl,rfl⟩ ended) fun _ _ done => done
  · exact ended

/-- The call has read the row of the tenant. -/
structure Read (process : Nat) (row : Sub) (x : Tenant) (w : World) : Prop where
  unbegun : Unbegun process w.wallets
  pending : own process w.pending = []
  known : Known row w.wallets
  names : tenant row = some x
  named : x ∈ w.named
  rows : ∀ other ∈ w.wallets.subs, tenant other = some x ↔ other.id = row.id

theorem read_stable (read : Read process row x a) (relied : Aside process a b) : Read process row x b := by
  have known := CloudWallet.known_stable read.known relied.wallets
  refine ⟨CloudWallet.unbegun_stable read.unbegun relied.wallets,relied.pending.trans read.pending,known,read.names,
    relied.named x read.named,fun other listed => ⟨fun names => ?_,fun same => ?_⟩⟩
  · obtain ⟨old,listed,same,names⟩ := relied.rows x read.named other listed names
    exact same.symm.trans ((read.rows old listed).mp names)
  · obtain ⟨endpoint,tenantId⟩ := known.2.1 other listed same
    rw [tenant,endpoint,tenantId]
    exact read.names
theorem read_row (sound : Sound bases right w.wallets) (tracked : Tracked bases w) (idle : Idle process w)
    (there : row ∈ w.wallets.subs) : ∃ x, Read process row x w := by
  obtain ⟨x,named,names⟩ := tracked.named row there
  have only {other : Sub} (listed : other ∈ w.wallets.subs) (same : other.id = row.id) : other = row :=
    List.inj_on_of_nodup_map sound.ids listed there same
  refine ⟨x,idle.1,idle.2.1,⟨sound.drawn row there,fun other listed same => ?_,sound.tenants row there⟩,names,named,
    fun other listed => ⟨fun names' => tracked.single other listed row there (names'.trans names.symm),fun same => ?_⟩⟩
  · exact only listed same ▸ ⟨rfl,rfl⟩
  · exact only listed same ▸ names

/-- The tenant of the row that was read is gone. -/
def Deleting (process : Nat) (row : Sub) (x : Tenant) (w : World) : Prop :=
  Read process row x w ∧ own process w.halved = [(process,x)] ∧ x ∉ w.wallets.agent
theorem Read.used (read : Read process row x w) : x ∈ w.wallets.used := by
  obtain ⟨tenantId,named,rfl⟩ := Option.map_eq_some_iff.mp read.names
  exact read.known.2.2 tenantId named
theorem deleting_stable (a b : World) (deleting : Deleting process row x a) (relied : Aside process a b) :
    Deleting process row x b :=
  ⟨read_stable deleting.1 relied,relied.halved.trans deleting.2.1,(relied.wallets.used x deleting.1.used).2 deleting.2.2⟩

theorem wp_deleteTenant {base : Base} {tenantId : String} (endpoint : base.agentEndpoint = row.agentEndpoint)
    (now : Read process row (row.agentEndpoint,tenantId) w ∧ own process w.halved = []) :
    wp (sys bases) (contract bases right) process (deleteTenant base tenantId)
      (upon (fun deleted w => deleted = true ∧ Deleting process row (row.agentEndpoint,tenantId) w) fun _ =>
      False) w := by
  refine (wp_tryCatch _ _ _ _).mpr (wp_mono ?_ (wp_command (c := .httpDelete base.agentEndpoint tenantId)
    (P := fun w => Read process row (row.agentEndpoint,tenantId) w ∧ own process w.halved = [])
    (Q := fun (answer : Except Failure Bool) w => (answer = .ok true ∨ answer = .error .tenantNotFound) ∧
      Deleting process row (row.agentEndpoint,tenantId) w)
    (fun a b both relied => ⟨read_stable both.1 relied,relied.halved.trans both.2⟩)
    (fun w _ _ both => ⟨trivial,?_⟩) ?_ now))
  · rintro answer w' ⟨rfl | rfl,deleting⟩
    · exact ⟨rfl,deleting⟩
    · exact wp_branches _ (fun _ => ⟨rfl,deleting⟩) fun other => absurd rfl other
  · exact endpoint ▸ both.1.named
  · intro w choice after answer sound tracked both served handled
    have answers := delete_served served handled
    obtain ⟨moved,gone⟩ := CloudWallet.removeTenant_cases handled
    have removed : w.noted process (.httpDelete base.agentEndpoint tenantId) answer = w.removed process
        (base.agentEndpoint,tenantId) := by
      rcases answers with rfl | rfl <;> rfl
    rw [removed,endpoint]
    rw [endpoint] at gone
    refine ⟨answers,?_,(own_first _ _).trans (congrArg _ both.2),gone answers⟩
    rcases moved with rfl | rfl
    · exact ⟨both.1.unbegun,both.1.pending,both.1.known,both.1.names,both.1.named,both.1.rows⟩
    · exact ⟨both.1.unbegun,both.1.pending,both.1.known,both.1.names,both.1.named,both.1.rows⟩

theorem wp_deleteCloudWallet {deleteHolder : Bool} (now : Idle process w) :
    wp (sys bases) (contract bases right) process (deleteCloudWallet userId deleteHolder)
      (upon (fun _ => Done process) (Done process)) w := by
  refine wp_next (fun row? w => Idle process w ∧ ∀ row, row? = some row → ∃ x, Read process row x w)
    (wp_mono ?_ (wp_read (c := .getCloudSubWallet userId) (V := fun v => v.subs.find? fun row => row.userId = some userId) idle_stable
      (fun _ => ⟨trivial,trivial⟩) (fun _ answer => by cases answer <;> rfl) (fun _ served => served rfl)
      (fun _ _ => rfl) now))
    fun row? w ⟨idle,found⟩ => ?_
  · rintro (error | value) w' ended
    · exact ended
    · obtain ⟨idle,sound,tracked,read⟩ := ended
      exact ⟨idle,fun row same => read_row sound tracked idle (List.mem_of_find?_eq_some (read.trans same))⟩
  cases wallet : row?.bind fun row => (truthy row.tenantId).map fun tenantId => (row,tenantId) with
  | none => exact wp_branches _ (fun _ => idle.2) fun _ => idle.2
  | some pair =>
  obtain ⟨row,same,named⟩ := Option.bind_eq_some_iff.mp wallet
  obtain ⟨tenantId,given_,rfl⟩ := Option.map_eq_some_iff.mp named
  have id_ : row.tenantId = some tenantId := (Option.filter_eq_some_iff.mp given_).1
  obtain ⟨x,read⟩ := found row same
  obtain rfl : x = (row.agentEndpoint,tenantId) := by
    have names := read.names
    rw [tenant,id_] at names
    exact (Option.some.inj names).symm
  have stable : ∀ a b, Read process row (row.agentEndpoint,tenantId) a ∧ own process a.halved = [] → Aside process a b →
      Read process row (row.agentEndpoint,tenantId) b ∧ own process b.halved = [] :=
    fun a b both relied => ⟨read_stable both.1 relied,relied.halved.trans both.2⟩
  refine wp_next _ (wp_read (c := .getBaseWalletByAgentEndpoint row.agentEndpoint) (V := fun _ => byAgentEndpoint bases row.agentEndpoint)
    stable (fun _ => ⟨trivial,trivial⟩) (fun _ answer => by cases answer <;> rfl) (fun _ served => served rfl)
    (fun _ _ => rfl)
    ⟨read,idle.2.2⟩) fun base? w ⟨both,_,_,on_⟩ => ?_
  cases base? with
  | none => exact ⟨both.1.pending,both.2⟩
  | some base =>
  obtain ⟨-,-,endpoint⟩ := CloudWallet.mem_byAgentEndpoint on_
  refine wp_next _ (wp_ask stable both) fun _ w both => ?_
  refine wp_next _ (wp_deleteTenant endpoint both) fun deleted w ⟨gone,deleting⟩ => ?_
  refine wp_branches _ (fun same => absurd (gone.symm.trans same) (by decide)) fun _ => ?_
  refine wp_seq (fun _ => Claimed process base.id ⟨0,[row.id],0⟩)
      (wp_command (c := .deleteCloudWalletDetails row.id) deleting_stable
    (fun w _ _ deleting => ?_) ?_ deleting) fun _ w claimed => wp_release ⟨rfl,rfl⟩ claimed
  · obtain ⟨read,held,absent⟩ := deleting
    refine ⟨⟨read.unbegun.1,read.unbegun.2,fun other there same => ?_⟩,_,held,read.named,absent,read.rows⟩
    obtain ⟨endpoint',tenant'⟩ := read.known.2.1 other there same
    refine ⟨fun tenant named => ?_,base,by rw [endpoint',on_]⟩
    rw [tenant',id_] at named
    obtain rfl := Option.some.inj named
    rw [endpoint']
    exact ⟨read.used,absent⟩
  · intro w choice after answer _ _ deleting _ handled
    obtain ⟨read,-,-⟩ := deleting
    rcases CloudWallet.deleteRow_cases handled with ⟨rfl,rfl⟩ | ⟨other,there,same,rfl,rfl⟩
    · exact ⟨read.pending,own_settled _⟩
    obtain ⟨fresh,none_⟩ := read.unbegun
    refine ⟨⟨?_,?_⟩,read.pending,own_settled _⟩
    · simp only [mine,World.at_,CloudWallet.World.without,(read.known.2.1 other there same).1,on_,Option.map_some,
        Option.toList_some,
        List.singleton_append]
      rw [List.filter_cons_of_pos (by simp)]
      exact congrArg _ none_
    · simp [World.at_,CloudWallet.World.without,fresh,Record.none,same]

theorem keeps : Keeps (sys bases) (contract bases right) (fun process _ w => Done process w) where
  reflexive _ _ := aside_refl
  transitive _ _ _ _ := aside_trans
  stable _ _ _ _ done relied _ := done_stable done relied
  idles _ _ _ idle relied _ := idle_stable _ _ idle relied
  arrives process input a b sound idle arrived := by
    obtain rfl := Option.some.inj arrived
    have ends : ∀ (result : Except Failure Unit) w, upon (fun _ => Done process) (Done process) result w →
        Done process w := by
      rintro (error | value) w ended <;> exact ended
    refine ⟨sound,fun _ _ => aside_refl,?_⟩
    cases input with
    | create userId => exact wp_mono ends (wp_createCloudWallet idle)
    | delete userId deleteHolder => exact wp_mono ends (wp_deleteCloudWallet idle)
  moves event := event.elim

end

/-- The tenants on the agents are those that rows name. -/
def Exact (w : World) : Prop := ∀ x, x ∈ w.wallets.agent ↔ ∃ row ∈ w.wallets.subs, tenant row = some x
def hosts (base : Base) (x : Tenant) : Bool := (truthy base.agentEndpoint).isSome && x.1 = base.agentEndpoint
def World.tenantsOn (w : World) (base : Base) : Nat := w.wallets.agent.countP (hosts base)
/-- No agent has more tenants than its base wallet may have sub-wallets. -/
def Capped (bases : Bases) (w : World) : Prop := ∀ base ∈ bases.rows, (w.tenantsOn base : Int) ≤ base.maxSubWallets
/-- Nothing happened yet, the counters are right, and the tenants are those of the rows. -/
structure Consistent (bases : Bases) (v : CloudWallet.World) : Prop where
  fresh : Fresh bases v
  right : Right bases v
  named : ∀ row ∈ v.subs, (tenant row).isSome = true
  single : ∀ a ∈ v.subs, ∀ b ∈ v.subs, tenant a = tenant b → a.id = b.id
  agent : v.agent.Nodup
  exact_ : Exact (World.initial v)
/-- Every call has ended. -/
def Quiet (m : Machine Cmd Ret Failure Unit World) : Prop :=
  ∀ process, m.thread process = .unused ∨ ∃ result, (m.thread process).ended = some result
/-- The agent answers, only writes to the database fail, and no call is cut off. -/
def Within (m : Machine Cmd Ret Failure Unit World) : Action Choice Input Empty → Prop
  | .start _ _ => True
  | .advance process choice => ∀ c resume, m.thread process = .live (.await c resume) → Served c choice
  | .crash _ => False
  | .environment _ => True
/-- The row of a new tenant is stored: the database does not fail, and the user is there
    and has no other. -/
def Stored (m : Machine Cmd Ret Failure Unit World) : Action Choice Input Empty → Prop
  | .advance process choice => ∀ userId agentEndpoint tenantId resume,
      m.thread process = .live (.await (.storeCloudWalletDetails userId agentEndpoint (some tenantId)) resume) →
        choice.fails = false ∧ userId ∈ m.world.wallets.users ∧ ∀ row ∈ m.world.wallets.subs, row.userId ≠ some userId
  | _ => True

section
variable {bases : Bases} {right : Prop} {process : Nat} {w : World} {v after : CloudWallet.World} {choice : Choice}
  {m next t : Machine Cmd Ret Failure Unit World} {actions : List (Action Choice Input Empty)}

theorem Consistent.tracked (start : Consistent bases v) : Tracked bases (World.initial v) := by
  have used : ∀ x row, row ∈ v.subs → tenant row = some x → x ∈ v.used := by
    intro x row there names
    obtain ⟨tenantId,named,rfl⟩ := Option.map_eq_some_iff.mp names
    exact start.fresh.tenants row there tenantId named
  refine ⟨?_,start.single,?_,start.agent,fun x there => .inl ((start.exact_ x).mp there),List.nodup_nil,List.nodup_nil,
      nofun,nofun,?_,nofun⟩
  · intro row there
    obtain ⟨x,names⟩ := Option.isSome_iff_exists.mp (start.named row there)
    exact ⟨x,List.mem_filterMap.mpr ⟨row,there,names⟩,names⟩
  · intro x there
    rcases List.mem_append.mp there with named | alive
    · obtain ⟨row,there,names⟩ := List.mem_filterMap.mp named
      exact used x row there names
    · obtain ⟨row,there,names⟩ := (start.exact_ x).mp alive
      exact used x row there names
  · exact fun row there x names => .inl ((start.exact_ x).mpr ⟨row,there,names⟩)

theorem Consistent.safe (start : Consistent bases v) :
    Safe (sys bases) (contract bases (Right bases v)) (fun process _ w => Done process w)
    (Machine.initial (World.initial v)) :=
  safe_initial ⟨start.fresh.sound,start.tracked⟩ fun process =>
    ⟨⟨start.fresh.record process,by simp [mine,World.initial,start.fresh.slots]⟩,rfl,rfl⟩
theorem considered_of_within {a : Action Choice Input Empty} (within : Within m a) :
    Considered (contract bases right) m a := by
  cases a with
  | start process input => trivial
  | advance process choice => exact within
  | crash process => trivial
  | environment event => exact event.elim
theorem quiet_done (safe : Safe (sys bases) (contract bases right) (fun process _ w => Done process w) m)
    (quiet : Quiet m) (process : Nat) :
    Done process m.world := by
  rcases quiet process with unused | ⟨result,ended⟩
  · exact (safe.idle process unused).2
  · exact safe_ended safe ended
theorem nothing_left {entries : List (Nat × Tenant)} (all_ : ∀ process, own process entries = []) : entries = [] := by
  refine List.eq_nil_iff_forall_not_mem.mpr fun e there => ?_
  have entry := mem_own.mpr ⟨there,rfl⟩
  rw [all_ e.1] at entry
  cases entry

theorem pending_le (tracked : Tracked bases w) {base : Base} (listed : base ∈ bases.rows) :
    w.pending.countP (fun e => hosts base e.2) ≤ w.wallets.slotsOn base := by
  have nodup : ((w.pending.filter fun e => hosts base e.2).map fun e => (e.1,base.id)).Nodup := by
    refine List.Nodup.of_map Prod.fst ?_
    rw [List.map_map]
    exact tracked.processes.sublist (List.filter_sublist.map _)
  have slots : ((w.pending.filter fun e => hosts base e.2).map fun e => (e.1,base.id)) ⊆ w.wallets.slots.filter
      fun slot => slot.2 = base.id := by
    intro slot there
    obtain ⟨e,entry,rfl⟩ := List.mem_map.mp there
    obtain ⟨entry,on_⟩ := List.mem_filter.mp entry
    obtain ⟨-,-,other,listed',some_,endpoint,slot⟩ := tracked.pending e entry
    rw [hosts,Bool.and_eq_true,decide_eq_true_eq] at on_
    obtain rfl := bases.endpoints other listed' base listed some_ (endpoint.symm.trans on_.2)
    exact List.mem_filter.mpr ⟨slot,by simp⟩
  have fits := (nodup.subperm slots).length_le
  rwa [List.length_map,← List.countP_eq_length_filter,← List.countP_eq_length_filter] at fits

theorem capped_of_named (right_ : right) (sound : Sound bases right w.wallets) (tracked : Tracked bases w)
    (none_ : w.orphans = []) : Capped bases w := by
  intro base listed
  have among : w.wallets.agent.filter (hosts base) ⊆
      (w.wallets.subs.filter base.holds).filterMap tenant ++ (w.pending.filter fun e => hosts base e.2).map
      Prod.snd := by
    intro x there
    obtain ⟨alive,on_⟩ := List.mem_filter.mp there
    rcases tracked.there x alive with ⟨row,there,names⟩ | listed | orphan
    · refine List.mem_append_left _ (List.mem_filterMap.mpr ⟨row,List.mem_filter.mpr ⟨there,?_⟩,names⟩)
      obtain ⟨tenantId,-,rfl⟩ := Option.map_eq_some_iff.mp names
      exact on_
    · obtain ⟨e,entry,rfl⟩ := List.mem_map.mp listed
      exact List.mem_append_right _ (List.mem_map_of_mem (List.mem_filter.mpr ⟨entry,on_⟩))
    · rw [none_] at orphan
      cases orphan
  have few := ((tracked.agent.filter _).subperm among).length_le
  have rows : ((w.wallets.subs.filter base.holds).filterMap tenant).length ≤ w.wallets.rowsOn base := by
    rw [CloudWallet.World.rowsOn,List.countP_eq_length_filter]
    exact List.length_filterMap_le ..
  rw [← List.countP_eq_length_filter,List.length_append,List.length_map,← List.countP_eq_length_filter] at few
  have held := pending_le tracked listed
  have balance := sound.balance right_ base listed
  have bounds := (sound.bounds base listed).2
  change w.tenantsOn base ≤ _ at few
  omega

theorem noted_orphans {c : Cmd} {answer : Except Failure (Ret c)}
    (other : ∀ userId agentEndpoint tenantId, c ≠ .storeCloudWalletDetails userId agentEndpoint (some tenantId)) :
    (w.noted process c answer).orphans = w.orphans := by
  cases c with
  | storeCloudWalletDetails userId agentEndpoint tenantId =>
    cases tenantId with
    | none => cases answer <;> rfl
    | some tenantId => exact absurd rfl (other userId agentEndpoint tenantId)
  | httpDelete agentEndpoint tenantId =>
    cases answer with
    | ok deleted => cases (deleted : Bool) <;> rfl
    | error error => cases error <;> rfl
  | _ => cases answer <;> rfl

theorem store_stored {userId : String} {agentEndpoint : Option String} {tenantId : String} {answer : Except Failure Unit}
    (handled : CloudWallet.store process choice v userId agentEndpoint (some tenantId) = some (after,answer)) :
    answer = .ok () ↔ choice.fails = false ∧ userId ∈ v.users ∧ ∀ row ∈ v.subs, row.userId ≠ some userId := by
  unfold CloudWallet.store at handled
  split at handled
  · cases handled
  · split at handled
    · rename_i refused
      obtain ⟨-,rfl⟩ := Prod.mk.inj (Option.some.inj handled)
      refine iff_of_false nofun ?_
      rintro ⟨succeeds,user,single⟩
      rcases refused with fails | absent | taken
      · exact absurd (succeeds.symm.trans fails) (by decide)
      · exact absent user
      · obtain ⟨row,there,same⟩ := List.any_eq_true.mp taken
        exact single row there (by simpa using same)
    · rename_i accepted
      obtain ⟨-,rfl⟩ := Prod.mk.inj (Option.some.inj handled)
      rw [not_or,not_or] at accepted
      refine iff_of_true rfl
          ⟨Bool.eq_false_iff.mpr accepted.1,Classical.not_not.mp accepted.2.1,fun row there same => ?_⟩
      exact accepted.2.2 (List.any_eq_true.mpr ⟨row,there,by simpa using same⟩)

/-- A step leaves a tenant without row exactly when its call does not store it there. -/
theorem step_orphans {a : Action Choice Input Empty} (taken : step (sys bases) m a = some next) :
    next.world.orphans = [] ↔ m.world.orphans = [] ∧ Stored m a := by
  cases a with
  | start process input =>
    obtain ⟨-,world,arrived,rfl⟩ := step_start taken
    obtain rfl := Option.some.inj arrived
    exact (and_iff_left trivial).symm
  | crash process =>
    obtain ⟨-,rfl⟩ := step_crash taken
    exact (and_iff_left trivial).symm
  | environment event => exact event.elim
  | advance process choice =>
    obtain ⟨c,resume,world,answer,stood,handled,rfl⟩ := step_advance taken
    obtain ⟨after,done,rfl⟩ := handle_cases handled
    by_cases storing : ∃ userId agentEndpoint tenantId, c = .storeCloudWalletDetails userId agentEndpoint (some tenantId)
    · obtain ⟨userId,agentEndpoint,tenantId,rfl⟩ := storing
      have accepted : Stored m (.advance process choice) ↔ answer = .ok () := by
        refine Iff.trans
            ⟨fun stored => stored _ _ _ _ stood,fun stored userId' agentEndpoint' tenantId' resume' stood' => ?_⟩
          (store_stored done).symm
        rw [stood] at stood'
        cases stood'
        exact stored
      refine Iff.trans ?_ (and_congr_right' accepted.symm)
      cases answer with
      | ok value => exact (and_iff_left rfl).symm
      | error error => exact iff_of_false (List.cons_ne_nil _ _) fun both => nomatch both.2
    · have same : (m.world.noted process c answer).orphans = m.world.orphans :=
        noted_orphans fun userId agentEndpoint tenantId made => storing ⟨userId,agentEndpoint,tenantId,made⟩
      have stored : Stored m (.advance process choice) := by
        intro userId agentEndpoint tenantId resume' stood'
        rw [stood] at stood'
        cases stood'
        exact absurd ⟨userId,agentEndpoint,tenantId,rfl⟩ storing
      change (m.world.noted process c answer).orphans = [] ↔ _
      rw [same]
      exact (and_iff_left stored).symm

/-- No tenant is left in a run exactly when every call stores or gives back its own. -/
theorem run_orphans (reached : run (step (sys bases)) m actions = some t) :
    t.world.orphans = [] ↔ m.world.orphans = [] ∧ Along (step (sys bases)) Stored m actions := by
  induction actions generalizing m with
  | nil =>
    obtain rfl := Option.some.inj reached
    exact (and_iff_left trivial).symm
  | cons a rest ih =>
    obtain ⟨next,taken,later⟩ := run_cons.mp reached
    have along : Along (step (sys bases)) Stored m (a :: rest) ↔
        Stored m a ∧ Along (step (sys bases)) Stored next rest :=
      and_congr_right fun _ =>
      ⟨fun all_ => all_ next taken,fun all_ other same => Option.some.inj (taken.symm.trans same) ▸ all_⟩
    rw [ih later,step_orphans taken,along,and_assoc]

theorem exact_iff (tracked : Tracked bases w) (pending : w.pending = []) (halved : w.halved = []) :
    Exact w ↔ w.orphans = [] ∧ w.stuck = [] := by
  constructor
  · intro exact_
    refine ⟨List.eq_nil_iff_forall_not_mem.mpr fun x orphan => ?_,List.eq_nil_iff_forall_not_mem.mpr fun id stuck => ?_⟩
    · obtain ⟨alive,unnamed,-⟩ := tracked.orphans x orphan
      obtain ⟨row,there,names⟩ := (exact_ x).mp alive
      obtain ⟨y,named,names'⟩ := tracked.named row there
      exact unnamed (Option.some.inj (names'.symm.trans names) ▸ named)
    · obtain ⟨row,there,-,x,names,dead⟩ := tracked.stuck id stuck
      exact dead ((exact_ x).mpr ⟨row,there,names⟩)
  · rintro ⟨orphans,stuck⟩ x
    constructor
    · intro alive
      rcases tracked.there x alive with row | listed | orphan
      · exact row
      · rw [pending] at listed
        cases listed
      · rw [orphans] at orphan
        cases orphan
    · rintro ⟨row,there,names⟩
      rcases tracked.rows row there x names with alive | listed | listed
      · exact alive
      · rw [halved] at listed
        cases listed
      · rw [stuck] at listed
        cases listed

/-- As long as every row is stored no agent has too many tenants. Whenever no call is in
    progress the tenants are those of the rows, and not too many, exactly when every row
    was stored and none is left whose deletion failed. -/
theorem tenants_iff (start : Consistent bases v)
    (within : Along (step (sys bases)) Within (Machine.initial (World.initial v)) actions)
    (reached : run (step (sys bases)) (Machine.initial (World.initial v)) actions = some t) :
    (Along (step (sys bases)) Stored (Machine.initial (World.initial v)) actions → Capped bases t.world) ∧
    (Quiet t → ((Exact t.world ∧ Capped bases t.world) ↔
      Along (step (sys bases)) Stored (Machine.initial (World.initial v)) actions ∧ t.world.stuck = [])) := by
  have safe := run_safe keeps start.safe (along_mono (fun _ _ => considered_of_within) within) reached
  obtain ⟨sound,tracked⟩ := safe.inv
  have orphans : t.world.orphans = [] ↔ Along (step (sys bases)) Stored (Machine.initial (World.initial v)) actions :=
    (run_orphans reached).trans (and_iff_right rfl)
  have cap : Along (step (sys bases)) Stored (Machine.initial (World.initial v)) actions → Capped bases t.world :=
    fun stored => capped_of_named start.right sound tracked (orphans.mpr stored)
  refine ⟨cap,fun quiet => ?_⟩
  have done := quiet_done safe quiet
  rw [exact_iff tracked (nothing_left fun process => (done process).1) (nothing_left fun process => (done process).2),orphans]
  exact ⟨And.left,fun both => ⟨both,cap both.1⟩⟩

end

/-- One base wallet with room for two, and nobody on it. -/
def twoPlaces : Bases where
  rows := [⟨0,some "https://agent",some "key",true,2⟩]
  ids := by simp
  endpoints := by simp

def noWallet : CloudWallet.World where
  useCount _ := 0
  subs := []
  users := ["ada"]
  agent := []
  used := []
  drawn := []
  record _ := .none
  slots := []
  uncovered := []
  deleted := []
  lost := []

theorem consistent_noWallet : Consistent twoPlaces noWallet := by
  refine ⟨⟨?_,List.nodup_nil,nofun,nofun,fun _ => rfl,rfl,rfl,rfl,rfl⟩,⟨fun _ _ => rfl,nofun⟩,nofun,nofun,
      List.nodup_nil,?_⟩
  · intro base listed
    obtain rfl := List.mem_singleton.mp listed
    exact ⟨by decide,by decide⟩
  · exact fun x => ⟨nofun,nofun⟩

def go (process : Nat) (tenantId : String) :
    Action Choice Input Empty := .advance process ⟨false,true,process,some tenantId,false,[]⟩
def cameAndWent : List (Action Choice Input Empty) :=
  .start 0 (.create "ada") :: List.replicate 8 (go 0 "first") ++ .start 1
      (.delete "ada" false) :: List.replicate 6 (go 1 "none")
/-- Both calls look for a wallet of the user before either has stored one. -/
def createdTwice : List (Action Choice Input Empty) :=
  .start 0 (.create "ada") :: go 0 "first" :: .start 1 (.create "ada") :: go 1 "second" ::
    (List.replicate 7 (go 0 "first") ++ List.replicate 8 (go 1 "second"))
def well : Action Choice Input Empty → Bool
  | .start _ _ => true
  | .advance _ choice => !choice.fails && choice.done && !choice.empty && choice.tenant.isSome
  | _ => false

theorem within_of_well {m : Machine Cmd Ret Failure Unit World} {a : Action Choice Input Empty} (good : well a = true) :
    Within m a := by
  cases a with
  | start process input => trivial
  | advance process choice =>
    simp only [well,Bool.and_eq_true,Bool.not_eq_true'] at good
    obtain ⟨⟨⟨succeeds,done⟩,filled⟩,some_⟩ := good
    intro c resume _
    cases c with
    | checkAgentHealth => exact ⟨succeeds,done⟩
    | httpPost agentEndpoint => exact ⟨succeeds,filled,some_⟩
    | httpDelete agentEndpoint tenantId => exact ⟨succeeds,filled⟩
    | _ => exact fun _ => succeeds
  | crash process => cases good
  | environment event => exact event.elim

theorem along_within {w : World} {actions : List (Action Choice Input Empty)} (good : actions.all well = true) :
    Along (step (sys twoPlaces)) Within (Machine.initial w) actions :=
  along_of_forall fun _ a there => within_of_well (List.all_eq_true.mp good a there)
theorem tenants_iff_cameAndWent :
    ∃ t, run (step (sys twoPlaces)) (Machine.initial (World.initial noWallet)) cameAndWent = some t ∧
    (Along (step (sys twoPlaces)) Stored (Machine.initial (World.initial noWallet)) cameAndWent →
    Capped twoPlaces t.world) ∧
    (Quiet t → ((Exact t.world ∧ Capped twoPlaces t.world) ↔
      Along (step (sys twoPlaces)) Stored (Machine.initial (World.initial noWallet)) cameAndWent ∧
      t.world.stuck = [])) :=
  ⟨_,rfl,tenants_iff consistent_noWallet (along_within rfl) rfl⟩

/-- The row of the second creation is refused, its slot is given back, and its tenant stays. -/
theorem tenant_left : ¬∀ (bases : Bases) (v : CloudWallet.World) (actions : List (Action Choice Input Empty))
    (t : Machine Cmd Ret Failure Unit World), Consistent bases v →
      Along (step (sys bases)) Within (Machine.initial (World.initial v)) actions →
        run (step (sys bases)) (Machine.initial (World.initial v)) actions = some t → Quiet t →
          Exact t.world ∧ Capped bases t.world := by
  intro every
  obtain ⟨t,reached,first,second,agent,rows⟩ : ∃ t,
      run (step (sys twoPlaces)) (Machine.initial (World.initial noWallet)) createdTwice = some t ∧
        (t.thread 0).ended.isSome = true ∧ (t.thread 1).ended.isSome = true ∧
        t.world.wallets.agent = [(some "https://agent","second"),(some "https://agent","first")] ∧
        t.world.wallets.subs = [⟨0,some "ada",some "https://agent",some "first"⟩] := ⟨_,rfl,rfl,rfl,rfl,rfl⟩
  have quiet : Quiet t := by
    intro process
    by_cases zero : process = 0
    · exact .inr (Option.isSome_iff_exists.mp (zero ▸ first))
    by_cases one : process = 1
    · exact .inr (Option.isSome_iff_exists.mp (one ▸ second))
    · refine .inl (run_thread ?_ reached)
      simp [createdTwice,go,Action.process,Ne.symm zero,Ne.symm one]
  have exact_ := (every _ _ _ t consistent_noWallet (along_within rfl) reached quiet).1
  obtain ⟨row,there,names⟩ := (exact_ (some "https://agent","second")).mp (agent ▸ List.mem_cons_self)
  rw [rows,List.mem_singleton] at there
  subst there
  exact absurd names (by decide +kernel)

end Ngotag.OrphanTenants
