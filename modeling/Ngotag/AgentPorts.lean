import Ngotag.CounterFile

/-!
The ports of the agents. Each run of `start_agent.sh` takes an admin port from one counter file and an inbound port
from another, a thousand above, and writes both into the configuration and the docker-compose file of its agent.
Without a lock, and without a bound that keeps the two ranges apart: `ports_distinct` says when no port is used twice.
-/
namespace Ngotag.AgentPorts
open Runs
open CounterFile (Counter At)

/-- `while [ "$port" -le "$lower_limit" ]` -/
def increment_port (port lower_limit : Nat) : Nat :=
  if port ≤ lower_limit then increment_port (port + 1) lower_limit else port
termination_by lower_limit + 1 - port
def ADMIN_PORT : Nat := 8001
def INBOUND_PORT : Nat := 9001
/-- The ports in `agent-config/${AGENCY}_${CONTAINER_NAME}.json`; in the endpoint only where it is an address. -/
structure Config where
  endpoint : Option Nat
  inboundTransport : Nat
  adminPort : Nat
structure State where
  /-- `last-admin-port.txt` -/
  admin : Counter
  /-- `last-inbound-port.txt` -/
  inbound : Counter
  /-- What each run has written. -/
  config : Nat → Option Config
  dockerCompose : Nat → Option (List (Nat × Nat))
def incremented (last : Nat) : Nat := increment_port last last

section
-- Whether `INBOUND_ENDPOINT` of a run is an address and not a domain.
variable (isAddress : Nat → Bool)

def step (s : State) (run : Nat) : Option State :=
  match s.admin.client run with
  | some (.left adminPort) =>
    match s.inbound.client run with
    | some (.left inboundPort) =>
      match s.config run,s.dockerCompose run with
      | none,_ =>
        let config := ⟨if isAddress run then some inboundPort else none,inboundPort,adminPort⟩
        some { s with config := Function.update s.config run (some config) }
      | some _,none =>
        let ports := [(inboundPort,inboundPort),(adminPort,adminPort)]
        some { s with dockerCompose := Function.update s.dockerCompose run (some ports) }
      | some _,some _ => none
    | _ => (CounterFile.step incremented INBOUND_PORT s.inbound run).map fun inbound => { s with inbound := inbound }
  | _ => (CounterFile.step incremented ADMIN_PORT s.admin run).map fun admin => { s with admin := admin }

def shipped : State := ⟨⟨[8000],fun _ => none⟩,⟨[9000],fun _ => none⟩,fun _ => none,fun _ => none⟩
def bare : State := ⟨⟨[],fun _ => none⟩,⟨[],fun _ => none⟩,fun _ => none,fun _ => none⟩

/-- No port is taken twice, the counters rise, and each run writes the ports it has taken. -/
structure Distinct (s : State) : Prop where
  admin : ∀ first second port, s.admin.value first = some port → s.admin.value second = some port → first = second
  inbound : ∀ first second port, s.inbound.value first = some port → s.inbound.value second = some port → first = second
  apart : ∀ first second port, s.admin.value first = some port → s.inbound.value second ≠ some port
  adminRises : s.admin.file.Pairwise fun later earlier => earlier ≤ later
  inboundRises : s.inbound.file.Pairwise fun later earlier => earlier ≤ later
  config : ∀ run config, s.config run = some config → s.admin.value run = some config.adminPort ∧
    s.inbound.value run = some config.inboundTransport ∧ ∀ port, config.endpoint = some port →
    s.inbound.value run = some port
  dockerCompose : ∀ run ports, s.dockerCompose run = some ports → ∃ adminPort inboundPort,
    s.admin.value run = some adminPort ∧ s.inbound.value run = some inboundPort ∧
      ports = [(inboundPort,inboundPort),(adminPort,adminPort)]

/-- No run reads a counter that another has read and not written yet, none makes a file anew that has been counted up
    meanwhile, and an admin port is taken only below the range of the inbound ports. -/
def Meets (limit : Nat) (s : State) (run : Nat) : Prop :=
  match s.admin.client run with
  | some (.left _) => CounterFile.Meets INBOUND_PORT s.inbound run
  | _ => CounterFile.Meets ADMIN_PORT s.admin run ∧
    (s.admin.client run = some .read → ∀ last, s.admin.file.head? = some last → last < limit)

end

theorem increment_port_same (last : Nat) : increment_port last last = last + 1 := by
  rw [increment_port,if_pos (Nat.le_refl _),increment_port,if_neg (by omega)]
theorem incremented_grows (last : Nat) : last < incremented last := by
  rw [incremented,increment_port_same]
  exact Nat.lt_succ_self last
/-- What carries `Distinct`: both counters are sound, and their ranges are apart. -/
structure Inv (adminBase limit : Nat) (s : State) : Prop where
  admin : CounterFile.Sound incremented ADMIN_PORT adminBase s.admin
  inbound : CounterFile.Sound incremented INBOUND_PORT limit s.inbound
  below : ∀ run port, s.admin.value run = some port → port ≤ limit
  config : ∀ run config, s.config run = some config → s.admin.client run = some (.left config.adminPort) ∧
    s.inbound.client run = some (.left config.inboundTransport) ∧ ∀ port, config.endpoint = some port →
    port = config.inboundTransport
  dockerCompose : ∀ run ports, s.dockerCompose run = some ports → ∃ adminPort inboundPort,
    s.admin.client run = some (.left adminPort) ∧ s.inbound.client run = some (.left inboundPort) ∧
      ports = [(inboundPort,inboundPort),(adminPort,adminPort)]

section
variable {isAddress : Nat → Bool} {adminBase limit run : Nat} {s next : State}

theorem value_left {c : Counter} {i value : Nat} (left : c.client i = some (.left value)) : c.value i = some value := by
  rw [Counter.value,left]
theorem left_kept {initial i j value : Nat} {c after : Counter} (left : c.client j = some (.left value))
    (taken : CounterFile.step incremented initial c i = some after) : after.client j = some (.left value) := by
  by_cases same : j = i
  · subst same
    rw [CounterFile.step,left] at taken
    cases taken
  · rw [CounterFile.step_other taken same]
    exact left

theorem step_admin (inv : Inv adminBase limit s) {admin : Counter} (meets : CounterFile.Meets ADMIN_PORT s.admin run)
    (room : s.admin.client run = some .read → ∀ last, s.admin.file.head? = some last → last < limit)
    (taken : CounterFile.step incremented ADMIN_PORT s.admin run = some admin) :
        Inv adminBase limit { s with admin := admin } := by
  refine ⟨CounterFile.step_sound incremented_grows inv.admin meets taken,inv.inbound,?_,fun other config written => ?_,
    fun other ports written => ?_⟩
  · refine CounterFile.step_bounded inv.below (fun reading last latest => ?_) taken
    have := room reading last latest
    rw [incremented,increment_port_same]
    omega
  · obtain ⟨left,rest⟩ := inv.config other config written
    exact ⟨left_kept left taken,rest⟩
  · obtain ⟨adminPort,inboundPort,left,rest⟩ := inv.dockerCompose other ports written
    exact ⟨adminPort,inboundPort,left_kept left taken,rest⟩

theorem step_inbound (inv : Inv adminBase limit s) {inbound : Counter}
    (meets : CounterFile.Meets INBOUND_PORT s.inbound run)
    (taken : CounterFile.step incremented INBOUND_PORT s.inbound run = some inbound) :
    Inv adminBase limit { s with inbound := inbound } := by
  refine ⟨inv.admin,CounterFile.step_sound incremented_grows inv.inbound meets taken,inv.below,
      fun other config written => ?_,
    fun other ports written => ?_⟩
  · obtain ⟨left,left',endpoint⟩ := inv.config other config written
    exact ⟨left,left_kept left' taken,endpoint⟩
  · obtain ⟨adminPort,inboundPort,left,left',same⟩ := inv.dockerCompose other ports written
    exact ⟨adminPort,inboundPort,left,left_kept left' taken,same⟩

/-- A step that meets the condition keeps the invariant, whichever counter or file it is on. -/
theorem step_inv (s : State) (run : Nat) (next : State) (inv : Inv adminBase limit s) (meets : Meets limit s run)
    (taken : step isAddress s run = some next) : Inv adminBase limit next := by
  unfold step at taken
  unfold Meets at meets
  split at taken
  · rename_i adminPort leftAdmin
    rw [leftAdmin] at meets
    split at taken
    · rename_i inboundPort leftInbound
      split at taken
      · cases taken
        refine ⟨inv.admin,inv.inbound,inv.below,fun other config written => ?_,inv.dockerCompose⟩
        dsimp only at written
        rw [Function.update_apply] at written
        split at written
        · rename_i own
          subst own
          cases written
          refine ⟨leftAdmin,leftInbound,fun port known => ?_⟩
          dsimp only at known
          split at known
          · exact (Option.some.inj known).symm
          · cases known
        · exact inv.config other config written
      · cases taken
        refine ⟨inv.admin,inv.inbound,inv.below,inv.config,fun other ports written => ?_⟩
        dsimp only at written
        rw [Function.update_apply] at written
        split at written
        · rename_i own
          subst own
          cases written
          exact ⟨adminPort,inboundPort,leftAdmin,leftInbound,rfl⟩
        · exact inv.dockerCompose other ports written
      · cases taken
    · obtain ⟨inbound,moved,rfl⟩ := Option.map_eq_some_iff.mp taken
      exact step_inbound inv meets moved
  · rename_i unfinished
    obtain ⟨admin,moved,rfl⟩ := Option.map_eq_some_iff.mp taken
    have both : CounterFile.Meets ADMIN_PORT s.admin run ∧
        (s.admin.client run = some .read → ∀ last, s.admin.file.head? = some last → last < limit) := by
      split at meets
      · rename_i port left
        exact absurd left (unfinished port)
      · exact meets
    exact step_admin inv both.1 both.2 moved

theorem inv_distinct (inv : Inv adminBase limit s) : Distinct s where
  admin := inv.admin.distinct
  inbound := inv.inbound.distinct
  apart := by
    intro first second port is is'
    have low := inv.below first port is
    have high := inv.inbound.above second port is'
    omega
  adminRises := inv.admin.sorted
  inboundRises := inv.inbound.sorted
  config := by
    intro run config written
    obtain ⟨left,left',endpoint⟩ := inv.config run config written
    refine ⟨value_left left,value_left left',fun port known => ?_⟩
    rw [endpoint port known]
    exact value_left left'
  dockerCompose := by
    intro run ports written
    obtain ⟨adminPort,inboundPort,left,left',same⟩ := inv.dockerCompose run ports written
    exact ⟨adminPort,inboundPort,value_left left,value_left left',same⟩

end

theorem inv_shipped : Inv 8000 9000 shipped where
  admin := CounterFile.initial_sound _ (.inl rfl)
  inbound := CounterFile.initial_sound _ (.inl rfl)
  below := nofun
  config := nofun
  dockerCompose := nofun
theorem inv_bare : Inv 8001 9001 bare where
  admin := CounterFile.initial_sound _ (.inr ⟨rfl,rfl⟩)
  inbound := CounterFile.initial_sound _ (.inr ⟨rfl,rfl⟩)
  below := nofun
  config := nofun
  dockerCompose := nofun
/-- From the shipped port files or from none, runs that keep out of each other's way and within the range of the admin
    ports get ports of their own. -/
theorem ports_distinct (isAddress : Nat → Bool) (start : State) (limit : Nat)
    (begins : start = shipped ∧ limit = 9000 ∨ start = bare ∧ limit = 9001) {schedule : List Nat}
    (along : Along (step isAddress) (Meets limit) start schedule) {s : State}
    (reached : run (step isAddress) start schedule = some s) : Distinct s := by
  rcases begins with ⟨rfl,rfl⟩ | ⟨rfl,rfl⟩
  · exact inv_distinct (run_keeps_along step_inv inv_shipped along reached)
  · exact inv_distinct (run_keeps_along step_inv inv_bare along reached)

/-- Two runs, one after the other: nobody else is between a read and its write. -/
def inTurn : List Nat := List.replicate 10 0 ++ List.replicate 10 1
theorem ports_distinct_inTurn : (run (step fun _ => true) shipped inTurn).isSome = true ∧
    ∀ s, run (step fun _ => true) shipped inTurn = some s →
      (s.admin.value 0).isSome = true ∧ (s.admin.value 1).isSome = true ∧ Distinct s := by
  refine ⟨rfl,fun s reached => ⟨?_,?_,ports_distinct (fun _ => true) shipped 9000 (.inl ⟨rfl,rfl⟩) ?_ reached⟩⟩
  · cases reached
    rfl
  · cases reached
    rfl
  refine along_cons ⟨trivial,nofun⟩ rfl (along_cons ⟨trivial,nofun⟩ rfl (along_cons ⟨?_,fun _ last latest => ?_⟩ rfl ?_))
  · rintro (_ | other) value ⟨⟩
  · cases latest
    decide
  refine along_cons ⟨trivial,nofun⟩ rfl (along_cons trivial rfl (along_cons trivial rfl (along_cons ?_ rfl ?_)))
  · rintro (_ | other) value ⟨⟩
  refine along_cons trivial rfl (along_cons trivial rfl (along_cons trivial rfl ?_))
  refine along_cons ⟨trivial,nofun⟩ rfl (along_cons ⟨trivial,nofun⟩ rfl (along_cons ⟨?_,fun _ last latest => ?_⟩ rfl ?_))
  · rintro (_ | _ | other) value ⟨⟩
  · cases latest
    rw [incremented,increment_port_same]
    decide
  refine along_cons ⟨trivial,nofun⟩ rfl (along_cons trivial rfl (along_cons trivial rfl (along_cons ?_ rfl ?_)))
  · rintro (_ | _ | other) value ⟨⟩
  exact along_cons trivial rfl (along_cons trivial rfl (along_cons trivial rfl trivial))

/-- Two runs read the counter before either writes it. -/
def overlapping : List Nat := [0,0,0,1,1,1]
theorem same_port : ∃ s, run (step fun _ => true) shipped overlapping = some s ∧ s.admin.value 0 = s.admin.value 1 ∧
    (s.admin.value 0).isSome = true ∧ ¬Distinct s := by
  refine ⟨_,rfl,rfl,rfl,fun distinct => ?_⟩
  exact absurd (distinct.admin 0 1 _ rfl rfl) (by decide)

end Ngotag.AgentPorts
