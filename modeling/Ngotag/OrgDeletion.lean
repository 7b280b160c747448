import Mathlib.Tactic.IntervalCases
import Ngotag.Faults

/-!
Deletion of an organisation: some statements in a transaction, which only lasts if all of them
succeed, and two between them that do not belong to it and last at once. Where neither of these
two is followed by a failure, the deletion is all or nothing (`deletion_iff`).
-/
namespace Ngotag.OrgDeletion
open Await Faults

/-- The tables with rows of organisations, and those that refer to the agent of one. -/
inductive Table where
  | organisation
  | org_agents
  | org_dids
  | agent_invitations
  | connections
  | credentials
  | presentations
  | file_upload
  | notification
  | user_activity
  | user_org_roles
  | org_invitations
  | schema
  | credential_definition
  | oidc_issuer
  | oid4vc_credentials
  | oid4vp_presentations
  | status_list_allocation
  | issued_oid4vc_credentials
  | verification_templates
  | intent_templates
  | intent_notices
  | ecosystem_orgs
  | ecosystem_invitations
  | marketplace_subscription
  | marketplace_usage_event
  | billing_usage_event
  | x509_certificates
  | oid4vp_verifier
  deriving DecidableEq

/-- A row with the columns that the statements and the foreign keys look at, and the others. An
    organisation is its own. -/
structure Row where
  id : String
  orgId : Option String
  orgAgentId : Option String
  tenantId : Option String
  columns : String
abbrev Db := Table → List Row
/-- What the database does with rows of an organisation that is deleted. -/
inductive OnDelete where
  | restrict
  | setNull
  /-- There is no foreign key. -/
  | nothing
  deriving DecidableEq

def onDelete : Table → OnDelete
  | .organisation => .nothing
  | .org_dids => .nothing
  | .notification => .nothing
  | .x509_certificates => .nothing
  | .oid4vp_verifier => .nothing
  | .agent_invitations => .restrict
  | .user_activity => .restrict
  | .org_invitations => .restrict
  | .oid4vc_credentials => .restrict
  | .oid4vp_presentations => .restrict
  | .status_list_allocation => .restrict
  | .issued_oid4vc_credentials => .restrict
  | .verification_templates => .restrict
  | .ecosystem_orgs => .restrict
  | .marketplace_usage_event => .restrict
  | .billing_usage_event => .restrict
  | .org_agents => .setNull
  | .connections => .setNull
  | .credentials => .setNull
  | .presentations => .setNull
  | .file_upload => .setNull
  | .user_org_roles => .setNull
  | .schema => .setNull
  | .credential_definition => .setNull
  | .oidc_issuer => .setNull
  | .intent_templates => .setNull
  | .intent_notices => .setNull
  | .ecosystem_invitations => .setNull
  | .marketplace_subscription => .setNull

/-- The tables whose rows keep an agent from being deleted. -/
def agentTables : List Table := [.agent_invitations,.org_dids,.oidc_issuer,.x509_certificates,.oid4vp_verifier]
def restricting : List Table :=
  [.agent_invitations,.user_activity,.org_invitations,.oid4vc_credentials,.oid4vp_presentations,.status_list_allocation,
    .issued_oid4vc_credentials,.verification_templates,.ecosystem_orgs,.marketplace_usage_event,.billing_usage_event]
def tablesToCheck : List Table :=
  [.org_dids,.agent_invitations,.connections,.credentials,.presentations,.file_upload]
inductive Cmd where
  | findAgent (orgId : String)
  | deleteAgent (orgId : String)
  | referenceCounts (orgId : String)
  | deleteMany (table : Table) (orgId : String)
  /-- `updateMany` of the client outside the transaction. -/
  | clearOutside (table : Table) (orgId : String)
  | deleteOrganisation (id : String)
@[reducible] def Ret : Cmd → Type
  | .findAgent _ => Option Row
  | .referenceCounts _ => List (Table × Nat)
  | .deleteMany _ _ => Nat
  | .deleteOrganisation _ => Row
  | _ => Unit
inductive Failure where
  /-- `Organization ID … is referenced in the table …` -/
  | referenced (table : Table)
  | other
abbrev Async := Prog Cmd Ret Failure
def perform (command : Cmd) : Async (Ret command) := call command
structure Deleted where
  deletedUserActivity : Nat
  deletedUserOrgRole : Nat
  deletedOrgInvitations : Nat
  deletedNotification : Nat
  deleteOrg : Row
/-- The agent of an organisation that never got a wallet goes with it. -/
def removeIncomplete (id : String) : Async Unit := do
  let orgAgent : Option Row ← perform (.findAgent id)
  match orgAgent with
  | none => pure ()
  | some orgAgent =>
    if (orgAgent.tenantId.filter (· ≠ "")).isSome = true then throw (.referenced .org_agents)
    else perform (.deleteAgent id)
def outside (id : String) (deletedNotification deletedUserActivity deletedUserOrgRole deletedOrgInvitations : Nat) :
    Async Deleted := do
  let _ : Unit ← perform (.clearOutside .schema id)
  let _ : Unit ← perform (.clearOutside .credential_definition id)
  let deleteOrg : Row ← perform (.deleteOrganisation id)
  pure ⟨deletedUserActivity,deletedUserOrgRole,deletedOrgInvitations,deletedNotification,deleteOrg⟩
def removeRows (id : String) : Async Deleted := do
  let deletedNotification : Nat ← perform (.deleteMany .notification id)
  let deletedUserActivity : Nat ← perform (.deleteMany .user_activity id)
  let deletedUserOrgRole : Nat ← perform (.deleteMany .user_org_roles id)
  let deletedOrgInvitations : Nat ← perform (.deleteMany .org_invitations id)
  outside id deletedNotification deletedUserActivity deletedUserOrgRole deletedOrgInvitations

def afterwards (id : String) : Async Deleted := do
  let referenceCounts : List (Table × Nat) ← perform (.referenceCounts id)
  match referenceCounts.find? fun count => 0 < count.2 with
  | some count => throw (.referenced count.1)
  | none => removeRows id
def callback (id : String) : Async Deleted := do
  let _ : Unit ← removeIncomplete id
  afterwards id
def ofOrg (id : String) (row : Row) : Bool := row.orgId = some id
def withoutOrg (row : Row) : Row := { row with orgId := none }
def deleteMany (db : Db) (table : Table) (id : String) : Db :=
  Function.update db table ((db table).filter fun row => !ofOrg id row)
def clear (id : String) (rows : List Row) :
    List Row := rows.map fun row => if ofOrg id row = true then withoutOrg row else row
def updateMany (db : Db) (table : Table) (id : String) : Db := Function.update db table (clear id (db table))
/-- A row of another table refers to an agent of the organisation. -/
def agentInUse (db : Db) (id : String) : Bool :=
  agentTables.any fun table => (db table).any fun row =>
    ((db .org_agents).filter (ofOrg id)).any fun agent => row.orgAgentId = some agent.id
def referenced (db : Db) (id : String) : Bool := restricting.any fun table => (db table).any (ofOrg id)

def withoutOrganisation (db : Db) (id : String) : Db := fun table =>
  if table = .organisation then (db table).filter fun row => row.id ≠ id
  else
    match onDelete table with
    | .setNull => clear id (db table)
    | _ => db table
structure World where
  committed : Db
  working : Db

def carry (c : Cmd) (w : World) : World × Except Failure (Ret c) :=
  match c with
  | .findAgent id => (w,.ok ((w.working .org_agents).find? (ofOrg id)))
  | .deleteAgent id =>
    if agentInUse w.working id = true then (w,.error .other)
    else ({ w with working := deleteMany w.working .org_agents id },.ok ())
  | .referenceCounts id => (w,.ok (tablesToCheck.map fun table => (table,((w.working table).filter (ofOrg id)).length)))
  | .deleteMany table id =>
    ({ w with working := deleteMany w.working table id },.ok ((w.working table).filter (ofOrg id)).length)
  | .clearOutside table id => (⟨updateMany w.committed table id,updateMany w.working table id⟩,.ok ())
  | .deleteOrganisation id =>
    match (w.working .organisation).find? fun row => row.id = id with
    | none => (w,.error .other)
    | some row =>
      if referenced w.working id = true then (w,.error .other)
      else ({ w with working := withoutOrganisation w.working id },.ok row)

/-- The end of the transaction: a commit, where the callback succeeded, which leaves nothing of it
    where it fails. -/
def finish (commits : Bool) (out : World × Option (Except Failure Deleted)) : Db × Option (Except Failure Deleted) :=
  match out.2 with
  | some (.ok deleted) =>
      if commits = true then (out.1.working,some (.ok deleted)) else (out.1.committed,some (.error .other))
  | ended => (out.1.committed,ended)
def deleteOrg (faults : Nat → Fault) (commits : Bool) (id : String) (db : Db) : Db × Option (Except Failure Deleted) :=
  finish commits (execute carry .other (callback id) faults ⟨db,db⟩)
/-- Whether the rows of the table have an organisation. -/
def hasOrg : Table → Bool
  | .organisation => false
  | .x509_certificates => false
  | .oid4vp_verifier => false
  | _ => true
/-- No row of the table is of the organisation. -/
def Free (db : Db) (table : Table) (id : String) : Prop := ∀ row ∈ db table, ofOrg id row = false

/-- Nothing refers to the organisation, the others are as before, and what is returned counts the
    rows that were removed. -/
structure Cleared (before after : Db) (id : String) (deleted : Deleted) : Prop where
  gone : ∀ table, hasOrg table = true → Free after table id
  removed : after .organisation = (before .organisation).filter fun row => row.id ≠ id
  others : ∀ table, table ≠ .organisation → ∀ other, other ≠ id →
    (after table).filter (ofOrg other) = (before table).filter (ofOrg other)
  activity : deleted.deletedUserActivity = ((before .user_activity).filter (ofOrg id)).length
  roles : deleted.deletedUserOrgRole = ((before .user_org_roles).filter (ofOrg id)).length
  invitations : deleted.deletedOrgInvitations = ((before .org_invitations).filter (ofOrg id)).length
  notification : deleted.deletedNotification = ((before .notification).filter (ofOrg id)).length
  organisation : (before .organisation).find? (fun row => row.id = id) = some deleted.deleteOrg

/-- A deletion that returns has deleted everything, and any other nothing. -/
def AllOrNothing (before : Db) (id : String) (out : Db × Option (Except Failure Deleted)) : Prop :=
  match out.2 with
  | some (.ok deleted) => Cleared before out.1 id deleted
  | _ => out.1 = before
def agentSteps (db : Db) (id : String) : Nat :=
  match (db .org_agents).find? (ofOrg id) with
  | none => 1
  | some _ => 2
/-- The deletion comes to the two statements that last at once. -/
structure Prepared (db : Db) (faults : Nat → Fault) (id : String) : Prop where
  steps : ∀ n, n < agentSteps db id + 5 → faults n = .none
  agent : ∀ agent, (db .org_agents).find? (ofOrg id) = some agent →
    (agent.tenantId.filter (· ≠ "")).isSome = false ∧ agentInUse db id = false
  checked : ∀ table ∈ tablesToCheck, Free db table id

def rest (db : Db) (faults : Nat → Fault) (id : String) : Nat → Fault := fun n => faults (n + (agentSteps db id + 5))
/-- The tables that can still keep the organisation from being deleted. -/
def remaining : List Table :=
  [.oid4vc_credentials,.oid4vp_presentations,.status_list_allocation,.issued_oid4vc_credentials,.verification_templates,
    .ecosystem_orgs,.marketplace_usage_event,.billing_usage_event]
/-- Nothing stands in the way of the deletion. -/
structure Completes (db : Db) (rest : Nat → Fault) (commits : Bool) (id : String) : Prop where
  steps : ∀ n, n < 3 → rest n = .none
  exists_ : ((db .organisation).find? fun row => row.id = id).isSome = true
  unreferenced : ∀ table ∈ remaining, Free db table id
  commits : commits = true
/-- The two statements are followed by no failure, or found nothing to change. -/
def Harmless (db : Db) (faults : Nat → Fault) (commits : Bool) (id : String) : Prop :=
  Prepared db faults id → Completes db (rest db faults id) commits id ∨
    ((rest db faults id 0).undone = true ∨ Free db .schema id) ∧
      (rest db faults id 0 = .none → (rest db faults id 1).undone = true ∨ Free db .credential_definition id)

variable {db : Db} {faults : Nat → Fault} {id other : String} {table t : Table}
theorem ofOrg_clear {rows : List Row} {row : Row} (there : row ∈ clear id rows) : ofOrg id row = false := by
  obtain ⟨old,-,rfl⟩ := List.mem_map.mp there
  split
  · rfl
  · rename_i not
    simpa using not

theorem filter_clear (apart : other ≠ id) (rows : List Row) :
    (clear id rows).filter (ofOrg other) = rows.filter (ofOrg other) := by
  induction rows with
  | nil => rfl
  | cons row rest ih =>
    simp only [clear,List.map_cons] at ih ⊢
    by_cases own : ofOrg id row = true
    · have not : ofOrg other row = false := by
        simp only [ofOrg,decide_eq_true_eq,decide_eq_false_iff_not] at own ⊢
        rw [own]
        exact fun same => apart (Option.some.inj same).symm
      have cleared : ofOrg other (withoutOrg row) = false := rfl
      rw [if_pos own,List.filter_cons_of_neg (by simp [cleared]),List.filter_cons_of_neg (by simp [not]),ih]
    · rw [if_neg own,List.filter_cons,List.filter_cons,ih]

theorem clear_eq_iff {rows : List Row} : clear id rows = rows ↔ ∀ row ∈ rows, ofOrg id row = false := by
  constructor
  · intro same row there
    exact ofOrg_clear (same ▸ there)
  · intro free
    refine (List.map_congr_left fun row there => ?_).trans (List.map_id rows)
    rw [if_neg (by simp [free row there])]
    rfl
theorem updateMany_eq_iff : updateMany db table id = db ↔ Free db table id := by
  rw [updateMany,Function.update_eq_self_iff]
  exact clear_eq_iff
theorem free_deleteMany (free : t = table ∨ Free db t id) : Free (deleteMany db table id) t id := by
  intro row there
  by_cases same : t = table
  · subst same
    rw [deleteMany,Function.update_self] at there
    simpa using (List.mem_filter.mp there).2
  · rw [deleteMany,Function.update_of_ne same] at there
    exact (free.resolve_left same) row there
theorem free_updateMany (free : t = table ∨ Free db t id) : Free (updateMany db table id) t id := by
  intro row there
  by_cases same : t = table
  · subst same
    rw [updateMany,Function.update_self] at there
    exact ofOrg_clear there
  · rw [updateMany,Function.update_of_ne same] at there
    exact (free.resolve_left same) row there

theorem free_withoutOrganisation (named : t ≠ .organisation) (free : onDelete t = .setNull ∨ Free db t id) :
    Free (withoutOrganisation db id) t id := by
  intro row there
  rw [withoutOrganisation,if_neg named] at there
  cases rule : onDelete t with
  | setNull =>
    rw [rule] at there
    exact ofOrg_clear there
  | restrict =>
    rw [rule] at there free
    exact (free.resolve_left (by decide)) row there
  | nothing =>
    rw [rule] at there free
    exact (free.resolve_left (by decide)) row there

/-- Two databases have the same rows of other organisations. -/
def Alike (id : String) (a b : Db) : Prop :=
  ∀ table, table ≠ .organisation → ∀ other, other ≠ id → (b table).filter (ofOrg other) = (a table).filter (ofOrg other)
theorem alike_refl : Alike id db db := fun _ _ _ _ => rfl
theorem alike_trans {a b c : Db} (first : Alike id a b) (second : Alike id b c) : Alike id a c :=
  fun table named other apart => (second table named other apart).trans (first table named other apart)

theorem alike_deleteMany : Alike id db (deleteMany db table id) := by
  intro t _ other apart
  by_cases same : t = table
  · subst same
    rw [deleteMany,Function.update_self,List.filter_filter]
    refine List.filter_congr fun row _ => ?_
    simp only [ofOrg]
    by_cases own : row.orgId = some other
    · simp [own,apart]
    · simp [own]
  · rw [deleteMany,Function.update_of_ne same]

theorem alike_updateMany : Alike id db (updateMany db table id) := by
  intro t _ other apart
  by_cases same : t = table
  · subst same
    rw [updateMany,Function.update_self]
    exact filter_clear apart _
  · rw [updateMany,Function.update_of_ne same]
theorem alike_withoutOrganisation : Alike id db (withoutOrganisation db id) := by
  intro t named other apart
  rw [withoutOrganisation,if_neg named]
  split
  · exact filter_clear apart _
  · rfl

/-- The function ended without a result, and nothing lasts of it. -/
def Early (db : Db) (out : World × Option (Except Failure Deleted)) : Prop :=
  out.1.committed = db ∧ ∀ deleted, out.2 ≠ some (.ok deleted)
def count (db : Db) (table : Table) (id : String) : Nat := ((db table).filter (ofOrg id)).length
def afterAgent (db : Db) (id : String) : Db :=
  match (db .org_agents).find? (ofOrg id) with
  | none => db
  | some _ => deleteMany db .org_agents id
def prepared (db : Db) (id : String) : Db :=
  deleteMany (deleteMany (deleteMany (deleteMany (afterAgent db id) .notification id) .user_activity id)
    .user_org_roles id) .org_invitations id

variable {working : Db}
theorem execute_delete {f : Nat → Async Deleted} :
    faults 0 = .none ∧ execute carry .other (perform (.deleteMany table id) >>= f) faults ⟨db,working⟩ =
      execute carry .other (f (count working table id)) (later faults) ⟨db,deleteMany working table id⟩ ∨
    faults 0 ≠ .none ∧ Early db (execute carry .other (perform (.deleteMany table id) >>= f) faults ⟨db,working⟩) := by
  by_cases well : faults 0 = .none
  · exact .inl ⟨well,execute_ok well rfl⟩
  · refine .inr ⟨well,?_⟩
    rw [perform,execute_fault well]
    refine ⟨?_,ends_failed well⟩
    split <;> rfl
theorem count_update (apart : t ≠ table) : count (deleteMany db table id) t id = count db t id := by
  rw [count,deleteMany,Function.update_of_ne apart]
  rfl
theorem free_iff_count : count db table id = 0 ↔ Free db table id := by
  rw [count,List.length_eq_zero_iff,List.filter_eq_nil_iff]
  exact forall_congr' fun row => imp_congr_right fun _ => by simp

theorem removeRows_cases :
    (∀ n, n < 4 → faults n = .none) ∧
      execute carry .other (removeRows id) faults ⟨db,working⟩ =
        execute carry .other (outside id (count working .notification id) (count working .user_activity id)
            (count working .user_org_roles id) (count working .org_invitations id))
          (later (later (later (later faults))))
          ⟨db,deleteMany (deleteMany (deleteMany (deleteMany working .notification id) .user_activity id) .user_org_roles id)
            .org_invitations id⟩ ∨
    ¬(∀ n, n < 4 → faults n = .none) ∧ Early db (execute carry .other (removeRows id) faults ⟨db,working⟩) := by
  unfold removeRows
  rcases execute_delete with ⟨first,same⟩ | ⟨bad,early⟩
  · rw [same]
    rcases execute_delete with ⟨second,same⟩ | ⟨bad,early⟩
    · rw [same]
      rcases execute_delete with ⟨third,same⟩ | ⟨bad,early⟩
      · rw [same]
        rcases execute_delete with ⟨fourth,same⟩ | ⟨bad,early⟩
        · rw [same]
          refine .inl ⟨fun n small => ?_,?_⟩
          · interval_cases n
            · exact first
            · exact second
            · exact third
            · exact fourth
          · rw [count_update (by decide),count_update (by decide),count_update (by decide),count_update (by decide),
              count_update (by decide),count_update (by decide)]
        · exact .inr ⟨fun all => bad (all 3 (by decide)),early⟩
      · exact .inr ⟨fun all => bad (all 2 (by decide)),early⟩
    · exact .inr ⟨fun all => bad (all 1 (by decide)),early⟩
  · exact .inr ⟨fun all => bad (all 0 (by decide)),early⟩

variable (db faults id working) in
theorem checked_cases :
    ((∀ n, n < 5 → faults n = .none) ∧ ∀ table ∈ tablesToCheck, Free working table id) ∧
      execute carry .other (afterwards id) faults ⟨db,working⟩ =
        execute carry .other (outside id (count working .notification id) (count working .user_activity id)
            (count working .user_org_roles id) (count working .org_invitations id))
          (later (later (later (later (later faults)))))
          ⟨db,deleteMany (deleteMany (deleteMany (deleteMany working .notification id) .user_activity id) .user_org_roles id)
            .org_invitations id⟩ ∨
    ¬((∀ n, n < 5 → faults n = .none) ∧ ∀ table ∈ tablesToCheck, Free working table id) ∧
      Early db (execute carry .other (afterwards id) faults ⟨db,working⟩) := by
  have carried : carry (.referenceCounts id) ⟨db,working⟩ =
      (⟨db,working⟩,.ok (tablesToCheck.map fun table => (table,count working table id))) := rfl
  unfold afterwards
  rcases execute_read carried with ⟨first,same⟩ | ⟨bad,same⟩
  · rw [perform,same]
    cases found : (tablesToCheck.map fun table => (table,count working table id)).find? fun count => 0 < count.2 with
    | some hit =>
      refine .inr ⟨fun both => ?_,rfl,fun deleted same => by cases same⟩
      obtain ⟨table,listed,rfl⟩ := List.mem_map.mp (List.mem_of_find?_eq_some found)
      have positive := List.find?_some found
      rw [decide_eq_true_eq,free_iff_count.mpr (both.2 table listed)] at positive
      exact absurd positive (Nat.lt_irrefl 0)
    | none =>
      have free : ∀ table ∈ tablesToCheck, Free working table id := by
        intro table listed
        have zero := List.find?_eq_none.mp found _ (List.mem_map.mpr ⟨table,listed,rfl⟩)
        exact free_iff_count.mp (by simpa using zero)
      rcases removeRows_cases with ⟨steps,same⟩ | ⟨bad,early⟩
      · refine .inl ⟨⟨fun n small => ?_,free⟩,same⟩
        cases n with
        | zero => exact first
        | succ n => exact steps n (by omega)
      · refine .inr ⟨fun both => bad fun n small => both.1 (n + 1) (by omega),early⟩
  · rw [perform,same]
    exact .inr ⟨fun both => bad (both.1 0 (by decide)),rfl,ends_failed bad⟩

theorem free_other (apart : t ≠ table) : Free (deleteMany db table id) t id ↔ Free db t id := by
  rw [Free,deleteMany,Function.update_of_ne apart]
  rfl

theorem callback_cases :
    Prepared db faults id ∧ execute carry .other (callback id) faults ⟨db,db⟩ =
      execute carry .other (outside id (count db .notification id) (count db .user_activity id)
        (count db .user_org_roles id) (count db .org_invitations id)) (rest db faults id) ⟨db,prepared db id⟩ ∨
    ¬Prepared db faults id ∧ Early db (execute carry .other (callback id) faults ⟨db,db⟩) := by
  unfold callback removeIncomplete
  rw [Await.seq_assoc]
  have looked : carry (.findAgent id) ⟨db,db⟩ = (⟨db,db⟩,.ok ((db .org_agents).find? (ofOrg id))) := rfl
  rcases execute_read looked with ⟨first,same⟩ | ⟨bad,same⟩
  · rw [perform,same]
    cases agent : (db .org_agents).find? (ofOrg id) with
    | none =>
      have one : agentSteps db id = 1 := by rw [agentSteps,agent]
      have start : prepared db id = deleteMany
          (deleteMany (deleteMany (deleteMany db .notification id) .user_activity id)
          .user_org_roles id) .org_invitations id := by rw [prepared,afterAgent,agent]
      have plain : (pure () >>= fun _ => afterwards id : Async Deleted) = afterwards id := rfl
      dsimp only
      rw [plain]
      rcases checked_cases db (later faults) id db with ⟨⟨steps,free⟩,same⟩ | ⟨bad,early⟩
      · refine .inl ⟨⟨fun n small => ?_,fun other some_ => ?_,free⟩,?_⟩
        · cases n with
          | zero => exact first
          | succ n => exact steps n (by omega)
        · rw [agent] at some_
          cases some_
        · rw [same,start]
          unfold rest
          rw [one]
          rfl
      · refine .inr ⟨fun ready => bad ⟨fun n small => ready.steps (n + 1) (by omega),ready.checked⟩,early⟩
    | some found =>
      have two : agentSteps db id = 2 := by rw [agentSteps,agent]
      dsimp only
      by_cases wallet : (found.tenantId.filter (· ≠ "")).isSome = true
      · rw [if_pos wallet]
        refine .inr ⟨fun ready => ?_,rfl,fun deleted same => by cases same⟩
        rw [(ready.agent found agent).1] at wallet
        cases wallet
      · rw [if_neg wallet]
        by_cases used : agentInUse db id = true
        · have carried : carry (.deleteAgent id) ⟨db,db⟩ = (⟨db,db⟩,.error .other) := if_pos used
          have out : ¬Prepared db faults id := by
            intro ready
            rw [(ready.agent found agent).2] at used
            cases used
          by_cases second : later faults 0 = .none
          · rw [perform,execute_error second carried]
            exact .inr ⟨out,rfl,fun deleted same => by cases same⟩
          · rw [perform,execute_fault second,carried,ite_self]
            exact .inr ⟨out,rfl,ends_failed second⟩
        · have carried : carry (.deleteAgent id) ⟨db,db⟩ = (⟨db,deleteMany db .org_agents id⟩,.ok ()) := if_neg used
          by_cases second : later faults 0 = .none
          · rw [perform,execute_ok second carried]
            have start : prepared db id = deleteMany (deleteMany (deleteMany (deleteMany (deleteMany db .org_agents id)
                .notification id) .user_activity id) .user_org_roles id) .org_invitations
                id := by rw [prepared,afterAgent,agent]
            have others : ∀ table ∈ tablesToCheck, table ≠ .org_agents := by decide
            rcases checked_cases db (later (later faults)) id
                (deleteMany db .org_agents id) with ⟨⟨steps,free⟩,same⟩ | ⟨bad,early⟩
            · refine .inl ⟨⟨fun n small => ?_,fun other some_ => ?_,fun table listed =>
                (free_other (others table listed)).mp (free table listed)⟩,?_⟩
              · cases n with
                | zero => exact first
                | succ n =>
                  cases n with
                  | zero => exact second
                  | succ n => exact steps n (by omega)
              · cases agent.symm.trans some_
                exact ⟨by simpa using wallet,by simpa using used⟩
              · rw [same,start,count_update (by decide),count_update (by decide),count_update (by decide),
                  count_update (by decide)]
                unfold rest
                rw [two]
                rfl
            · refine .inr ⟨fun ready => bad ⟨fun n small => ready.steps (n + 2) (by omega),fun table listed =>
                (free_other (others table listed)).mpr (ready.checked table listed)⟩,early⟩
          · rw [perform,execute_fault second,carried]
            refine .inr ⟨fun ready => second (ready.steps 1 (by omega)),?_,ends_failed second⟩
            split <;> rfl
  · rw [perform,same]
    exact .inr ⟨fun ready => bad (ready.steps 0 (by omega)),rfl,ends_failed bad⟩

def cleared (db : Db) (id : String) : Db := updateMany (updateMany db .schema id) .credential_definition id

theorem cleared_eq_iff : cleared db id = db ↔ Free db .schema id ∧ Free db .credential_definition id := by
  constructor
  · intro same
    have at_ : ∀ t, cleared db id t = db t := congrFun same
    have schema := at_ .schema
    have definition := at_ .credential_definition
    rw [cleared,updateMany,Function.update_of_ne (by decide),updateMany,Function.update_self] at schema
    rw [cleared,updateMany,Function.update_self,updateMany,Function.update_of_ne (by decide)] at definition
    exact ⟨clear_eq_iff.mp schema,clear_eq_iff.mp definition⟩
  · rintro ⟨schema,definition⟩
    rw [cleared,updateMany_eq_iff.mpr schema,updateMany_eq_iff.mpr definition]

/-- Tables that no statement is about. -/
def untouched (t : Table) : Bool :=
  !([.org_agents,.notification,.user_activity,.user_org_roles,.org_invitations,.schema,.credential_definition].contains t)

variable (db id) in
theorem cleared_untouched (other : untouched t = true) : cleared (prepared db id) id t = db t := by
  have apart : ∀ named ∈ [Table.org_agents,.notification,.user_activity,.user_org_roles,.org_invitations,.schema,
      .credential_definition], t ≠ named := by
    rintro named listed rfl
    rw [untouched,List.contains_iff_mem.mpr listed] at other
    cases other
  have agent : afterAgent db id t = db t := by
    unfold afterAgent
    cases (db .org_agents).find? (ofOrg id) with
    | none => rfl
    | some _ => exact Function.update_of_ne (apart _ (by simp)) _ _
  rw [cleared,updateMany,Function.update_of_ne (apart _ (by simp)),updateMany,Function.update_of_ne (apart _ (by simp)),
    prepared,deleteMany,Function.update_of_ne (apart _ (by simp)),deleteMany,Function.update_of_ne (apart _ (by simp)),
    deleteMany,Function.update_of_ne (apart _ (by simp)),deleteMany,Function.update_of_ne (apart _ (by simp)),agent]

theorem free_afterAgent : Free (afterAgent db id) .org_agents id := by
  rw [afterAgent]
  split
  · rename_i none_
    intro row there
    simpa using List.find?_eq_none.mp none_ row there
  · exact free_deleteMany (.inl rfl)

theorem free_cleared (touched : untouched t = false) : Free (cleared (prepared db id) id) t id := by
  have listed : t ∈ [Table.org_agents,.notification,.user_activity,.user_org_roles,.org_invitations,.schema,
      .credential_definition] := by
    rw [untouched,Bool.not_eq_false'] at touched
    exact List.contains_iff_mem.mp touched
  have kept : Free (prepared db id) t id → Free (cleared (prepared db id) id) t id := fun free =>
    free_updateMany (.inr (free_updateMany (.inr free)))
  simp only [List.mem_cons,List.not_mem_nil,or_false] at listed
  rcases listed with rfl | rfl | rfl | rfl | rfl | rfl | rfl
  · exact kept (free_deleteMany (.inr (free_deleteMany (.inr (free_deleteMany (.inr (free_deleteMany (.inr free_afterAgent))))))))
  · exact kept (free_deleteMany (.inr (free_deleteMany (.inr (free_deleteMany (.inr (free_deleteMany (.inl rfl))))))))
  · exact kept (free_deleteMany (.inr (free_deleteMany (.inr (free_deleteMany (.inl rfl))))))
  · exact kept (free_deleteMany (.inr (free_deleteMany (.inl rfl))))
  · exact kept (free_deleteMany (.inl rfl))
  · exact free_updateMany (.inr (free_updateMany (.inl rfl)))
  · exact free_updateMany (.inl rfl)

theorem referenced_iff (ready : Prepared db faults id) :
    referenced (cleared (prepared db id) id) id = false ↔ ∀ table ∈ remaining, Free db table id := by
  have all : referenced (cleared (prepared db id) id) id = false ↔
      ∀ table ∈ restricting, Free (cleared (prepared db id) id) table id := by
    simp only [referenced,List.any_eq_false,List.any_eq_true,not_exists,not_and,Bool.not_eq_true,Free]
  have invitations : Free db .agent_invitations id := ready.checked _ (by decide)
  rw [all]
  constructor
  · intro free table listed
    have same := cleared_untouched db id ((by decide : ∀ t ∈ remaining, untouched t = true) table listed)
    intro row there
    exact free table ((by decide : ∀ t ∈ remaining, t ∈ restricting) table listed) row (same ▸ there)
  · intro free table listed
    by_cases touched : untouched table = false
    · exact free_cleared touched
    · have same := cleared_untouched db id (by simpa using touched)
      intro row there
      rw [same] at there
      rcases (by decide : ∀ t ∈ restricting, t ∈ remaining ∨ t = .agent_invitations ∨ untouched t = false)
          table listed with
        remains | rfl | out
      · exact free table remains row there
      · exact invitations row there
      · exact absurd out touched

theorem cleared_of_deleted (ready : Prepared db faults id) {organisation : Row}
    (found : (db .organisation).find? (fun row => row.id = id) = some organisation)
    (unreferenced : ∀ table ∈ remaining, Free db table id) :
    Cleared db (withoutOrganisation (cleared (prepared db id) id) id) id
      ⟨count db .user_activity id,count db .user_org_roles id,count db .org_invitations id,count db .notification id,
      organisation⟩ where
  gone table has := by
    have named : table ≠ .organisation := by
      rintro rfl
      cases has
    refine free_withoutOrganisation named ?_
    by_cases touched : untouched table = false
    · exact .inr (free_cleared touched)
    · have same := cleared_untouched db id (by simpa using touched)
      have kinds : onDelete table = .setNull ∨ table ∈ remaining ∨ table ∈ tablesToCheck ∨ untouched table = false := by
        revert has
        cases table <;> decide
      rcases kinds with null | remains | checked | out
      · exact .inl null
      · exact .inr fun row there => unreferenced table remains row (same ▸ there)
      · exact .inr fun row there => ready.checked table checked row (same ▸ there)
      · exact absurd out touched
  removed := by
    rw [withoutOrganisation,if_pos rfl,cleared_untouched _ _ rfl]
  others := by
    have agent : Alike id db (afterAgent db id) := by
      rw [afterAgent]
      split
      · exact alike_refl
      · exact alike_deleteMany
    exact alike_trans agent (alike_trans alike_deleteMany (alike_trans alike_deleteMany (alike_trans alike_deleteMany
      (alike_trans alike_deleteMany (alike_trans alike_updateMany (alike_trans alike_updateMany alike_withoutOrganisation))))))
  activity := rfl
  roles := rfl
  invitations := rfl
  notification := rfl
  organisation := found

theorem finish_early {out : World × Option (Except Failure Deleted)} {commits : Bool}
    (failed : ∀ deleted, out.2 ≠ some (.ok deleted)) :
    AllOrNothing db id (finish commits out) ↔ out.1.committed = db := by
  obtain ⟨w,ended⟩ := out
  rcases ended with _ | error | deleted
  · rfl
  · rfl
  · exact absurd rfl (failed deleted)

theorem outside_iff {commits : Bool} (ready : Prepared db faults id) :
    AllOrNothing db id (finish commits (execute carry .other (outside id (count db .notification id)
        (count db .user_activity id) (count db .user_org_roles id) (count db .org_invitations id))
        (rest db faults id) ⟨db,prepared db id⟩)) ↔
      Completes db (rest db faults id) commits id ∨
        ((rest db faults id 0).undone = true ∨ Free db .schema id) ∧
          (rest db faults id 0 = .none → (rest db faults id 1).undone = true ∨ Free db .credential_definition id) := by
  generalize rest db faults id = g
  have clearing : ∀ table (w : World), carry (.clearOutside table id) w =
      (⟨updateMany w.committed table id,updateMany w.working table id⟩,.ok ()) := fun _ _ => rfl
  unfold outside
  by_cases first : g 0 = .none
  · rw [perform,execute_ok first (clearing _ _)]
    simp only [first,Fault.undone,Bool.false_eq_true,false_or,true_imp_iff]
    by_cases second : g 1 = .none
    · rw [perform,execute_ok second (clearing _ _)]
      simp only [second,Bool.false_eq_true,false_or]
      have both : (⟨updateMany (updateMany db .schema id) .credential_definition id,
          updateMany (updateMany (prepared db id) .schema id) .credential_definition id⟩ : World) =
          ⟨cleared db id,cleared (prepared db id) id⟩ := rfl
      rw [both]
      have stuck : ∀ {out : World × Option (Except Failure Deleted)}, out.1.committed = cleared db id →
          (∀ deleted, out.2 ≠ some (.ok deleted)) → ¬Completes db g commits id →
          (AllOrNothing db id (finish commits out) ↔
            Completes db g commits id ∨ Free db .schema id ∧ Free db .credential_definition id) := by
        intro out same failed short
        rw [finish_early failed,same,cleared_eq_iff]
        exact ⟨.inr,fun either => either.resolve_left short⟩
      have organisations : cleared (prepared db id) id .organisation = db .organisation := cleared_untouched _ _ rfl
      cases found : (db .organisation).find? (fun row => row.id = id) with
      | none =>
        have carried : carry (.deleteOrganisation id) ⟨cleared db id,cleared (prepared db id) id⟩ =
            (⟨cleared db id,cleared (prepared db id) id⟩,.error .other) := by
          simp only [carry,organisations,found]
        have short : ¬Completes db g commits id := by
          intro completes
          have exists_ := completes.exists_
          rw [found] at exists_
          cases exists_
        by_cases third : later (later g) 0 = .none
        · rw [perform,execute_error third carried]
          exact stuck rfl (fun deleted same => by cases same) short
        · rw [perform,execute_fault third,carried,ite_self]
          exact stuck rfl (ends_failed third) short
      | some organisation =>
        by_cases kept : referenced (cleared (prepared db id) id) id = true
        · have carried : carry (.deleteOrganisation id) ⟨cleared db id,cleared (prepared db id) id⟩ =
              (⟨cleared db id,cleared (prepared db id) id⟩,.error .other) := by
            simp only [carry,organisations,found,if_pos kept]
          have short : ¬Completes db g commits id := by
            intro completes
            rw [(referenced_iff ready).mpr completes.unreferenced] at kept
            cases kept
          by_cases third : later (later g) 0 = .none
          · rw [perform,execute_error third carried]
            exact stuck rfl (fun deleted same => by cases same) short
          · rw [perform,execute_fault third,carried,ite_self]
            exact stuck rfl (ends_failed third) short
        · have carried : carry (.deleteOrganisation id) ⟨cleared db id,cleared (prepared db id) id⟩ =
              (⟨cleared db id,withoutOrganisation (cleared (prepared db id) id) id⟩,.ok organisation) := by
            simp only [carry,organisations,found,if_neg kept]
          have unreferenced := (referenced_iff ready).mp (by simpa using kept)
          by_cases third : later (later g) 0 = .none
          · rw [perform,execute_ok third carried]
            cases commits with
            | true =>
              refine ⟨fun _ => .inl ⟨fun n small => ?_,by rw [found]; rfl,unreferenced,rfl⟩,fun _ =>
                cleared_of_deleted ready found unreferenced⟩
              interval_cases n
              · exact first
              · exact second
              · exact third
            | false =>
              have short : ¬Completes db g false id := fun completes => by cases completes.commits
              change cleared db id = db ↔ _
              rw [cleared_eq_iff]
              exact ⟨.inr,fun either => either.resolve_left short⟩
          · rw [perform,execute_fault third,carried]
            refine stuck ?_ (ends_failed third) fun completes => third (completes.steps 2 (by decide))
            split <;> rfl
    · rw [perform,execute_fault second,clearing]
      rw [finish_early (ends_failed second)]
      have short : ¬Completes db g commits id := fun completes => second (completes.steps 1 (by decide))
      by_cases undone : (g 1).undone = true
      · have left : (later g 0).undone = true := undone
        rw [if_pos left]
        exact updateMany_eq_iff.trans ⟨fun free => .inr ⟨free,.inl undone⟩,fun either => (either.resolve_left short).1⟩
      · have left : ¬(later g 0).undone = true := undone
        rw [if_neg left]
        exact cleared_eq_iff.trans ⟨fun free => .inr ⟨free.1,.inr free.2⟩,fun either =>
          ⟨(either.resolve_left short).1,(either.resolve_left short).2.resolve_left undone⟩⟩
  · rw [perform,execute_fault first,clearing]
    rw [finish_early (ends_failed first)]
    have short : ¬Completes db g commits id := fun completes => first (completes.steps 0 (by decide))
    by_cases undone : (g 0).undone = true
    · rw [if_pos undone]
      exact ⟨fun _ => .inr ⟨.inl undone,fun none_ => absurd none_ first⟩,fun _ => rfl⟩
    · rw [if_neg undone]
      exact updateMany_eq_iff.trans ⟨fun free => .inr ⟨.inr free,fun none_ => absurd none_ first⟩,fun either =>
        (either.resolve_left short).1.resolve_left undone⟩

/-- The deletion is all or nothing exactly where the statements outside are harmless. -/
theorem deletion_iff (faults : Nat → Fault) (commits : Bool) (id : String) (db : Db) :
    AllOrNothing db id (deleteOrg faults commits id db) ↔ Harmless db faults commits id := by
  unfold deleteOrg
  rcases callback_cases with ⟨ready,same⟩ | ⟨out,early⟩
  · rw [same]
    have enough : ∀ {P : Prop}, (Completes db (rest db faults id) commits id ∨
        ((rest db faults id 0).undone = true ∨ Free db .schema id) ∧
          (rest db faults id 0 = .none → (rest db faults id 1).undone = true ∨ Free db .credential_definition id) ↔ P) →
        (Harmless db faults commits id ↔ P) :=
      fun same => ⟨fun harmless => same.mp (harmless ready),fun holds _ => same.mpr holds⟩
    rw [enough Iff.rfl]
    exact outside_iff ready
  · rw [finish_early early.2]
    exact ⟨fun _ ready => absurd ready out,fun _ => early.1⟩


def schemaRow : Row := ⟨"s1",some "acme",none,none,"degree"⟩
/-- The organisation has a schema, and issued a credential that keeps it. -/
def issuing : Db := fun table =>
  match table with
  | .organisation => [⟨"acme",none,none,none,"Acme"⟩]
  | .schema => [schemaRow]
  | .oid4vc_credentials => [⟨"c1",some "acme",none,none,""⟩]
  | _ => []

/-- Nothing fails but the foreign key: the deletion throws, and the schema has lost its organisation. -/
theorem schema_lost :
    (deleteOrg (fun _ => .none) true "acme" issuing).2 = some (.error .other) ∧
      (deleteOrg (fun _ => .none) true "acme" issuing).1 .schema = [withoutOrg schemaRow] ∧
      ¬AllOrNothing issuing "acme" (deleteOrg (fun _ => .none) true "acme" issuing) := by
  have ended : (deleteOrg (fun _ => .none) true "acme" issuing).2 = some (.error .other) := by rfl
  have left : (deleteOrg (fun _ => .none) true "acme" issuing).1 .schema = [withoutOrg schemaRow] := by rfl
  refine ⟨ended,left,fun whole => ?_⟩
  have same : (deleteOrg (fun _ => .none) true "acme" issuing).1 = issuing := by
    simpa only [AllOrNothing,ended] using whole
  rw [same] at left
  cases left

end Ngotag.OrgDeletion
