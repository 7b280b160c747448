import Ngotag.OrgRoles
import Mathlib.Data.List.Perm.Subperm
import Mathlib.Data.List.Nodup
import Mathlib.Logic.Relation

/-!
One call that replaces the roles of a user in an organisation. The old roles are deleted by one
step and the new ones inserted by others, none of which anybody awaits: the call has reported
success by then. Where the deletion comes first and nothing fails after it, a successful call
leaves exactly the requested roles, a failed one the roles that were there, and a role that does
not exist is refused before anything is deleted (`replacement_sound`).
-/
namespace Ngotag.RoleReplacement
open Runs Await Background OrgRoles
open JsObject (truthy truthy_some)

/-- The user and the organisation of a call that replaces roles. -/
def subject : Input → Option (String × String)
  | .updateOrgInvitation _ => none
  | .updateUserRoles orgId _ userId => some (userId,orgId)
  | .createOrgCredentials orgId userId _ => some (userId,orgId)

section
variable (svc : Services)

/-- The rows are the requested roles, each once; with a client they are requested by the ids of
    its roles. -/
def Exact (idpIds : String → Option String) (rows : List Row) : Input → Prop
  | .updateOrgInvitation _ => True
  | .updateUserRoles orgId roleIds _ =>
    match truthy (idpIds orgId) with
    | none => (rows.map Row.orgRoleId).Perm roleIds
    | some idpId => (rows.map Row.idpRoleId).Perm (roleIds.map some) ∧ ∀ row ∈ rows,
        ∃ client ∈ svc.clientRoles idpId, ∃ role ∈ svc.roles,
          row.idpRoleId = some client.id ∧ row.orgRoleId = role.id ∧ role.name = client.name
  | .createOrgCredentials orgId _ _ =>
    match truthy (idpIds orgId) with
    | none => ∃ role ∈ svc.roles, role.name = "owner" ∧ rows.map Row.orgRoleId = [role.id]
    | some _ => True

def Unknown (idpIds : String → Option String) : Input → Prop
  | .updateUserRoles orgId roleIds _ =>
    match truthy (idpIds orgId) with
    | none => ∃ role ∈ roleIds, ¬Known svc role
    | some idpId => ∃ role ∈ roleIds, ∀ client ∈ svc.clientRoles idpId, client.id ≠ role
  | _ => False
def ofUser (userId orgId : String) (rows : List Row) : List Row := rows.filter (held userId orgId)
/-- What the claim says of the call that has ended. -/
structure Good (rows : List Row) (idpIds : String → Option String) (input : Input) (userId orgId : String)
    (m : Machine Cmd Ret Failure Response World) : Prop where
  replaced : ∀ response, (m.thread 0).ended = some (.ok response) → m.world.tasks.running = [] →
    Exact svc idpIds (ofUser userId orgId m.world.rows) input
  restored : ∀ error, (m.thread 0).ended = some (.error error) → m.world.rows = rows
  refused : Unknown svc idpIds input → m.world.rows = rows
/-- Without a client either none of the roles exists, or all do and each is named once; with a
    client every requested role of it has a role of the same name. -/
def Resolvable (idpIds : String → Option String) : Input → Prop
  | .updateUserRoles orgId roleIds _ =>
    match truthy (idpIds orgId) with
    | none => (∀ role ∈ roleIds, ¬Known svc role) ∨ roleIds.Nodup ∧ ∀ role ∈ roleIds, Known svc role
    | some idpId => ∀ client ∈ svc.clientRoles idpId, client.id ∈ roleIds →
        ∃ role ∈ svc.roles, role.name ≠ "platform_admin" ∧ role.name = client.name
  | _ => True
def deletes : Work → Bool
  | .deleteOrgRoles _ _ => true
  | _ => false
/-- The roles of the call were deleted by a step that ran by itself. -/
def Resolved (w : World) : Prop := ∃ s ∈ w.tasks.settled, deletes s.task.work = true ∧ s.result ≠ none
/-- A task in the background has failed. -/
def Doomed (w : World) : Prop := ∃ s ∈ w.tasks.settled, s.result = none

/-- A deletion that fails is not carried out, and none is carried out after another step was
    rejected; the call to Keycloak does not fail after it; an insert is carried out, after it and
    of a role that exists, unless a step was rejected, and then it is not. -/
def Calm (w : World) (choice : Choice) : Work → Prop
  | .deleteOrgRoles _ _ => (choice.fails = true → choice.done = false) ∧ (choice.fails = false → ¬Doomed w)
  | .createUserClientRole _ _ _ => choice.fails = true → ¬Resolved w
  | .createUserOrgRole _ roleId _ _ =>
    (Doomed w → choice.fails = true ∧ choice.done = false) ∧
      (¬Doomed w → choice.fails = false ∧ Known svc roleId ∧ ∀ task ∈ w.tasks.running, deletes task.work = false)
  | _ => True

/-- The client of the organisation is stored. -/
def Fine (w : World) (choice : Choice) : Cmd → Prop
  | .one step_ => Calm svc w choice step_
  | .updateOrganizationById _ (some _) => choice.fails = false
  | _ => True
/-- The task in the background that ends is calm. -/
def Smooth (event : Env) (w : World) : Prop :=
  ∀ task, w.tasks.running[event.index]? = some task → Calm svc w event.choice task.work
def Proper (m : Machine Cmd Ret Failure Response World) : Action Choice Input Env → Prop
  | .advance process choice => ∀ command resume, m.thread process = .live (.await command resume) →
      Fine svc m.world choice command
  | .environment event => Smooth svc event m.world
  | _ => True

def assigns : Work → Bool
  | .createUserClientRole _ _ _ => true
  | _ => false
def rowOf : Work → Option Row
  | .createUserOrgRole userId roleId orgId idpRoleId => some (newRow 0 userId roleId orgId idpRoleId)
  | _ => none
def inserted (s : Settled Work) : Option Row := s.result.bind fun _ => rowOf s.task.work
def others (userId orgId : String) (rows : List Row) : List Row := rows.filter fun row => !held userId orgId row
/-- What the call starts: one deletion, unless it awaited it by itself and there is no call to
    Keycloak, and no update of an invitation. -/
structure Plan (userId orgId : String) (direct : Bool) (works : List Work) : Prop where
  deletion : ∀ step_ ∈ works, deletes step_ = true → step_ = .deleteOrgRoles userId orgId
  once : (works.filter deletes).length = if direct = true then 0 else 1
  alone : direct = true → ∀ step_ ∈ works, assigns step_ = false
  safe : ∀ step_ ∈ works, updates step_ = false
def Deleted (direct : Bool) (w : World) : Prop := direct = true ∨ Resolved w

/-- The steps are those of the plan. Before the deletion the rows are as they were; after it they
    are the others and those that were inserted since, and no step was rejected. -/
structure Phase (rows : List Row) (userId orgId : String) (direct : Bool) (works : List Work) (w : World) : Prop where
  running : ∀ task ∈ w.tasks.running, task.process = 0
  settled : ∀ s ∈ w.tasks.settled, s.task.process = 0
  works : w.tasks.works.Perm works
  counts : ∀ s ∈ w.tasks.settled, deletes s.task.work = true → ∀ count, s.result = some count →
    count = (ofUser userId orgId rows).length
  before : ¬Deleted direct w → w.rows = rows ∧ w.tasks.settled.filterMap inserted = []
  after : Deleted direct w → ¬Doomed w ∧ w.rows = w.tasks.settled.filterMap inserted ++ others userId orgId rows

variable {svc} {rows : List Row} {userId orgId : String} {direct : Bool} {works : List Work} {w after : World}
  {choice : Choice} {step_ : Work} {result : Option Nat} {event : Env}
theorem carry_done (carried : carry svc 0 step_ choice w = (after,result)) (succeeds : choice.fails = false) :
    (after,result) = work svc 0 w step_ := by
  rw [← carried,carry,if_neg]
  rw [succeeds]
  rintro ⟨⟨⟩,-⟩
theorem carry_undone (carried : carry svc 0 step_ choice w = (after,result)) (may : mayFail step_ = true)
    (fails : choice.fails = true) (undone : choice.done = false) : after = w ∧ result = none := by
  rw [carry,if_pos ⟨fails,may⟩,undone] at carried
  cases carried
  exact ⟨rfl,rfl⟩
theorem carry_rows_same {idpId : String} {keycloakUserId : Option String} {payload : List ClientRole}
    (carried : carry svc 0 (.createUserClientRole idpId keycloakUserId payload) choice w = (after,result)) :
    after.rows = w.rows := by
  rcases carry_cases carried with ⟨rfl,-,-⟩ | ⟨-,rfl,-⟩
  · rfl
  · rfl
theorem mem_works {task : Background.Task Work} {t : Tasks Work} (runs : task ∈ t.running) : task.work ∈ t.works :=
  List.mem_append_right _ (List.mem_map.mpr ⟨task,runs,rfl⟩)

theorem unresolved (plan : Plan userId orgId direct works) (works_ : w.tasks.works.Perm works)
    {task : Background.Task Work}
    (runs : task ∈ w.tasks.running) (deletion : deletes task.work = true) : ¬Deleted direct w := by
  have count : (w.tasks.works.filter deletes).length = if direct = true then 0 else 1 :=
    ((works_.filter deletes).length_eq).trans plan.once
  have some_ : task.work ∈ (w.tasks.running.map Background.Task.work).filter deletes :=
    List.mem_filter.mpr ⟨List.mem_map.mpr ⟨task,runs,rfl⟩,deletion⟩
  have positive := List.length_pos_of_mem some_
  rw [Tasks.works,List.filter_append,List.length_append] at count
  rintro (same | ⟨s,settled,deletion',-⟩)
  · rw [if_pos same] at count
    omega
  · have other : s.task.work ∈ (w.tasks.settled.map fun s => s.task.work).filter deletes :=
      List.mem_filter.mpr ⟨List.mem_map.mpr ⟨s,settled,rfl⟩,deletion'⟩
    have positive' := List.length_pos_of_mem other
    split at count <;> omega

theorem deleted_of_insert (plan : Plan userId orgId direct works) (phase : Phase rows userId orgId direct works w)
    (undoomed : ¬Doomed w) (none_ : ∀ task ∈ w.tasks.running, deletes task.work = false) : Deleted direct w := by
  by_cases same : direct = true
  · exact .inl same
  · have one : (works.filter deletes).length = 1 := by rw [plan.once,if_neg same]
    obtain ⟨deletion,there⟩ := List.exists_mem_of_length_pos (by omega : 0 < (works.filter deletes).length)
    obtain ⟨listed,deletes_⟩ := List.mem_filter.mp there
    rcases List.mem_append.mp (phase.works.mem_iff.mpr listed) with settled | running
    · obtain ⟨s,here,rfl⟩ := List.mem_map.mp settled
      exact .inr ⟨s,here,deletes_,fun rejected => undoomed ⟨s,here,rejected⟩⟩
    · obtain ⟨task,here,rfl⟩ := List.mem_map.mp running
      exact absurd (deletes_.symm.trans (none_ task here)) (by decide)

theorem phase_settle (plan : Plan userId orgId direct works) (phase : Phase rows userId orgId direct works w)
    (smooth : Smooth svc event w) (settled : settle svc event w = some after) :
    Phase rows userId orgId direct works after := by
  obtain ⟨⟨owner,step_⟩,carried,result,at_,did,rfl⟩ := settle_cases settled
  have calm : Calm svc w event.choice step_ := smooth _ at_
  have runs : ⟨owner,step_⟩ ∈ w.tasks.running := List.mem_of_getElem? at_
  have listed : step_ ∈ works := phase.works.mem_iff.mp (mem_works runs)
  have own : owner = 0 := phase.running _ runs
  subst own
  have running : ∀ task ∈ (w.tasks.settle event.index ⟨0,step_⟩ result).running, task.process = 0 :=
    fun task there => phase.running task (mem_settle there)
  have owned : ∀ s ∈ (w.tasks.settle event.index ⟨0,step_⟩ result).settled, s.task.process = 0 := by
    intro s there
    rcases List.mem_cons.mp there with rfl | old
    · rfl
    · exact phase.settled s old
  have counted : (deletes step_ = true → ∀ count, result = some count → count = (ofUser userId orgId rows).length) →
      ∀ s ∈ (w.tasks.settle event.index ⟨0,step_⟩ result).settled, deletes s.task.work = true → ∀ count,
        s.result = some count → count = (ofUser userId orgId rows).length := by
    intro new s there
    rcases List.mem_cons.mp there with rfl | old
    · exact new
    · exact phase.counts s old
  -- What is resolved and rejected afterwards.
  have resolved : Deleted direct { carried with tasks := w.tasks.settle event.index ⟨0,step_⟩ result } →
      Deleted direct w ∨ deletes step_ = true ∧ result ≠ none := by
    rintro (same | ⟨s,there,deletion,some_⟩)
    · exact .inl (.inl same)
    · rcases List.mem_cons.mp there with rfl | old
      · exact .inr ⟨deletion,some_⟩
      · exact .inl (.inr ⟨s,old,deletion,some_⟩)
  have still : Deleted direct w →
      Deleted direct { carried with tasks := w.tasks.settle event.index ⟨0,step_⟩ result } := by
    rintro (same | ⟨s,there,deletion⟩)
    · exact .inl same
    · exact .inr ⟨s,List.mem_cons_of_mem _ there,deletion⟩
  have doomed : Doomed { carried with tasks := w.tasks.settle event.index ⟨0,step_⟩ result } → Doomed w ∨
      result = none := by
    rintro ⟨s,there,rejected⟩
    rcases List.mem_cons.mp there with rfl | old
    · exact .inr rejected
    · exact .inl ⟨s,old,rejected⟩
  -- A step that touches no row, and is not rejected after the deletion.
  have quiet : carried.rows = w.rows → inserted ⟨⟨0,step_⟩,result⟩ = none → (deletes step_ = true → result = none) →
      (Deleted direct w → result ≠ none) →
      Phase rows userId orgId direct works { carried with tasks := w.tasks.settle event.index ⟨0,step_⟩ result } := by
    intro same none_ undeleted fine
    have ins : (w.tasks.settle event.index ⟨0,step_⟩ result).settled.filterMap inserted =
        w.tasks.settled.filterMap inserted :=
      List.filterMap_cons_none none_
    refine ⟨running,owned,(works_settle at_).trans phase.works,counted ?_,fun undone => ?_,fun done => ?_⟩
    · exact fun deletion count same => absurd ((undeleted deletion).symm.trans same) (by rintro ⟨⟩)
    · rw [ins]
      exact (phase.before (fun done => undone (still done))).imp_left same.trans
    · have before := (resolved done).resolve_right fun both => both.2 (undeleted both.1)
      obtain ⟨undoomed,split_⟩ := phase.after before
      rw [ins]
      exact ⟨fun doomed_ => (doomed doomed_).elim undoomed (fine before),same.trans split_⟩
  cases step_ with
  | updateOrgInvitation id status => cases plan.safe _ listed
  | createUserClientRole idpId keycloakUserId payload =>
    by_cases fails : event.choice.fails = true
    · refine quiet (carry_rows_same did) (by cases result <;> rfl) (by rintro ⟨⟩) fun done => ?_
      rcases done with same | resolved_
      · cases plan.alone same _ listed
      · exact absurd resolved_ (calm fails)
    · cases carry_done did (by simpa using fails)
      exact quiet rfl rfl (by rintro ⟨⟩) fun _ => by rintro ⟨⟩
  | deleteUserClientRoles idpId keycloakUserId =>
    have same : (carried,result) = (w,some 0) := by
      rw [← did,carry,if_neg]
      · rfl
      · rintro ⟨-,⟨⟩⟩
    cases same
    exact quiet rfl rfl (by rintro ⟨⟩) fun _ => by rintro ⟨⟩
  | createUserOrgRole userId' roleId orgId' idpRoleId =>
    by_cases doomed_ : Doomed w
    · obtain ⟨fails,undone⟩ := calm.1 doomed_
      obtain ⟨rfl,rfl⟩ := carry_undone did rfl fails undone
      exact quiet rfl rfl (by rintro ⟨⟩) fun done => absurd doomed_ (phase.after done).1
    · obtain ⟨succeeds,known,none_⟩ := calm.2 doomed_
      have done := deleted_of_insert plan phase doomed_ none_
      have same : (carried,result) = (w.inserted (newRow 0 userId' roleId orgId' idpRoleId),some 1) :=
        (carry_done did succeeds).trans (if_pos known)
      cases same
      obtain ⟨undoomed,split_⟩ := phase.after done
      refine ⟨running,owned,(works_settle at_).trans phase.works,counted (by rintro ⟨⟩),
        fun undone => absurd (still done) undone,fun _ => ?_⟩
      refine ⟨fun rejected => (doomed rejected).elim undoomed (by rintro ⟨⟩),?_⟩
      exact congrArg (List.cons (newRow 0 userId' roleId orgId' idpRoleId)) split_
  | deleteOrgRoles userId' orgId' =>
    cases plan.deletion _ listed rfl
    have undone : ¬Deleted direct w := unresolved plan phase.works runs rfl
    by_cases fails : event.choice.fails = true
    · obtain ⟨rfl,rfl⟩ := carry_undone did rfl fails (calm.1 fails)
      exact quiet rfl rfl (fun _ => rfl) fun done => absurd done undone
    · have succeeds : event.choice.fails = false := by simpa using fails
      cases carry_done did succeeds
      obtain ⟨same,none_⟩ := phase.before undone
      refine ⟨running,owned,(works_settle at_).trans phase.works,counted ?_,fun undone => absurd ?_ undone,fun _ => ?_⟩
      · rintro - count ⟨⟩
        rw [same,ofUser]
      · exact .inr ⟨_,List.mem_cons_self,rfl,by rintro ⟨⟩⟩
      · refine ⟨fun doomed_ => (doomed doomed_).elim (calm.2 succeeds) (by rintro ⟨⟩),?_⟩
        have ins : (w.tasks.settle event.index ⟨0,.deleteOrgRoles userId orgId⟩
            (some (w.rows.filter (held userId orgId)).length)).settled.filterMap inserted = [] :=
          (List.filterMap_cons_none rfl).trans none_
        rw [ins,← same]
        rfl

variable (svc) in
/-- A step settles, or another call is made. -/
def Moved (a b : World) : Prop :=
  (∃ event, Smooth svc event a ∧ settle svc event a = some b) ∨
    ∃ process input, process ≠ 0 ∧ b = { a with calls := Function.update a.calls process (some input) }

/-- The call has changed nothing yet. -/
structure Start (rows : List Row) (idpIds : String → Option String) (w : World) : Prop where
  rows : w.rows = rows
  running : w.tasks.running = []
  settled : w.tasks.settled = []
  idpIds : w.idpIds = idpIds
/-- The rows are as before, and none is to come. -/
def Restored (rows : List Row) (w : World) : Prop := w.rows = rows ∧ (w.tasks.running = [] ∨ Doomed w)

variable {idpIds : String → Option String} {a b : World}
theorem no_settle (none_ : a.tasks.running = []) : settle svc event a ≠ some b := by
  rw [settle,none_]
  rintro ⟨⟩
theorem start_moved : ∀ a b, Start rows idpIds a → Moved svc a b → Start rows idpIds b := by
  rintro a b start (⟨event,-,settled⟩ | ⟨process,input,-,rfl⟩)
  · exact absurd settled (no_settle start.running)
  · exact ⟨start.rows,start.running,start.settled,start.idpIds⟩
theorem phase_moved (plan : Plan userId orgId direct works) :
    ∀ a b, Phase rows userId orgId direct works a → Moved svc a b → Phase rows userId orgId direct works b := by
  rintro a b phase (⟨event,smooth,settled⟩ | ⟨process,input,-,rfl⟩)
  · exact phase_settle plan phase smooth settled
  · exact ⟨phase.running,phase.settled,phase.works,phase.counts,phase.before,phase.after⟩
theorem deleted_moved : ∀ a b, Deleted direct a → Moved svc a b → Deleted direct b := by
  rintro a b deleted (⟨event,-,settled⟩ | ⟨process,input,-,rfl⟩)
  · obtain ⟨task,carried,result,-,-,rfl⟩ := settle_cases settled
    rcases deleted with same | ⟨s,there,deletion⟩
    · exact .inl same
    · exact .inr ⟨s,List.mem_cons_of_mem _ there,deletion⟩
  · exact deleted

theorem restored_moved : ∀ a b, Restored rows a → Moved svc a b → Restored rows b := by
  rintro a b ⟨same,rests⟩ (⟨event,smooth,settled⟩ | ⟨process,input,-,rfl⟩)
  · rcases rests with none_ | doomed
    · exact absurd settled (no_settle none_)
    · obtain ⟨⟨owner,step_⟩,carried,result,at_,did,rfl⟩ := settle_cases settled
      have calm : Calm svc a event.choice step_ := smooth _ at_
      obtain ⟨s,there,rejected⟩ := doomed
      refine ⟨?_,.inr ⟨s,List.mem_cons_of_mem _ there,rejected⟩⟩
      rcases carry_cases did with ⟨rfl,-,-⟩ | ⟨happening,rfl,-⟩
      · exact same
      · cases step_ with
        | createUserOrgRole userId roleId orgId idpRoleId =>
          obtain ⟨fails,undone⟩ := calm.1 ⟨s,there,rejected⟩
          exact absurd (undone.symm.trans (happening rfl fails)) (by decide)
        | deleteOrgRoles userId orgId =>
          by_cases fails : event.choice.fails = true
          · exact absurd ((calm.1 fails).symm.trans (happening rfl fails)) (by decide)
          · exact absurd ⟨s,there,rejected⟩ (calm.2 (by simpa using fails))
        | _ => exact same
  · exact ⟨same,rests⟩

variable (svc) in
/-- The inserts are exactly the roles that were asked for. -/
def Target (idpIds : String → Option String) (input : Input) (userId orgId : String) (works : List Work) : Prop :=
  (∀ row ∈ works.filterMap rowOf, held userId orgId row = true) ∧
    ∀ rows, rows.Perm (works.filterMap rowOf) → Exact svc idpIds rows input

variable (svc) in
/-- The roles are deleted, and what is not inserted yet still runs. -/
def Replaced (rows : List Row) (idpIds : String → Option String) (input : Input) (userId orgId : String) (w : World) :
    Prop :=
  (∀ rows, Exact svc idpIds rows input) ∨
    ∃ direct works, Plan userId orgId direct works ∧ Phase rows userId orgId direct works w ∧ Deleted direct w ∧
      Target svc idpIds input userId orgId works

variable {input : Input}
theorem replaced_moved : ∀ a b, Replaced svc rows idpIds input userId orgId a → Moved svc a b →
    Replaced svc rows idpIds input userId orgId b := by
  rintro a b (any | ⟨direct,works,plan,phase,deleted,target⟩) moved
  · exact .inl any
  · exact .inr ⟨direct,works,plan,phase_moved plan a b phase moved,deleted_moved a b deleted moved,target⟩
theorem inserted_eq {s : Settled Work} {count : Nat} (resolved : s.result = some count) :
    inserted s = rowOf s.task.work := by
  rw [inserted,resolved]
  rfl

/-- When nothing runs any more the rows of the user are the requested ones. -/
theorem exact_of_replaced (replaced : Replaced svc rows idpIds input userId orgId w) (rests : w.tasks.running = []) :
    Exact svc idpIds (ofUser userId orgId w.rows) input := by
  rcases replaced with any | ⟨direct,works,plan,phase,deleted,mine,exact_⟩
  · exact any _
  · obtain ⟨undoomed,split_⟩ := phase.after deleted
    have works_ : (w.tasks.settled.map fun s => s.task.work).Perm works := by
      have all := phase.works
      rwa [Tasks.works,rests,List.map_nil,List.append_nil] at all
    have rows_ : w.tasks.settled.filterMap inserted = (w.tasks.settled.map fun s => s.task.work).filterMap rowOf := by
      rw [List.filterMap_map]
      refine List.filterMap_congr fun s there => ?_
      cases result : s.result with
      | none => exact absurd ⟨s,there,result⟩ undoomed
      | some count => exact inserted_eq result
    have perm : (w.tasks.settled.filterMap inserted).Perm (works.filterMap rowOf) := by
      rw [rows_]
      exact works_.filterMap rowOf
    have chosen : ofUser userId orgId w.rows = w.tasks.settled.filterMap inserted := by
      rw [split_,ofUser,List.filter_append,List.filter_eq_self.mpr fun row there => mine row (perm.mem_iff.mp there)]
      have none_ : (others userId orgId rows).filter (held userId orgId) = [] := by
        rw [others,List.filter_filter]
        simp
      rw [none_,List.append_nil]
    rw [chosen]
    exact exact_ _ perm

variable (svc rows idpIds input) in
/-- Only the call takes steps. Where a requested role does not exist nothing is started. -/
def contract : Contract Cmd World Choice Env where
  inv w := Unknown svc idpIds input → w.rows = rows ∧ w.tasks.running = []
  rely process a b := process = 0 → Relation.ReflTransGen (Moved svc) a b
  idle process w := process = 0 → Start rows idpIds w
  allowed process c choice w := process = 0 ∧ w.calls 0 = some input ∧ Fine svc w choice c
  happens := Smooth svc

variable (svc) in
/-- What the call leaves: the rows as before where it fails, and else the new ones. -/
def Ends (rows : List Row) (idpIds : String → Option String) (input : Input) (userId orgId : String)
    (result : Except Failure Response) (w : World) : Prop :=
  match result with
  | .error _ => Restored rows w
  | .ok _ => Replaced svc rows idpIds input userId orgId w

theorem stays {P : World → Prop} (stable : ∀ a b, P a → Moved svc a b → P b) (now : P a)
    (moved : Relation.ReflTransGen (Moved svc) a b) : P b := by
  induction moved with
  | refl => exact now
  | tail _ last ih => exact stable _ _ ih last
def reads : Cmd → Bool
  | .one _ => false
  | .start _ => false
  | .all _ => false
  | .updateOrganizationById _ _ => false
  | _ => true

variable {c : Cmd} {answer : Except Failure (Ret c)} {process : Nat}
theorem handle_calls (handled : handle svc process c choice w = some (after,answer)) : after.calls = w.calls := by
  cases c with
  | one step_ =>
    obtain ⟨did,-⟩ := Prod.mk.inj (Option.some.inj handled)
    have carried : carry svc process step_ choice w = (after,(carry svc process step_ choice w).2) := Prod.ext did rfl
    exact (carry_frame carried).1
  | all works =>
    obtain ⟨result,-,same⟩ := Option.map_eq_some_iff.mp handled
    cases same
    rfl
  | updateOrganizationById orgId idpId =>
    simp only [handle,Option.some.injEq] at handled
    split at handled
    · split at handled <;> (cases handled; rfl)
    · cases handled
      rfl
  | _ => cases handled; rfl

theorem handle_reads (quiet : reads c = true) (handled : handle svc process c choice w = some (after,answer)) :
    after = w := by
  cases c with
  | one step_ => cases quiet
  | start works => cases quiet
  | all works => cases quiet
  | updateOrganizationById orgId idpId => cases quiet
  | _ => cases handled; rfl
theorem wp_command {P : World → Prop} {wanted : Except Failure (Ret c) → World → Prop}
    (stable : ∀ a b, P a → Moved svc a b → P b)
    (carried : ∀ before choice after answer, (Unknown svc idpIds input → before.rows = rows ∧ before.tasks.running = []) →
      P before → Fine svc before choice c → handle svc 0 c choice before = some (after,answer) →
        (Unknown svc idpIds input → after.rows = rows ∧ after.tasks.running = []) ∧ wanted answer after)
    (now : P w) : wp (sys svc) (contract svc rows idpIds input) 0 (perform c) wanted w :=
  wp_call fun before relied inv choice after answer allowed handled => by
    obtain ⟨kept,ends⟩ := carried before choice after answer inv (stays stable now (relied rfl)) allowed.2.2 handled
    exact ⟨kept,fun other apart same => absurd same apart,ends⟩

theorem wp_found {K : Ret c → Prop} (quiet : reads c = true)
    (answers : ∀ choice w after value, Start rows idpIds w → handle svc 0 c choice w = some (after,.ok value) → K value)
    (start : Start rows idpIds w) :
    wp (sys svc) (contract svc rows idpIds input) 0 (perform c)
      (upon (fun value w => Start rows idpIds w ∧ K value) (Restored rows)) w := by
  refine wp_command start_moved (fun before choice after answer inv start _ handled => ?_) start
  obtain rfl := handle_reads quiet handled
  refine ⟨inv,?_⟩
  cases answer with
  | error error => exact ⟨start.rows,.inl start.running⟩
  | ok value => exact ⟨start,answers choice after after value start handled⟩

theorem wp_read (quiet : reads c = true) (start : Start rows idpIds w) :
    wp (sys svc) (contract svc rows idpIds input) 0 (perform c)
      (upon (fun _ => Start rows idpIds) (Restored rows)) w := by
  refine wp_mono ?_ (wp_found (K := fun _ => True) quiet (fun _ _ _ _ _ _ => trivial) start)
  rintro (error | value) w' ended
  · exact ended
  · exact ended.1
theorem start_restored (start : Start rows idpIds w) : Restored rows w := ⟨start.rows,.inl start.running⟩

theorem phase_of_start (start : Start rows idpIds w) : Phase rows userId orgId false [] w where
  running := by rw [start.running]; exact fun _ there => (List.not_mem_nil there).elim
  settled := by rw [start.settled]; exact fun _ there => (List.not_mem_nil there).elim
  works := by rw [Tasks.works,start.running,start.settled]; exact List.Perm.refl _
  counts := by rw [start.settled]; exact fun _ there => (List.not_mem_nil there).elim
  before _ := by rw [start.settled]; exact ⟨start.rows,rfl⟩
  after deleted := by
    rcases deleted with same | ⟨s,there,-⟩
    · cases same
    · rw [start.settled] at there
      cases there

theorem phase_start {more : List Work} (phase : Phase rows userId orgId direct works w) :
    Phase rows userId orgId direct (works ++ more) { w with tasks := w.tasks.start 0 more } where
  running task there := by
    rcases mem_start.mp there with old | ⟨same,-⟩
    · exact phase.running task old
    · exact same
  settled := phase.settled
  works := by
    rw [works_start]
    exact phase.works.append_right more
  counts := phase.counts
  before := phase.before
  after := phase.after

theorem wp_started {P : World → Prop} (more : List Work) (stable : ∀ a b, P a → Moved svc a b → P b)
    (known : ¬Unknown svc idpIds input) (now : P w) :
    wp (sys svc) (contract svc rows idpIds input) 0 (perform (.start more))
      (upon (fun _ w => ∃ before, P before ∧ w = { before with tasks := before.tasks.start 0 more }) (Restored rows)) w := by
  refine wp_command stable (fun before choice after answer inv known' _ handled => ?_) now
  cases handled
  exact ⟨fun unknown => absurd unknown known,before,known',rfl⟩
theorem held_newRow {process : Nat} {roleId : String} {idpRoleId : Option String} :
    held userId orgId (newRow process userId roleId (some orgId) idpRoleId) = true := by
  simp [held,newRow]

theorem wp_getOrganizationDetails (start : Start rows idpIds w) :
    wp (sys svc) (contract svc rows idpIds input) 0 (perform (.getOrganizationDetails orgId))
      (upon (fun found w => Start rows idpIds w ∧ orgId ≠ "" ∧ ∀ idpId, found = some idpId → idpId = idpIds orgId)
        (Restored rows)) w := by
  refine wp_found (c := .getOrganizationDetails orgId) rfl (fun choice w after value start handled => ?_) start
  obtain ⟨-,answered_⟩ := Prod.mk.inj (Option.some.inj handled)
  split at answered_
  · cases answered_
  · rename_i well
    refine ⟨fun empty => well (.inl empty),fun idpId same => ?_⟩
    cases answered_
    obtain ⟨-,same⟩ := Option.ite_none_right_eq_some.mp same
    rw [← Option.some.inj same,start.idpIds]

section
variable {roleIds : List String}

theorem rows_createUserOrgRoles (filled : orgId ≠ "") : (createUserOrgRoles userId orgId roleIds).filterMap rowOf =
    roleIds.map fun role => newRow 0 userId role (some orgId) none := by
  have each : (rowOf ∘ fun role => Work.createUserOrgRole userId role (some orgId) none) =
      some ∘ fun role => newRow 0 userId role (some orgId) none := rfl
  rw [createUserOrgRoles,truthy_some filled,List.filterMap_map,each,List.filterMap_eq_map]

theorem plan_createUserOrgRoles : Plan userId orgId true (createUserOrgRoles userId orgId roleIds) where
  deletion step_ listed deletion := by
    obtain ⟨role,-,rfl⟩ := List.mem_map.mp listed
    cases deletion
  once := by simp [createUserOrgRoles,List.filter_map,deletes,Function.comp_def]
  alone _ step_ listed := by
    obtain ⟨role,-,rfl⟩ := List.mem_map.mp listed
    rfl
  safe step_ listed := by
    obtain ⟨role,-,rfl⟩ := List.mem_map.mp listed
    rfl

theorem plan_nil : Plan userId orgId true [] :=
  ⟨fun _ there => (List.not_mem_nil there).elim,rfl,fun _ _ there => (List.not_mem_nil there).elim,
    fun _ there => (List.not_mem_nil there).elim⟩
theorem target_createUserOrgRoles (filled : orgId ≠ "") (none_ : truthy (idpIds orgId) = none) :
    Target svc idpIds (.updateUserRoles orgId roleIds userId) userId orgId
    (createUserOrgRoles userId orgId roleIds) := by
  rw [Target,rows_createUserOrgRoles filled]
  refine ⟨fun row there => ?_,fun rows perm => ?_⟩
  · obtain ⟨role,-,rfl⟩ := List.mem_map.mp there
    exact held_newRow
  · simp only [Exact,none_]
    have roles := perm.map Row.orgRoleId
    rw [List.map_map] at roles
    exact roles.trans (List.Perm.of_eq (List.map_id roleIds))

theorem phase_deleted (same : w.rows = others userId orgId rows) (running : w.tasks.running = [])
    (settled : w.tasks.settled = []) : Phase rows userId orgId true [] w where
  running := by rw [running]; exact fun _ there => (List.not_mem_nil there).elim
  settled := by rw [settled]; exact fun _ there => (List.not_mem_nil there).elim
  works := by rw [Tasks.works,running,settled]; exact List.Perm.refl _
  counts := by rw [settled]; exact fun _ there => (List.not_mem_nil there).elim
  before undone := absurd (.inl rfl) undone
  after _ := by
    rw [Doomed,settled]
    refine ⟨?_,same⟩
    rintro ⟨_,there,_⟩
    exact List.not_mem_nil there

theorem wp_deleteOrgRoles (known : ¬Unknown svc idpIds input) (start : Start rows idpIds w) :
    wp (sys svc) (contract svc rows idpIds input) 0 (perform (.one (.deleteOrgRoles userId orgId)))
      (upon (fun count w => Phase rows userId orgId true [] w ∧ count = (ofUser userId orgId rows).length) (Restored rows)) w := by
  refine wp_command start_moved (fun before choice after answer inv start fine handled => ?_) start
  refine ⟨fun unknown => absurd unknown known,?_⟩
  have calm : Calm svc before choice (.deleteOrgRoles userId orgId) := fine
  obtain ⟨did,rfl⟩ := Prod.mk.inj (Option.some.inj handled)
  have carried : carry svc 0 (.deleteOrgRoles userId orgId) choice before =
      (after,(carry svc 0 (.deleteOrgRoles userId orgId) choice before).2) := Prod.ext did rfl
  by_cases fails : choice.fails = true
  · obtain ⟨rfl,failed⟩ := carry_undone carried rfl fails (calm.1 fails)
    rw [failed]
    exact start_restored start
  · have same := carry_done carried (by simpa using fails)
    rw [(Prod.mk.inj same).2]
    obtain rfl := (Prod.mk.inj same).1
    refine ⟨phase_deleted ?_ start.running start.settled,?_⟩
    · exact congrArg (List.filter fun row => !held userId orgId row) start.rows
    · rw [ofUser,← start.rows]

theorem others_of_none (none_ : (ofUser userId orgId rows).length = 0) : others userId orgId rows = rows := by
  refine List.filter_eq_self.mpr fun row there => ?_
  have out := List.filter_eq_nil_iff.mp (List.length_eq_zero_iff.mp none_) row there
  simpa using out
theorem restored_of_none (phase : Phase rows userId orgId direct works w) (deleted : Deleted direct w)
    (none_ : (ofUser userId orgId rows).length = 0) (plain : ∀ step_ ∈ works, rowOf step_ = none)
    (rests : w.tasks.running = []) : Restored rows w := by
  have nothing : w.tasks.settled.filterMap inserted = [] := by
    refine List.filterMap_eq_nil_iff.mpr fun s there => ?_
    have listed : s.task.work ∈ works := phase.works.mem_iff.mp (List.mem_append_left _ (List.mem_map.mpr ⟨s,there,rfl⟩))
    rw [inserted,plain _ listed]
    cases s.result <;> rfl
  refine ⟨?_,.inl rests⟩
  rw [(phase.after deleted).2,nothing,List.nil_append,others_of_none none_]

theorem wp_replaceOrgRoles (filled : orgId ≠ "") (none_ : truthy (idpIds orgId) = none)
    (resolvable : Resolvable svc idpIds (.updateUserRoles orgId roleIds userId)) (start : Start rows idpIds w) :
    wp (sys svc) (contract svc rows idpIds (.updateUserRoles orgId roleIds userId)) 0
        (replaceOrgRoles orgId roleIds userId)
      (upon (fun _ => Replaced svc rows idpIds (.updateUserRoles orgId roleIds userId) userId orgId) (Restored rows)) w := by
  simp only [Resolvable,none_] at resolvable
  refine wp_seq _ (wp_found (c := .getOrgRolesByIds roleIds)
    (K := fun found => found = svc.roles.filter fun role => roleIds.contains role.id) rfl ?_ start)
    fun isRolesExist w known => ?_
  · intro choice w after value _ handled
    obtain ⟨-,answered_⟩ := Prod.mk.inj (Option.some.inj handled)
    split at answered_
    · cases answered_
    · exact (Except.ok.inj answered_).symm
  obtain ⟨start,rfl⟩ := known
  refine wp_branches _ (fun _ => start_restored start) fun some_ => ?_
  have known : ∀ role ∈ roleIds, Known svc role := by
    rcases resolvable with unknown | ⟨-,known⟩
    · obtain ⟨role,there⟩ := List.exists_mem_of_length_pos (Nat.pos_of_ne_zero some_)
      obtain ⟨listed,requested⟩ := List.mem_filter.mp there
      have exists_ : Known svc role.id := List.any_eq_true.mpr ⟨role,listed,by simp⟩
      exact absurd exists_ (unknown role.id (by simpa using requested))
    · exact known
  have known_ : ¬Unknown svc idpIds (.updateUserRoles orgId roleIds userId) := by
    simp only [Unknown,none_]
    rintro ⟨role,listed,unknown⟩
    exact unknown (known role listed)
  refine wp_seq _ (wp_deleteOrgRoles known_ start) fun count w deleted => ?_
  obtain ⟨phase,rfl⟩ := deleted
  refine wp_branches _ (fun zero => ?_) fun _ => ?_
  · refine restored_of_none phase (.inl rfl) zero (fun _ there => (List.not_mem_nil there).elim) ?_
    exact List.eq_nil_iff_forall_not_mem.mpr fun task runs => List.not_mem_nil (phase.works.mem_iff.mp (mem_works runs))
  · refine wp_seq _ (wp_started _ (phase_moved plan_nil) known_ phase) fun _ w started => ?_
    obtain ⟨before,phase,rfl⟩ := started
    exact .inr ⟨true,_,plan_createUserOrgRoles,phase_start phase,.inl rfl,target_createUserOrgRoles filled none_⟩

variable {idpId : String} {keycloakUserId : Option String}
def deleting (idpId : String) (keycloakUserId : Option String) (userId orgId : String) : List Work :=
  [.deleteUserClientRoles idpId keycloakUserId,.deleteOrgRoles userId orgId]
def assigning (idpId : String) (keycloakUserId : Option String) (payload : List ClientRole) (userId orgId : String)
    (pairs : List (String × String)) : List Work :=
  .createUserClientRole idpId keycloakUserId payload :: updateUserOrgRole userId orgId pairs

theorem plan_inserts {start_ : List Work} (plan : Plan userId orgId false start_) {payload : List ClientRole}
    {pairs : List (String × String)} :
    Plan userId orgId false (start_ ++ assigning idpId keycloakUserId payload userId orgId pairs) := by
  have plain : ∀ step_ ∈ assigning idpId keycloakUserId payload userId orgId pairs, deletes step_ = false ∧
      updates step_ = false := by
    intro step_ listed
    rcases List.mem_cons.mp listed with rfl | later
    · exact ⟨rfl,rfl⟩
    · obtain ⟨pair,-,rfl⟩ := List.mem_map.mp later
      exact ⟨rfl,rfl⟩
  have none_ : (assigning idpId keycloakUserId payload userId orgId pairs).filter deletes = [] :=
    List.filter_eq_nil_iff.mpr fun step_ listed => by simp [(plain step_ listed).1]
  refine ⟨fun step_ listed deletion => ?_,?_,by rintro ⟨⟩,fun step_ listed => ?_⟩
  · rcases List.mem_append.mp listed with first | second
    · exact plan.deletion step_ first deletion
    · exact absurd (deletion.symm.trans (plain step_ second).1) (by decide)
  · rw [List.filter_append,none_,List.append_nil]
    exact plan.once
  · rcases List.mem_append.mp listed with first | second
    · exact plan.safe step_ first
    · exact (plain step_ second).2

theorem plan_deleting : Plan userId orgId false (deleting idpId keycloakUserId userId orgId) where
  deletion step_ listed deletion := by
    rcases List.mem_cons.mp listed with rfl | second
    · cases deletion
    · exact List.mem_singleton.mp second
  once := rfl
  alone := by rintro ⟨⟩
  safe step_ listed := by
    rcases List.mem_cons.mp listed with rfl | second
    · rfl
    · cases List.mem_singleton.mp second
      rfl

theorem restored_of_doomed (phase : Phase rows userId orgId direct works w) (doomed : Doomed w) : Restored rows w :=
  ⟨(phase.before fun deleted => (phase.after deleted).1 doomed).1,.inr doomed⟩

theorem settled_of_all {awaited : List Work} {total : Nat} (phase : Phase rows userId orgId direct works w)
    (ended : w.tasks.all 0 awaited = some (some total)) (listed : step_ ∈ awaited) (started : step_ ∈ works) :
    ∃ count, ⟨⟨0,step_⟩,some count⟩ ∈ w.tasks.settled ∧ count ≤ total := by
  obtain ⟨unrejected,rests⟩ := all_resolved ended listed
  rcases List.mem_append.mp (phase.works.mem_iff.mpr started) with settled | running
  · obtain ⟨⟨⟨process,work_⟩,result⟩,there,rfl⟩ := List.mem_map.mp settled
    obtain rfl : process = 0 := phase.settled _ there
    cases result with
    | none => exact absurd there unrejected
    | some count => exact ⟨count,there,all_counts ended there listed⟩
  · obtain ⟨⟨process,work_⟩,there,rfl⟩ := List.mem_map.mp running
    obtain rfl : process = 0 := phase.running _ there
    exact absurd there rests

theorem wp_all (awaited : List Work) (plan : Plan userId orgId false works)
    (listed : .deleteOrgRoles userId orgId ∈ awaited) (started : .deleteOrgRoles userId orgId ∈ works)
    (phase : Phase rows userId orgId false works w) :
    wp (sys svc) (contract svc rows idpIds input) 0 (perform (.all awaited))
      (upon (fun total w => Phase rows userId orgId false works w ∧ Deleted false w ∧
          w.tasks.all 0 awaited = some (some total) ∧ (ofUser userId orgId rows).length ≤ total) (Restored rows)) w := by
  refine wp_command (phase_moved plan) (fun before choice after answer inv phase _ handled => ?_) phase
  obtain ⟨result,ended,same⟩ := Option.map_eq_some_iff.mp handled
  cases same
  refine ⟨inv,?_⟩
  cases result with
  | none =>
    obtain ⟨step_,-,rejected⟩ := all_rejected ended
    exact restored_of_doomed phase ⟨_,rejected,rfl⟩
  | some total =>
    obtain ⟨count,there,le⟩ := settled_of_all phase ended listed started
    have counted := phase.counts _ there rfl count rfl
    exact ⟨phase,.inr ⟨_,there,rfl,by rintro ⟨⟩⟩,ended,counted ▸ le⟩

theorem wp_allDeleted {awaited : List Work} (plan : Plan userId orgId direct works)
    (phase : Phase rows userId orgId direct works w) (deleted : Deleted direct w) :
    wp (sys svc) (contract svc rows idpIds input) 0 (perform (.all awaited))
      (upon (fun _ w => Phase rows userId orgId direct works w ∧ Deleted direct w) (Restored rows)) w := by
  refine wp_command (P := fun w => Phase rows userId orgId direct works w ∧ Deleted direct w)
    (fun a b both moved => ⟨phase_moved plan a b both.1 moved,deleted_moved a b both.2 moved⟩)
    (fun before choice after answer inv both _ handled => ?_) ⟨phase,deleted⟩
  obtain ⟨result,ended,same⟩ := Option.map_eq_some_iff.mp handled
  cases same
  refine ⟨inv,?_⟩
  cases result with
  | none =>
    obtain ⟨step_,-,rejected⟩ := all_rejected ended
    exact absurd ⟨_,rejected,rfl⟩ (both.1.after both.2).1
  | some total => exact both

theorem wp_replaceClientRoles {payload : List (Option RolePayload)} (known : ¬Unknown svc idpIds input)
    (target : ∃ out, payload.mapM id = some out ∧ Target svc idpIds input userId orgId
      (deleting idpId keycloakUserId userId orgId ++
        assigning idpId keycloakUserId (clientPayload out) userId orgId (idPairs out)))
    (start : Start rows idpIds w) :
    wp (sys svc) (contract svc rows idpIds input) 0 (replaceClientRoles idpId userId orgId keycloakUserId payload)
      (upon (fun _ => Replaced svc rows idpIds input userId orgId) (Restored rows)) w := by
  obtain ⟨out,all,target⟩ := target
  refine wp_seq _ (wp_started (deleting idpId keycloakUserId userId orgId) start_moved known start) fun _ w started => ?_
  obtain ⟨before,start,rfl⟩ := started
  have phase : Phase rows userId orgId false (deleting idpId keycloakUserId userId orgId)
      { before with tasks := before.tasks.start 0 (deleting idpId keycloakUserId userId orgId) } :=
    phase_start (phase_of_start start)
  refine wp_seq _ (wp_all (deleting idpId keycloakUserId userId orgId) plan_deleting
    (List.mem_cons_of_mem _ List.mem_cons_self) (List.mem_cons_of_mem _ List.mem_cons_self) phase)
    fun total w ended => ?_
  obtain ⟨phase,deleted,ended,le⟩ := ended
  refine wp_branches _ (fun zero => ?_) fun _ => ?_
  · refine restored_of_none phase deleted (by omega) (fun step_ listed => ?_) ?_
    · rcases List.mem_cons.mp listed with rfl | second
      · rfl
      · cases List.mem_singleton.mp second
        rfl
    · refine List.eq_nil_iff_forall_not_mem.mpr fun task runs => ?_
      have listed := phase.works.mem_iff.mp (mem_works runs)
      obtain ⟨owner,step_⟩ := task
      obtain rfl : owner = 0 := phase.running _ runs
      exact (all_resolved ended listed).2 runs
  · rw [all]
    refine wp_seq _ (wp_started (P := fun w => Phase rows userId orgId false (deleting idpId keycloakUserId userId orgId) w ∧ Deleted false w)
      (assigning idpId keycloakUserId (clientPayload out) userId orgId (idPairs out))
      (fun a b both moved => ⟨phase_moved plan_deleting a b both.1 moved,deleted_moved a b both.2 moved⟩) known
          ⟨phase,deleted⟩)
      fun _ w started => ?_
    obtain ⟨before,⟨phase,deleted⟩,rfl⟩ := started
    refine wp_seq _ (wp_allDeleted (plan_inserts plan_deleting) (phase_start phase) deleted) fun _ w both => ?_
    exact .inr ⟨false,_,plan_inserts plan_deleting,both.1,both.2,target⟩

theorem payload_of_clients {orgRoles : List Role} {clients : List ClientRole}
    (found : ∀ client ∈ clients, ∃ role ∈ orgRoles, role.name = client.name) :
    ∃ out, (clientRolesPayload orgRoles clients).mapM id = some out ∧
        out.map RolePayload.idpRoleId = clients.map ClientRole.id ∧
      ∀ x ∈ out, ∃ client ∈ clients, ∃ role ∈ orgRoles, x.roleId = role.id ∧ x.idpRoleId = client.id ∧
      role.name = client.name := by
  induction clients with
  | nil => exact ⟨[],rfl,rfl,fun _ there => (List.not_mem_nil there).elim⟩
  | cons client rest ih =>
    obtain ⟨out,all,ids,each⟩ := ih fun other there => found other (List.mem_cons_of_mem _ there)
    obtain ⟨some_,listed,named⟩ := found client List.mem_cons_self
    have chosen : (orgRoles.find? fun role => role.name = client.name).isSome = true :=
      List.find?_isSome.mpr ⟨some_,listed,by simpa using named⟩
    obtain ⟨role,here⟩ := Option.isSome_iff_exists.mp chosen
    refine ⟨⟨role.id,role.name,client.id⟩ :: out,?_,?_,?_⟩
    · have first : (orgRoles.find? fun role => role.name = client.name).map
        (fun role => (⟨role.id,role.name,client.id⟩ : RolePayload)) =
          some ⟨role.id,role.name,client.id⟩ := by rw [here]; rfl
      rw [clientRolesPayload,List.map_cons,List.mapM_cons,first]
      change (((clientRolesPayload orgRoles rest).mapM id).bind fun out => some (_ :: out)) = _
      rw [all]
      rfl
    · rw [List.map_cons,List.map_cons,ids]
    · intro x there
      rcases List.mem_cons.mp there with rfl | later
      · exact ⟨client,List.mem_cons_self,role,List.mem_of_find?_eq_some here,rfl,rfl,by simpa using List.find?_some here⟩
      · obtain ⟨client',there',role',rest_⟩ := each x later
        exact ⟨client',List.mem_cons_of_mem _ there',role',rest_⟩

theorem rows_updateUserOrgRole {pairs : List (String × String)} (filled : orgId ≠ "")
    (ids : ∀ pair ∈ pairs, pair.2 ≠ "") :
    (updateUserOrgRole userId orgId pairs).filterMap rowOf =
      pairs.map fun pair => newRow 0 userId pair.1 (some orgId) (some pair.2) := by
  rw [updateUserOrgRole,List.filterMap_map,← List.filterMap_eq_map]
  refine List.filterMap_congr fun pair listed => ?_
  simp only [Function.comp_apply,rowOf,truthy_some filled,truthy_some (ids pair listed)]

section
variable {roleIds : List String}

theorem matched_perm
    (same : roleIds.length = ((svc.clientRoles idpId).filter fun role => roleIds.contains (svc.trim role.id)).length) :
    (((svc.clientRoles idpId).filter fun role => roleIds.contains (svc.trim role.id)).map ClientRole.id).Perm
    roleIds := by
  have nodup :
      (((svc.clientRoles idpId).filter fun role => roleIds.contains (svc.trim role.id)).map ClientRole.id).Nodup :=
    (svc.client_ids idpId).sublist (List.filter_sublist.map _)
  have subset : ((svc.clientRoles idpId).filter fun role => roleIds.contains (svc.trim role.id)).map
      ClientRole.id ⊆ roleIds := by
    intro id there
    obtain ⟨role,chosen,rfl⟩ := List.mem_map.mp there
    obtain ⟨listed,requested⟩ := List.mem_filter.mp chosen
    rw [svc.trimmed idpId role listed] at requested
    simpa using requested
  exact (nodup.subperm subset).perm_of_length_le (by rw [List.length_map]; omega)

theorem target_clients {matched : List ClientRole} {out : List RolePayload} (filled : orgId ≠ "")
    (client : truthy (idpIds orgId) = some idpId) (listed : ∀ role ∈ matched, role ∈ svc.clientRoles idpId)
    (perm : (matched.map ClientRole.id).Perm roleIds) (ids : out.map RolePayload.idpRoleId = matched.map ClientRole.id)
    (each : ∀ x ∈ out, ∃ client ∈ matched, ∃ role ∈ svc.roles.filter fun role => role.name ≠ "platform_admin",
      x.roleId = role.id ∧ x.idpRoleId = client.id ∧ role.name = client.name) :
    Target svc idpIds (.updateUserRoles orgId roleIds userId) userId orgId
      (deleting idpId keycloakUserId userId orgId ++
        assigning idpId keycloakUserId (clientPayload out) userId orgId (idPairs out)) := by
  have some_ : ∀ pair ∈ idPairs out, pair.2 ≠ "" := by
    intro pair there
    obtain ⟨x,here,rfl⟩ := List.mem_map.mp there
    obtain ⟨client,found,role,-,-,same,-⟩ := each x here
    exact fun empty => svc.filled idpId client (listed client found) (same.symm.trans empty)
  have rows_ : (deleting idpId keycloakUserId userId orgId ++
      assigning idpId keycloakUserId (clientPayload out) userId orgId (idPairs out)).filterMap rowOf =
        out.map fun x => newRow 0 userId x.roleId (some orgId) (some x.idpRoleId) := by
    change (updateUserOrgRole userId orgId (idPairs out)).filterMap rowOf = _
    rw [rows_updateUserOrgRole filled some_,idPairs,List.map_map]
    rfl
  rw [Target,rows_]
  refine ⟨fun row there => ?_,fun rows perm' => ?_⟩
  · obtain ⟨x,-,rfl⟩ := List.mem_map.mp there
    exact held_newRow
  · simp only [Exact,client]
    constructor
    · have mapped := perm'.map Row.idpRoleId
      rw [List.map_map] at mapped
      have same : out.map (Row.idpRoleId ∘ fun x => newRow 0 userId x.roleId (some orgId) (some x.idpRoleId)) =
          (matched.map ClientRole.id).map some := by
        rw [← ids,List.map_map]
        rfl
      rw [same] at mapped
      exact mapped.trans (perm.map some)
    · intro row there
      obtain ⟨x,here,rfl⟩ := List.mem_map.mp (perm'.mem_iff.mp there)
      obtain ⟨client,found,role,chosen,roleId,same,named⟩ := each x here
      exact ⟨client,listed client found,role,(List.mem_filter.mp chosen).1,congrArg some same,roleId,named⟩

theorem wp_updateUserClientRoles (filled : orgId ≠ "") (client : truthy (idpIds orgId) = some idpId)
    (resolvable : Resolvable svc idpIds (.updateUserRoles orgId roleIds userId)) (start : Start rows idpIds w) :
    wp (sys svc) (contract svc rows idpIds (.updateUserRoles orgId roleIds userId)) 0
      (updateUserClientRoles svc roleIds idpId userId orgId)
      (upon (fun _ => Replaced svc rows idpIds (.updateUserRoles orgId roleIds userId) userId orgId) (Restored rows)) w := by
  simp only [Resolvable,client] at resolvable
  refine wp_seq _ (wp_read rfl start) fun _ w start => ?_
  refine wp_seq _
      (wp_found (c := .getAllClientRoles idpId) (K := fun found => found = svc.clientRoles idpId) rfl ?_ start)
    fun clientRolesList w known => ?_
  · intro choice w after value _ handled
    obtain ⟨-,answered_⟩ := Prod.mk.inj (Option.some.inj handled)
    split at answered_
    · cases answered_
    · exact (Except.ok.inj answered_).symm
  obtain ⟨start,rfl⟩ := known
  refine wp_seq _ (wp_found (c := .getOrgRoles)
    (K := fun found => found = svc.roles.filter fun role => role.name ≠ "platform_admin") rfl ?_ start)
    fun orgRoles w known => ?_
  · intro choice w after value _ handled
    obtain ⟨-,answered_⟩ := Prod.mk.inj (Option.some.inj handled)
    split at answered_
    · cases answered_
    · exact (Except.ok.inj answered_).symm
  obtain ⟨start,rfl⟩ := known
  refine wp_branches _ (fun _ => start_restored start) fun same => ?_
  have perm := matched_perm (not_not.mp same)
  have known : ¬Unknown svc idpIds (.updateUserRoles orgId roleIds userId) := by
    simp only [Unknown,client]
    rintro ⟨role,requested,unknown⟩
    obtain ⟨found,chosen,rfl⟩ := List.mem_map.mp (perm.mem_iff.mpr requested)
    exact unknown found (List.mem_filter.mp chosen).1 rfl
  have counterpart : ∀ client ∈ (svc.clientRoles idpId).filter fun role => roleIds.contains (svc.trim role.id),
      ∃ role ∈ svc.roles.filter fun role => role.name ≠ "platform_admin", role.name = client.name := by
    intro found chosen
    have requested : found.id ∈ roleIds := perm.mem_iff.mp (List.mem_map.mpr ⟨found,chosen,rfl⟩)
    obtain ⟨role,listed,platform,named⟩ := resolvable found (List.mem_filter.mp chosen).1 requested
    exact ⟨role,List.mem_filter.mpr ⟨listed,by simpa using platform⟩,named⟩
  obtain ⟨out,all,ids,each⟩ := payload_of_clients counterpart
  refine wp_seq _ (wp_read rfl start) fun keycloakUserId w start => ?_
  exact wp_replaceClientRoles known
      ⟨out,all,target_clients filled client (fun role chosen => (List.mem_filter.mp chosen).1)
    perm ids each⟩ start

theorem wp_updateUserRoles (resolvable : Resolvable svc idpIds (.updateUserRoles orgId roleIds userId))
    (start : Start rows idpIds w) :
    wp (sys svc) (contract svc rows idpIds (.updateUserRoles orgId roleIds userId)) 0
        (updateUserRoles svc orgId roleIds userId)
      (upon (fun _ => Replaced svc rows idpIds (.updateUserRoles orgId roleIds userId) userId orgId) (Restored rows)) w := by
  refine wp_seq _ (wp_read rfl start) fun isUserExistForOrg w start => ?_
  refine wp_branches _ (fun _ => start_restored start) fun _ => ?_
  refine wp_seq _ (wp_getOrganizationDetails start) fun organizationDetails w ⟨start,filled,details⟩ => ?_
  cases organizationDetails with
  | none => exact start_restored start
  | some idpId =>
    obtain rfl := details idpId rfl
    cases client : truthy (idpIds orgId) with
    | none => simpa only [client] using wp_replaceOrgRoles filled client resolvable start
    | some idpId => simpa only [client] using wp_updateUserClientRoles filled client resolvable start

end

variable (svc) in
/-- The deletion and the insert were started together, and the deletion is done. -/
def Registered (rows : List Row) (idpIds : String → Option String) (input : Input) (userId orgId : String) (w : World) :
    Prop :=
  ∃ works, Plan userId orgId false works ∧ Phase rows userId orgId false works w ∧ Deleted false w ∧
    Target svc idpIds input userId orgId works

theorem registered_moved : ∀ a b, Registered svc rows idpIds input userId orgId a → Moved svc a b →
    Registered svc rows idpIds input userId orgId b := by
  rintro a b ⟨works,plan,phase,deleted,target⟩ moved
  exact ⟨works,plan,phase_moved plan a b phase moved,deleted_moved a b deleted moved,target⟩
def registering (idpId : String) (keycloakUserId : Option String) (ownerRoleClient : ClientRole)
    (userId orgId : String) :
    List Work :=
  [.createUserClientRole idpId keycloakUserId [ownerRoleClient],.deleteOrgRoles userId orgId]

theorem plan_registering {ownerRoleClient : ClientRole} {ownerRoleData : Role} :
    Plan userId orgId false (registering idpId keycloakUserId ownerRoleClient userId orgId ++
      updateUserOrgRole userId orgId [(ownerRoleData.id,ownerRoleClient.id)]) where
  deletion step_ listed deletion := by
    simp only [registering,updateUserOrgRole,List.map_cons,List.map_nil,List.cons_append,List.nil_append,List.mem_cons,
      List.not_mem_nil,or_false] at listed
    rcases listed with rfl | rfl | rfl
    · cases deletion
    · rfl
    · cases deletion
  once := rfl
  alone := by rintro ⟨⟩
  safe step_ listed := by
    simp only [registering,updateUserOrgRole,List.map_cons,List.map_nil,List.cons_append,List.nil_append,List.mem_cons,
      List.not_mem_nil,or_false] at listed
    rcases listed with rfl | rfl | rfl <;> rfl

theorem target_registering {ownerRoleClient : ClientRole} {ownerRoleData : Role} (filled : orgId ≠ "")
    (none_ : truthy (idpIds orgId) = none) (some_ : ownerRoleClient.id ≠ "") (listed : ownerRoleData ∈ svc.roles)
    (named : ownerRoleData.name = "owner") :
    Target svc idpIds (.createOrgCredentials orgId userId keycloakUserId) userId orgId
      (registering idpId keycloakUserId ownerRoleClient userId orgId ++
        updateUserOrgRole userId orgId [(ownerRoleData.id,ownerRoleClient.id)]) := by
  have rows_ : (registering idpId keycloakUserId ownerRoleClient userId orgId ++
      updateUserOrgRole userId orgId [(ownerRoleData.id,ownerRoleClient.id)]).filterMap rowOf =
        [newRow 0 userId ownerRoleData.id (some orgId) (some ownerRoleClient.id)] := by
    change (updateUserOrgRole userId orgId [(ownerRoleData.id,ownerRoleClient.id)]).filterMap rowOf = _
    refine rows_updateUserOrgRole filled fun pair there => ?_
    cases List.mem_singleton.mp there
    exact some_
  rw [Target,rows_]
  refine ⟨fun row there => ?_,fun rows perm => ?_⟩
  · cases List.mem_singleton.mp there
    exact held_newRow
  · rw [List.perm_singleton.mp perm]
    simp only [Exact,none_]
    exact ⟨ownerRoleData,listed,named,rfl⟩

theorem wp_registerToKeycloak (filled : orgId ≠ "") (none_ : truthy (idpIds orgId) = none)
    (start : Start rows idpIds w) :
    wp (sys svc) (contract svc rows idpIds (.createOrgCredentials orgId userId keycloakUserId)) 0
      (registerToKeycloak orgId keycloakUserId userId)
      (upon (fun _ => Registered svc rows idpIds (.createOrgCredentials orgId userId keycloakUserId) userId orgId)
        (Restored rows)) w := by
  refine wp_seq _ (wp_read rfl start) fun _ w start => ?_
  refine wp_seq _ (wp_read rfl start) fun idpId w start => ?_
  refine wp_seq _ (wp_forEach (fun _ => Start rows idpIds) (fun role left w start => wp_read rfl start) start)
      fun _ w start => ?_
  refine wp_seq _ (wp_found (c := .getClientSpecificRoles idpId "owner") (K := fun found => found.id ≠ "") rfl ?_ start)
    fun ownerRoleClient w known => ?_
  · intro choice w after value _ handled
    obtain ⟨-,answered_⟩ := Prod.mk.inj (Option.some.inj handled)
    split at answered_
    · cases answered_
    · rename_i role here
      split at answered_
      · cases answered_
      · cases answered_
        exact svc.filled idpId _ (List.mem_of_find?_eq_some here)
  obtain ⟨start,some_⟩ := known
  refine wp_seq _ (wp_found (c := .getRole "owner") (K := fun found => ∀ role, found = some role → role ∈ svc.roles ∧ role.name = "owner")
    rfl ?_ start) fun ownerRoleData w known => ?_
  · intro choice w after value _ handled role same
    obtain ⟨-,answered_⟩ := Prod.mk.inj (Option.some.inj handled)
    split at answered_
    · cases answered_
    · cases answered_
      exact ⟨List.mem_of_find?_eq_some same,by simpa using List.find?_some same⟩
  obtain ⟨start,owner⟩ := known
  cases ownerRoleData with
  | none => exact start_restored start
  | some ownerRoleData =>
    obtain ⟨listed,named⟩ := owner ownerRoleData rfl
    refine wp_seq _ (wp_started (registering idpId keycloakUserId ownerRoleClient userId orgId ++
      updateUserOrgRole userId orgId [(ownerRoleData.id,ownerRoleClient.id)]) start_moved id start) fun _ w started => ?_
    obtain ⟨before,start,rfl⟩ := started
    refine wp_seq _ (wp_all (registering idpId keycloakUserId ownerRoleClient userId orgId) plan_registering
      (List.mem_cons_of_mem _ List.mem_cons_self) (List.mem_cons_of_mem _ List.mem_cons_self)
      (phase_start (phase_of_start start))) fun _ w ended => ?_
    exact ⟨_,plan_registering,ended.1,ended.2.1,target_registering filled none_ some_ listed named⟩

theorem wp_createOrgCredentials (start : Start rows idpIds w) :
    wp (sys svc) (contract svc rows idpIds (.createOrgCredentials orgId userId keycloakUserId)) 0
      (createOrgCredentials orgId userId keycloakUserId)
      (upon (fun _ => Replaced svc rows idpIds (.createOrgCredentials orgId userId keycloakUserId) userId orgId)
        (Restored rows)) w := by
  refine wp_seq _ (wp_getOrganizationDetails start) fun organizationDetails w ⟨start,filled,details⟩ => ?_
  cases organizationDetails with
  | none => exact start_restored start
  | some idpId =>
    obtain rfl := details idpId rfl
    cases client : truthy (idpIds orgId) with
    | some idpId =>
      simp only [client]
      refine wp_seq _ (wp_read rfl start) fun _ w start => ?_
      refine wp_seq _ (wp_read rfl start) fun _ w start => ?_
      refine wp_seq (fun _ _ => True)
          (wp_command start_moved (fun before choice after answer inv start _ handled => ?_) start)
        fun _ w _ => .inl fun rows => by simp only [Exact,client]
      refine ⟨by rintro ⟨⟩,?_⟩
      have ends : (after.rows = before.rows ∧ after.tasks = before.tasks) := by
        simp only [handle,Option.some.injEq] at handled
        split at handled
        · split at handled <;> (cases handled; exact ⟨rfl,rfl⟩)
        · cases handled
          exact ⟨rfl,rfl⟩
      cases answer with
      | error error => exact ⟨ends.1.trans start.rows,.inl (by rw [ends.2]; exact start.running)⟩
      | ok done => trivial
    | none =>
      simp only [client]
      refine wp_seq
          (fun _ => Registered svc rows idpIds (.createOrgCredentials orgId userId keycloakUserId) userId orgId)
        ((wp_tryCatch _ _ _ _).mpr (wp_mono ?_ (wp_registerToKeycloak filled client start))) fun idpId w registered => ?_
      · rintro (error | idpId) w' ended <;> exact ended
      refine wp_seq
          (fun _ => Registered svc rows idpIds (.createOrgCredentials orgId userId keycloakUserId) userId orgId)
        (wp_command registered_moved (fun before choice after answer inv registered fine handled => ?_) registered)
        fun _ w registered => ?_
      · have succeeds : choice.fails = false := fine
        simp only [handle,succeeds] at handled
        cases handled
        obtain ⟨works,plan,phase,deleted,target⟩ := registered
        exact ⟨by rintro ⟨⟩,works,plan,⟨phase.running,phase.settled,phase.works,phase.counts,phase.before,phase.after⟩,
            deleted,target⟩
      · obtain ⟨works,plan,phase,deleted,target⟩ := registered
        exact .inr ⟨false,works,plan,phase,deleted,target⟩

theorem calls_moved (moved : Relation.ReflTransGen (Moved svc) a b) : b.calls 0 = a.calls 0 := by
  refine stays (P := fun w => w.calls 0 = a.calls 0) ?_ rfl moved
  rintro x y same (⟨event,-,settled⟩ | ⟨process,input,apart,rfl⟩)
  · obtain ⟨task,carried,result,-,did,rfl⟩ := settle_cases settled
    exact (congrFun (carry_frame did).1 0).trans same
  · exact (Function.update_of_ne (Ne.symm apart) _ _).trans same
theorem wp_never {wanted : Except Failure Response → World → Prop} (called : Input)
    (never : ∀ b c choice, (contract svc rows idpIds input).rely process a b → ¬(contract svc rows idpIds input).allowed process c choice b) :
    wp (sys svc) (contract svc rows idpIds input) process ((sys svc).program process called) wanted a := by
  cases called with
  | updateOrgInvitation payload =>
    exact fun before relied _ choice _ _ allowed => absurd allowed (never before _ choice relied)
  | updateUserRoles orgId roleIds userId =>
    exact fun before relied _ choice _ _ allowed => absurd allowed (never before _ choice relied)
  | createOrgCredentials orgId userId keycloakUserId =>
    exact fun before relied _ choice _ _ allowed => absurd allowed (never before _ choice relied)

theorem keeps (subject_ : subject input = some (userId,orgId)) (resolvable : Resolvable svc idpIds input) :
    Keeps (sys svc) (contract svc rows idpIds input)
      (fun process result w => process = 0 → Ends svc rows idpIds input userId orgId result w) where
  reflexive _ _ _ := .refl
  transitive _ _ _ _ first second same := (first same).trans (second same)
  stable process result a b ends relied _ same := by
    cases result with
    | error error => exact stays restored_moved (ends same) (relied same)
    | ok response => exact stays replaced_moved (ends same) (relied same)
  idles process a b start relied _ same := stays start_moved (start same) (relied same)
  arrives process called a b inv start arrived := by
    cases arrived
    refine ⟨inv,fun other apart same => ?_,?_⟩
    · exact .single (.inr ⟨process,called,fun zero => apart (same.trans zero.symm),rfl⟩)
    · by_cases zero : process = 0
      · subst zero
        have begun := start rfl
        have started : Start rows idpIds { a with calls := Function.update a.calls 0 (some called) } :=
          ⟨begun.rows,begun.running,begun.settled,begun.idpIds⟩
        by_cases same : called = input
        · subst same
          cases called with
          | updateOrgInvitation payload => cases subject_
          | updateUserRoles orgId' roleIds userId' =>
            cases subject_
            refine wp_mono ?_ (wp_updateUserRoles resolvable started)
            rintro (error | response) w' ended - <;> exact ended
          | createOrgCredentials orgId' userId' keycloakUserId =>
            cases subject_
            refine wp_mono ?_ (wp_createOrgCredentials started)
            rintro (error | response) w' ended - <;> exact ended
        · refine wp_never called fun b c choice relied allowed => same ?_
          have calls := (calls_moved (relied rfl)).symm.trans allowed.2.1
          dsimp only at calls
          rw [Function.update_self] at calls
          exact Option.some.inj calls
      · exact wp_never called fun b c choice _ allowed => zero allowed.1
  moves event a b inv smooth moved := by
    refine ⟨fun unknown => absurd moved (no_settle (inv unknown).2),fun process _ => .single (.inl ⟨event,smooth,moved⟩)⟩

theorem considered_along {actions : List (Action Choice Input Env)} {m : Machine Cmd Ret Failure Response World}
    (unused : ∀ process, process ≠ 0 → m.thread process = .unused) (calls : m.world.calls 0 = some input)
    (alone : ∀ a ∈ actions, ∀ process called, a ≠ .start process called)
    (proper : Along (step (sys svc)) (Proper svc) m actions) :
    Along (step (sys svc)) (Considered (contract svc rows idpIds input)) m actions := by
  induction actions generalizing m with
  | nil => trivial
  | cons a rest ih =>
    refine ⟨?_,fun next taken => ih ?_ ?_ (fun b there => alone b (List.mem_cons_of_mem _ there)) (proper.2 next taken)⟩
    · have first := proper.1
      cases a with
      | advance process choice =>
        intro command resume at_
        have zero : process = 0 := by
          by_contra other
          cases (unused process other).symm.trans at_
        exact ⟨zero,calls,first command resume at_⟩
      | environment event => exact first
      | _ => trivial
    · intro process other
      cases a with
      | start process' called => exact absurd rfl (alone _ List.mem_cons_self process' called)
      | advance process' choice =>
        obtain ⟨command,resume,world,answer,at_,-,rfl⟩ := step_advance taken
        have apart : process ≠ process' := by
          rintro rfl
          cases (unused process other).symm.trans at_
        exact (Function.update_of_ne apart _ _).trans (unused process other)
      | crash process' =>
        obtain ⟨⟨p,at_⟩,rfl⟩ := step_crash taken
        have apart : process ≠ process' := by
          rintro rfl
          cases (unused process other).symm.trans at_
        exact (Function.update_of_ne apart _ _).trans (unused process other)
      | environment event =>
        obtain ⟨world,-,rfl⟩ := step_environment taken
        exact unused process other
    · cases a with
      | start process' called => exact absurd rfl (alone _ List.mem_cons_self process' called)
      | advance process' choice =>
        obtain ⟨command,resume,world,answer,-,handled,rfl⟩ := step_advance taken
        exact (congrFun (handle_calls handled) 0).trans calls
      | crash process' =>
        obtain ⟨-,rfl⟩ := step_crash taken
        exact calls
      | environment event =>
        obtain ⟨world,moved,rfl⟩ := step_environment taken
        obtain ⟨task,carried,result,-,did,rfl⟩ := settle_cases moved
        exact (congrFun (carry_frame did).1 0).trans calls

end

/-- In every run of one call whose steps the conditions allow: where it succeeds, and its steps
    are settled, the user has exactly the requested roles; where it fails the rows are the ones
    there were; and where a role does not exist they never change. -/
theorem replacement_sound (svc : Services) (rows : List Row) (status : String → Status) (idpIds : String → Option String)
    (input : Input) {userId orgId : String} (subject_ : subject input = some (userId,orgId))
    (resolvable : Resolvable svc idpIds input) {actions : List (Action Choice Input Env)}
    {m : Machine Cmd Ret Failure Response World}
    (alone : ∀ a ∈ actions, ∀ process called, a ≠ .start process called)
    (reached : run (step (sys svc)) (Machine.initial (World.initial rows status idpIds)) (.start 0 input :: actions) = some m)
    (proper : Along (step (sys svc)) (Proper svc) (Machine.initial (World.initial rows status idpIds)) (.start 0 input :: actions)) :
    Good svc rows idpIds input userId orgId m := by
  obtain ⟨first,taken,later⟩ := run_cons.mp reached
  have start : Safe (sys svc) (contract svc rows idpIds input)
      (fun process result w => process = 0 → Ends svc rows idpIds input userId orgId result w)
      (Machine.initial (World.initial rows status idpIds)) :=
    safe_initial (fun _ => ⟨rfl,rfl⟩) fun _ _ => ⟨rfl,rfl,rfl,rfl⟩
  have begun := step_safe (keeps subject_ resolvable) start (a := .start 0 input) trivial taken
  obtain ⟨-,world,arrived,rfl⟩ := step_start taken
  cases arrived
  have called : Function.update (fun _ => none : Nat → Option Input) 0 (some input) 0 = some input :=
      Function.update_self _ _ _
  have safe := run_safe (keeps subject_ resolvable) begun (considered_along (fun process other => ?_) called
    alone (proper.2 _ taken)) later
  · refine ⟨fun response ended rests => ?_,fun error ended => ?_,fun unknown => (safe.inv unknown).1⟩
    · exact exact_of_replaced (safe_ended safe ended rfl) rests
    · exact (safe_ended safe ended rfl).1
  · exact Function.update_of_ne other _ _

end
instance (w : World) : Decidable (Doomed w) := inferInstanceAs (Decidable (∃ s ∈ w.tasks.settled, s.result = none))
instance (w : World) : Decidable (Resolved w) :=
  inferInstanceAs (Decidable (∃ s ∈ w.tasks.settled, deletes s.task.work = true ∧ s.result ≠ none))
instance (svc : Services) (role : String) : Decidable (Known svc role) :=
  inferInstanceAs (Decidable ((svc.roles.any fun row => row.id = role) = true))

instance (svc : Services) (w : World) (choice : Choice) : (step_ : Work) → Decidable (Calm svc w choice step_)
  | .updateOrgInvitation _ _ => isTrue trivial
  | .createUserClientRole _ _ _ => inferInstanceAs (Decidable (choice.fails = true → ¬Resolved w))
  | .deleteUserClientRoles _ _ => isTrue trivial
  | .createUserOrgRole _ roleId _ _ =>
      inferInstanceAs (Decidable ((Doomed w → choice.fails = true ∧ choice.done = false) ∧
      (¬Doomed w → choice.fails = false ∧ Known svc roleId ∧ ∀ task ∈ w.tasks.running, deletes task.work = false)))
  | .deleteOrgRoles _ _ => inferInstanceAs (Decidable ((choice.fails = true → choice.done = false) ∧
      (choice.fails = false → ¬Doomed w)))
/-- A proper step of a call of which no command fails. -/
def Checked (svc : Services) (m : Machine Cmd Ret Failure Response World) : Action Choice Input Env → Prop
  | .advance process choice => choice.fails = false ∧ ∀ step_ ∈ (m.thread process).awaited.bind (fun c => match c with
      | .one step_ => some step_
      | _ => none), Calm svc m.world choice step_
  | .environment event => ∀ task ∈ m.world.tasks.running[event.index]?, Calm svc m.world event.choice task.work
  | _ => True
instance (svc : Services) (m : Machine Cmd Ret Failure Response World) :
    (a : Action Choice Input Env) → Decidable (Checked svc m a)
  | .start _ _ => isTrue trivial
  | .advance process choice => inferInstanceAs (Decidable (choice.fails = false ∧ ∀ step_ ∈ (m.thread process).awaited.bind (fun c => match c with
      | .one step_ => some step_
      | _ => none), Calm svc m.world choice step_))
  | .crash _ => isTrue trivial
  | .environment event => inferInstanceAs (Decidable (∀ task ∈ m.world.tasks.running[event.index]?,
      Calm svc m.world event.choice task.work))

theorem proper_of_checked {svc : Services} {m : Machine Cmd Ret Failure Response World} {a : Action Choice Input Env}
    (checked : Checked svc m a) : Proper svc m a := by
  cases a with
  | start process input => trivial
  | crash process => trivial
  | environment event => exact fun task at_ => checked task at_
  | advance process choice =>
    intro command resume at_
    obtain ⟨succeeds,calm⟩ := checked
    rw [at_] at calm
    cases command with
    | one step_ => exact calm step_ rfl
    | updateOrganizationById orgId idpId =>
      cases idpId with
      | none => trivial
      | some idpId => exact succeeds
    | _ => trivial

/-- The user has the first role, and the organisation no client. -/
def hasAdmin : World := .initial [⟨"ada","r1",some "acme",none,none⟩] (fun _ => .PENDING) fun _ => none
def becomesMember : Input := .updateUserRoles "acme" ["r2"] "ada"
def replacing : List (Action Choice Input Env) := List.replicate 5 (go 0)

theorem replacement_sound_becomesMember :
    ∃ m, run (step (sys acme)) (Machine.initial hasAdmin)
    (.start 0 becomesMember :: replacing ++ [.environment ⟨0,well⟩]) = some m ∧
      m.world.rows = [newRow 0 "ada" "r2" (some "acme") none] ∧
      Good acme [⟨"ada","r1",some "acme",none,none⟩] (fun _ => none) becomesMember "ada" "acme" m := by
  have taken : (run (step (sys acme)) (Machine.initial hasAdmin) (.start 0 becomesMember :: replacing ++ [.environment ⟨0,well⟩])).map
      (fun m => m.world.rows) = some [newRow 0 "ada" "r2" (some "acme") none] := by decide +kernel
  obtain ⟨m,reached,inserted⟩ := Option.map_eq_some_iff.mp taken
  have checked : Along (step (sys acme)) (Checked acme) (Machine.initial hasAdmin)
      (.start 0 becomesMember :: replacing ++ [.environment ⟨0,well⟩]) := by decide +kernel
  have resolvable : Resolvable acme (fun _ => none) becomesMember := .inr ⟨by decide,by decide⟩
  refine ⟨m,reached,inserted,replacement_sound acme _ _ _ becomesMember rfl resolvable ?_ reached
    (along_mono (fun _ _ => proper_of_checked) checked)⟩
  intro a there process called same
  subst same
  simp [replacing,go] at there

/-- The call has reported success when its insert fails: the user has no role left. -/
theorem replaced_byNone :
    ∃ m, run (step (sys acme)) (Machine.initial hasAdmin)
        (.start 0 becomesMember :: replacing ++ [.environment ⟨0,⟨true,false,none,""⟩⟩]) = some m ∧
      m.world.rows = [] ∧ ¬Good acme [⟨"ada","r1",some "acme",none,none⟩]
          (fun _ => none) becomesMember "ada" "acme" m := by
  have taken : (run (step (sys acme)) (Machine.initial hasAdmin)
      (.start 0 becomesMember :: replacing ++ [.environment ⟨0,⟨true,false,none,""⟩⟩])).map
        (fun m => (m.world.rows,(m.thread 0).ended,m.world.tasks.running)) =
        some ([],some (.ok .rolesUpdated),[]) := by rfl
  obtain ⟨m,reached,facts⟩ := Option.map_eq_some_iff.mp taken
  simp only [Prod.mk.injEq] at facts
  refine ⟨m,reached,facts.1,fun good => ?_⟩
  have exact_ := good.replaced .rolesUpdated facts.2.1 facts.2.2
  rw [facts.1] at exact_
  exact absurd (List.Perm.nil_eq exact_) (by decide)

end Ngotag.RoleReplacement
