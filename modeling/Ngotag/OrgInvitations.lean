import Ngotag.OrgRoles
import Ngotag.Recall

/-!
Answers to invitations, with role changes between them. The status of an invitation is written
apart from the roles, and where the organisation is registered with Keycloak nobody awaits the
roles. So a call can be reported as failed with the invitation accepted, and as successful
without the roles. Where no such step happens an accepted invitation means its roles, a failed
call changed no status, and no two calls insert the same row (`membership_sound`). Which calls
found their invitation pending is noted beside the state.
-/
namespace Ngotag.OrgInvitations
open Runs Await Recall Background OrgRoles
open JsObject (truthy truthy_some)

def accepts (w : World) (process : Nat) : Option UpdateInvitation :=
  match w.calls process with
  | some (.updateOrgInvitation payload) => if payload.status = .ACCEPTED then some payload else none
  | _ => none

section
variable (svc : Services)

/-- The user has the role in the organisation. -/
def Holds (w : World) (userId orgId role : String) : Prop :=
  ∃ row ∈ w.rows, row.userId = userId ∧ row.orgRoleId = role ∧ row.orgId = some orgId
/-- Rows of the same user, role and organisation. -/
def Alike (a b : Row) : Prop := a.userId = b.userId ∧ a.orgRoleId = b.orgRoleId ∧ a.orgId = b.orgId
/-- Another call accepts the same invitation. -/
def Rivals (w : World) (a b : Nat) : Prop :=
  a ≠ b ∧ ∃ x y, accepts w a = some x ∧ accepts w b = some y ∧ x.invitationId = y.invitationId
/-- What the claim says, of the calls that have ended. -/
structure Good (m : Machine Cmd Ret Failure Response World) : Prop where
  member : ∀ process payload response, accepts m.world process = some payload →
    (m.thread process).ended = some (.ok response) → m.world.status payload.invitationId = .ACCEPTED →
    ∀ invitation ∈ svc.invitations, invitation.id = payload.invitationId →
      ∀ role ∈ invitation.orgRoles, Holds m.world payload.user.id invitation.orgId role
  unchanged : ∀ process error, (m.thread process).ended = some (.error error) → process ∉ m.world.changers
  single : ∀ a ∈ m.world.rows, ∀ b ∈ m.world.rows, ∀ p q, a.by_ = some p → b.by_ = some q →
    Rivals m.world p q → ¬Alike a b

/-- The update of an invitation that the call started was rejected. -/
def Withdrawn (process : Nat) (w : World) :
    Prop := ∃ id status, w.tasks.Rejected process (.updateOrgInvitation id status)
def counts : Work → Bool
  | .updateOrgInvitation _ _ => true
  | .createUserClientRole _ _ _ => true
  | _ => false
/-- An insert of the call was rejected. -/
def Spoiled (process : Nat) (w : World) : Prop := ∃ step_, counts step_ = true ∧ w.tasks.Rejected process step_
/-- The call has started both steps, and none of them is rejected. -/
def Joint (process : Nat) (w : World) : Prop :=
  (∃ idpId keycloakUserId payload, w.tasks.Started process (.createUserClientRole idpId keycloakUserId payload)) ∧
    ¬Spoiled process w

/-- After the status was changed nothing fails, and a change of the status does not; an inserted
    row is not there from another acceptance of the invitation, where both have passed the check;
    and roles that an acceptance inserted are only deleted when its update was rejected. -/
def Calm (passed : Nat → Prop) (process : Nat) (w : World) (choice : Choice) : Work → Prop
  | .updateOrgInvitation id status => choice.fails = true → process ∉ w.changers ∧
      (choice.done = true → w.status id = status)
  | .createUserClientRole _ _ _ => choice.fails = true → process ∉ w.changers
  | .deleteUserClientRoles _ _ => True
  | .createUserOrgRole userId roleId orgId idpRoleId => Happening choice → ∀ row ∈ w.rows, ∀ other,
      row.by_ = some other →
      Rivals w process other → passed process → passed other → ¬Alike (newRow process userId roleId orgId idpRoleId) row
  | .deleteOrgRoles userId orgId => Happening choice → ∀ row ∈ w.rows, held userId orgId row = true →
      ∀ other, row.by_ = some other → (accepts w other).isSome = true → Withdrawn other w

/-- An insert that is awaited does not fail after the status was changed; and an acceptance whose
    steps are resolved has inserted its roles, which all exist. -/
def Fine (passed : Nat → Prop) (process : Nat) (w : World) (choice : Choice) : Cmd → Prop
  | .one (.createUserOrgRole userId roleId orgId idpRoleId) =>
    Calm passed process w choice (.createUserOrgRole userId roleId orgId idpRoleId) ∧
      (choice.fails = true ∨ ¬Known svc roleId → process ∉ w.changers)
  | .one step_ => Calm passed process w choice step_
  | .all works => ∀ count payload, w.tasks.all process works = some (some count) → accepts w process = some payload →
      (∀ task ∈ w.tasks.running, task.process ≠ process) ∧
      (∀ s ∈ w.tasks.settled, s.task.process = process → s.result ≠ none) ∧
      ∀ invitation ∈ svc.invitations, invitation.id = payload.invitationId → ∀ role ∈ invitation.orgRoles, Known svc role
  | _ => True

/-- A step that runs by itself; the status is only changed while the call has started both steps
    and none was rejected. -/
def Smooth (passed : Nat → Prop) (event : Env) (w : World) : Prop :=
  ∀ task, w.tasks.running[event.index]? = some task →
    Calm passed task.process w event.choice task.work ∧
      ∀ id status, task.work = .updateOrgInvitation id status → Happening event.choice → w.status id ≠ status →
        Joint task.process w

variable {svc} {process other : Nat} {choice : Choice} {w after a b : World} {result : Option Nat} {step_ : Work}
  {row : Row}
theorem carry_changers (carried : carry svc process step_ choice w = (after,result)) (changed : other ∈ after.changers) :
    other ∈ w.changers ∨ other = process ∧ Happening choice ∧
      ∃ id status, step_ = .updateOrgInvitation id status ∧ w.status id ≠ status := by
  rcases carry_cases carried with ⟨rfl,-,-⟩ | ⟨happening,rfl,-⟩
  · exact .inl changed
  · cases step_ with
    | updateOrgInvitation id status =>
      simp only [work,World.updated] at changed
      by_cases same : w.status id = status
      · rw [if_pos same] at changed
        exact .inl changed
      · rw [if_neg same] at changed
        rcases List.mem_cons.mp changed with rfl | before
        · exact .inr ⟨rfl,happening rfl,id,status,rfl,same⟩
        · exact .inl before
    | createUserOrgRole userId roleId orgId idpRoleId =>
      simp only [work] at changed
      split at changed <;> exact .inl changed
    | _ => exact .inl changed

theorem carry_rows (carried : carry svc process step_ choice w = (after,result)) (there : row ∈ after.rows) :
    row ∈ w.rows ∨ Happening choice ∧ ∃ userId roleId orgId idpRoleId,
      step_ = .createUserOrgRole userId roleId orgId idpRoleId ∧ row = newRow process userId roleId orgId idpRoleId := by
  rcases carry_cases carried with ⟨rfl,-,-⟩ | ⟨happening,rfl,-⟩
  · exact .inl there
  · cases step_ with
    | createUserOrgRole userId roleId orgId idpRoleId =>
      simp only [work] at there
      split at there
      · rcases List.mem_cons.mp there with rfl | before
        · exact .inr ⟨happening rfl,userId,roleId,orgId,idpRoleId,rfl,rfl⟩
        · exact .inl before
      · exact .inl there
    | deleteOrgRoles userId orgId => exact .inl (List.mem_filter.mp there).1
    | _ => exact .inl there

theorem carry_kept (carried : carry svc process step_ choice w = (after,result)) (there : row ∈ w.rows) :
    row ∈ after.rows ∨ Happening choice ∧ ∃ userId orgId, step_ = .deleteOrgRoles userId orgId ∧
    held userId orgId row = true := by
  rcases carry_cases carried with ⟨rfl,-,-⟩ | ⟨happening,rfl,-⟩
  · exact .inl there
  · cases step_ with
    | createUserOrgRole userId roleId orgId idpRoleId =>
      simp only [work]
      split
      · exact .inl (List.mem_cons_of_mem _ there)
      · exact .inl there
    | deleteOrgRoles userId orgId =>
      by_cases removed : held userId orgId row = true
      · exact .inr ⟨happening rfl,userId,orgId,rfl,removed⟩
      · exact .inl (List.mem_filter.mpr ⟨there,by simpa using removed⟩)
    | _ => exact .inl there

theorem carry_insert {userId roleId : String} {orgId idpRoleId : Option String} {count : Nat}
    (carried : carry svc process (.createUserOrgRole userId roleId orgId idpRoleId) choice w = (after,some count)) :
    newRow process userId roleId orgId idpRoleId ∈ after.rows := by
  rcases carry_cases carried with ⟨-,⟨⟩,-⟩ | ⟨-,rfl,⟨⟨⟩,-⟩ | resolved⟩
  simp only [work] at resolved ⊢
  split
  · exact List.mem_cons_self
  · rename_i unknown
    rw [if_neg unknown] at resolved
    cases resolved

/-- What is rejected failed, or is an insert of a role that does not exist. -/
theorem carry_rejected (carried : carry svc process step_ choice w = (after,none)) :
    choice.fails = true ∨ ∃ userId roleId orgId idpRoleId,
      step_ = .createUserOrgRole userId roleId orgId idpRoleId ∧ ¬Known svc roleId := by
  rcases carry_cases carried with ⟨-,-,fails⟩ | ⟨-,-,⟨-,fails⟩ | rejected⟩
  · exact .inl fails
  · exact .inl fails
  · cases step_ with
    | createUserOrgRole userId roleId orgId idpRoleId =>
      simp only [work] at rejected
      split at rejected
      · cases rejected
      · exact .inr ⟨userId,roleId,orgId,idpRoleId,rfl,‹_›⟩
    | _ => cases rejected

/-- A call that changed a status had no awaited step rejected; a resolved insert of an acceptance
    is there, unless its update was rejected; and no two acceptances inserted the same row. -/
structure Sound (w : World) : Prop where
  unspoiled : ∀ process ∈ w.changers, ¬Spoiled process w
  inserted : ∀ process, (accepts w process).isSome = true → ∀ userId roleId orgId idpRoleId count,
    ⟨⟨process,.createUserOrgRole userId roleId orgId idpRoleId⟩,some count⟩ ∈ w.tasks.settled →
      newRow process userId roleId orgId idpRoleId ∈ w.rows ∨ Withdrawn process w
  single : ∀ a ∈ w.rows, ∀ b ∈ w.rows, ∀ p q, a.by_ = some p → b.by_ = some q → Rivals w p q → ¬Alike a b
/-- The status can still be changed by a step that the call started. -/
def Open (process : Nat) (w : World) : Prop :=
  (∃ id status, ⟨process,.updateOrgInvitation id status⟩ ∈ w.tasks.running) ∧ Joint process w
/-- The call has failed without changing a status. -/
def Dead (process : Nat) (w : World) : Prop := process ∉ w.changers ∧ ¬Open process w
/-- The call has no task in the background. -/
def Rests (process : Nat) (w : World) : Prop := ∀ task ∈ w.tasks.running, task.process ≠ process
/-- What the steps of other calls and tasks leave of a call. -/
structure Undisturbed (process : Nat) (a b : World) : Prop where
  calls : b.calls process = a.calls process
  running : ∀ step_, ⟨process,step_⟩ ∈ b.tasks.running → ⟨process,step_⟩ ∈ a.tasks.running
  started : ∀ step_, a.tasks.Started process step_ → b.tasks.Started process step_
  rejected : ∀ step_, a.tasks.Rejected process step_ → b.tasks.Rejected process step_
  rests : Rests process a → Rests process b ∧
      (∀ s, s.task.process = process → (s ∈ b.tasks.settled ↔ s ∈ a.tasks.settled)) ∧
    ∀ row ∈ b.rows, row.by_ = some process → row ∈ a.rows
  dead : Dead process a → Dead process b
  rows : (accepts a process).isSome = true → ∀ row ∈ a.rows, row.by_ = some process → row ∈ b.rows ∨ Withdrawn process b
/-- The process has done nothing yet. -/
structure Idle (process : Nat) (w : World) : Prop where
  calls : w.calls process = none
  rests : Rests process w
  settled : ∀ s ∈ w.tasks.settled, s.task.process ≠ process
  rows : ∀ row ∈ w.rows, row.by_ ≠ some process
  changers : process ∉ w.changers

theorem accepts_congr (same : b.calls process = a.calls process) : accepts b process = accepts a process := by
  rw [accepts,accepts,same]
theorem rivals_congr {p q : Nat} (same : b.calls = a.calls) : Rivals b p q ↔ Rivals a p q := by
  rw [Rivals,Rivals,accepts_congr (congrFun same p),accepts_congr (congrFun same q)]
theorem rivals_symm {p q : Nat} (rivals : Rivals w p q) : Rivals w q p := by
  obtain ⟨apart,x,y,first,second,same⟩ := rivals
  exact ⟨Ne.symm apart,y,x,second,first,same.symm⟩
theorem alike_symm {x y : Row} (alike : Alike x y) : Alike y x := ⟨alike.1.symm,alike.2.1.symm,alike.2.2.symm⟩
theorem undisturbed_refl : Undisturbed process w w :=
  ⟨rfl,fun _ runs => runs,fun _ started => started,fun _ rejected => rejected,fun rests =>
      ⟨rests,fun _ _ => Iff.rfl,fun _ there _ => there⟩,
    fun dead => dead,fun _ _ there _ => .inl there⟩
theorem withdrawn_mono (rejected : ∀ step_, a.tasks.Rejected process step_ → b.tasks.Rejected process step_)
    (withdrawn : Withdrawn process a) : Withdrawn process b := by
  obtain ⟨id,status,was⟩ := withdrawn
  exact ⟨id,status,rejected _ was⟩

theorem undisturbed_trans {d : World} (first : Undisturbed process a b) (second : Undisturbed process b d) :
    Undisturbed process a d where
  calls := second.calls.trans first.calls
  running step_ runs := first.running step_ (second.running step_ runs)
  started step_ there := second.started step_ (first.started step_ there)
  rejected step_ there := second.rejected step_ (first.rejected step_ there)
  rests rests := by
    obtain ⟨middle,settled,rows⟩ := first.rests rests
    obtain ⟨last,settled',rows'⟩ := second.rests middle
    exact ⟨last,fun s own => (settled' s own).trans (settled s own),fun row there own =>
        rows row (rows' row there own) own⟩
  dead dead := second.dead (first.dead dead)
  rows accepting row there own := by
    rcases first.rows accepting row there own with kept | withdrawn
    · exact second.rows (by rw [accepts_congr first.calls]; exact accepting) row kept own
    · exact .inr (withdrawn_mono second.rejected withdrawn)

theorem accepted_kept (calm : Calm (fun _ => True) process w choice step_)
    (carried : carry svc process step_ choice w = (after,result))
    (there : row ∈ w.rows) (own : row.by_ = some other) (accepting : (accepts w other).isSome = true) :
    row ∈ after.rows ∨ Withdrawn other w := by
  rcases carry_kept carried there with kept | ⟨happening,userId,orgId,rfl,removed⟩
  · exact .inl kept
  · exact .inr (calm happening row there removed other own accepting)

theorem single_carry (sound : Sound w) (calm : Calm (fun _ => True) process w choice step_)
    (carried : carry svc process step_ choice w = (after,result)) {p q : Nat} {x y : Row} (first : x ∈ after.rows)
    (second : y ∈ after.rows) (mine : x.by_ = some p) (others : y.by_ = some q) (rivals : Rivals w p q) :
        ¬Alike x y := by
  have fresh : ∀ {p q : Nat} {x y : Row}, y ∈ w.rows → x.by_ = some p → y.by_ = some q → Rivals w p q →
      (Happening choice ∧ ∃ userId roleId orgId idpRoleId, step_ = .createUserOrgRole userId roleId orgId idpRoleId ∧
        x = newRow process userId roleId orgId idpRoleId) → ¬Alike x y := by
    rintro p q x y old mine others rivals ⟨happening,userId,roleId,orgId,idpRoleId,rfl,rfl⟩
    cases mine
    exact calm happening y old q others rivals trivial trivial
  rcases carry_rows carried first with old | new
  · rcases carry_rows carried second with old' | new
    · exact sound.single x old y old' p q mine others rivals
    · exact fun alike => fresh old others mine (rivals_symm rivals) new (alike_symm alike)
  · rcases carry_rows carried second with old | ⟨-,_,_,_,_,-,rfl⟩
    · exact fresh old mine others rivals new
    · obtain ⟨-,_,_,_,_,-,rfl⟩ := new
      cases mine
      cases others
      exact absurd rfl rivals.1

/-- A step that a call awaits by itself; where it is an update none of its steps was rejected. -/
theorem sound_one (sound : Sound w) (calm : Calm (fun _ => True) process w choice step_)
    (unspoiled : ∀ id status, step_ = .updateOrgInvitation id status → ¬Spoiled process w)
    (carried : carry svc process step_ choice w = (after,result)) :
    Sound after ∧ ∀ other, other ≠ process → Undisturbed other w after := by
  obtain ⟨calls,tasks⟩ := carry_frame carried
  have quiet : ∀ p, Spoiled p after ↔ Spoiled p w := by
    intro p
    rw [Spoiled,Spoiled,tasks]
  have unchanged : ∀ p, p ≠ process → p ∈ after.changers → p ∈ w.changers := by
    intro p apart changed
    rcases carry_changers carried changed with old | ⟨rfl,-⟩
    · exact old
    · exact absurd rfl apart
  constructor
  · refine ⟨?_,?_,?_⟩
    · intro p changed
      rw [quiet]
      rcases carry_changers carried changed with old | ⟨rfl,-,id,status,update,-⟩
      · exact sound.unspoiled p old
      · exact unspoiled id status update
    · intro p accepting userId roleId orgId idpRoleId count settled
      rw [tasks] at settled
      have accepting' : (accepts w p).isSome = true := by rw [← accepts_congr (congrFun calls p)]; exact accepting
      rcases sound.inserted p accepting' userId roleId orgId idpRoleId count settled with there | withdrawn
      · rcases accepted_kept calm carried there rfl accepting' with kept | withdrawn
        · exact .inl kept
        · exact .inr (withdrawn_mono (by rw [tasks]; exact fun _ was => was) withdrawn)
      · exact .inr (withdrawn_mono (by rw [tasks]; exact fun _ was => was) withdrawn)
    · intro x first y second p q mine others rivals
      exact single_carry sound calm carried first second mine others ((rivals_congr calls).mp rivals)
  · intro other apart
    refine ⟨congrFun calls other,?_,?_,?_,?_,?_,?_⟩
    · rw [tasks]
      exact fun _ runs => runs
    · rw [tasks]
      exact fun _ started => started
    · rw [tasks]
      exact fun _ was => was
    · intro rests
      refine ⟨by rw [Rests,tasks]; exact rests,fun s _ => by rw [tasks],fun row there own => ?_⟩
      rcases carry_rows carried there with old | ⟨-,_,_,_,_,-,rfl⟩
      · exact old
      · cases own
        exact absurd rfl apart
    · rintro ⟨unchanged',closed⟩
      refine ⟨fun changed => unchanged' (unchanged other apart changed),?_⟩
      rw [Open,Joint,quiet,tasks]
      exact closed
    · intro accepting row there own
      rcases accepted_kept calm carried there own accepting with kept | withdrawn
      · exact .inl kept
      · exact .inr (withdrawn_mono (by rw [tasks]; exact fun _ was => was) withdrawn)

theorem unchanged_of_rejected (calm : Calm (fun _ => True) process w choice step_) (awaited : counts step_ = true)
    (carried : carry svc process step_ choice w = (after,none)) : process ∉ after.changers := by
  have fails : choice.fails = true := by
    rcases carry_rejected carried with fails | ⟨_,_,_,_,rfl,-⟩
    · exact fails
    · cases awaited
  intro changed
  rcases carry_changers carried changed with old | ⟨-,happening,id,status,rfl,different⟩
  · cases step_ with
    | updateOrgInvitation id status => exact (calm fails).1 old
    | createUserClientRole idpId keycloakUserId payload => exact calm fails old
    | _ => cases awaited
  · exact different ((calm fails).2 (happening fails))

theorem sound_settle {event : Env} (sound : Sound w) (smooth : Smooth (fun _ => True) event w)
    (settled : settle svc event w = some after) :
    Sound after ∧ ∀ process, Undisturbed process w after := by
  obtain ⟨⟨owner,step_⟩,carried,result,at_,did,rfl⟩ := settle_cases settled
  obtain ⟨calm,joint⟩ := smooth _ at_
  obtain ⟨calls,tasks⟩ := carry_frame did
  have runs : ⟨owner,step_⟩ ∈ w.tasks.running := List.mem_of_getElem? at_
  -- A change of the status is one of the owner, with both steps started and none rejected.
  have changes : ∀ p, p ∈ carried.changers → p ∈ w.changers ∨ p = owner ∧ Open p w := by
    intro p changed
    rcases carry_changers did changed with old | ⟨rfl,happening,id,status,rfl,different⟩
    · exact .inl old
    · exact .inr ⟨rfl,⟨id,status,runs⟩,joint id status rfl happening different⟩
  have rejected : ∀ p k, w.tasks.Rejected p k → (w.tasks.settle event.index ⟨owner,step_⟩ result).Rejected p k :=
    fun p k was => rejected_settle was
  constructor
  · refine ⟨?_,?_,?_⟩
    · rintro p changed ⟨k,awaited,was⟩
      rcases rejected_cases was with old | ⟨same,rfl⟩
      · rcases changes p changed with before | ⟨-,-,-,unspoiled⟩
        · exact sound.unspoiled p before ⟨k,awaited,old⟩
        · exact unspoiled ⟨k,awaited,old⟩
      · cases same
        exact unchanged_of_rejected calm awaited did changed
    · intro p accepting userId roleId orgId idpRoleId count there
      have accepting' : (accepts w p).isSome = true := by rw [← accepts_congr (congrFun calls p)]; exact accepting
      rcases List.mem_cons.mp there with new | old
      · cases new
        have inserted := carry_insert did
        exact .inl inserted
      · rcases sound.inserted p accepting' userId roleId orgId idpRoleId count old with before | withdrawn
        · rcases accepted_kept calm did before rfl accepting' with kept | withdrawn
          · exact .inl kept
          · exact .inr (withdrawn_mono (rejected p) withdrawn)
        · exact .inr (withdrawn_mono (rejected p) withdrawn)
    · intro x first y second p q mine others rivals
      exact single_carry sound calm did first second mine others ((rivals_congr calls).mp rivals)
  · intro p
    refine ⟨congrFun calls p,fun k still => mem_settle still,fun k started => started_settle at_ started,
        rejected p,?_,?_,?_⟩
    · intro rests
      have apart : owner ≠ p := rests _ runs
      refine ⟨fun task still => rests task (mem_settle still),fun s own => ?_,fun row there own => ?_⟩
      · constructor
        · intro there
          rcases List.mem_cons.mp there with rfl | old
          · exact absurd own apart
          · exact old
        · exact List.mem_cons_of_mem _
      · rcases carry_rows did there with old | ⟨-,_,_,_,_,-,rfl⟩
        · exact old
        · cases own
          exact absurd rfl apart
    · rintro ⟨unchanged,closed⟩
      refine ⟨fun changed => ?_,?_⟩
      · rcases changes p changed with old | ⟨-,opened⟩
        · exact unchanged old
        · exact closed opened
      · rintro ⟨⟨id,status,still⟩,⟨idpId,keycloakUserId,payload,started⟩,unspoiled⟩
        refine closed ⟨⟨id,status,mem_settle still⟩,⟨idpId,keycloakUserId,payload,started_cases at_ started⟩,?_⟩
        rintro ⟨k,awaited,was⟩
        exact unspoiled ⟨k,awaited,rejected p k was⟩
    · intro accepting row there own
      rcases accepted_kept calm did there own accepting with kept | withdrawn
      · exact .inl kept
      · exact .inr (withdrawn_mono (rejected p) withdrawn)

variable (svc) in
def rule (passed : Nat → Prop) : Contract Cmd World Choice Env where
  inv := Sound
  rely := Undisturbed
  idle := Idle
  allowed process c choice w := Fine svc passed process w choice c
  happens := Smooth passed
variable (svc) in
def contract : Contract Cmd World Choice Env := rule svc fun _ => True

/-- The commands that touch neither roles nor invitations nor the steps that run. -/
def plain : Cmd → Bool
  | .one _ => false
  | .start _ => false
  | _ => true
/-- And that read no invitation. -/
def silent : Cmd → Bool
  | .getInvitationById _ => false
  | c => plain c
theorem plain_of_silent {c : Cmd} (quiet : silent c = true) : plain c = true := by
  cases c <;> first | rfl | cases quiet
/-- Only the clients of the organisations may differ. -/
structure Same (a b : World) : Prop where
  rows : b.rows = a.rows
  status : b.status = a.status
  tasks : b.tasks = a.tasks
  calls : b.calls = a.calls
  changers : b.changers = a.changers

variable {c : Cmd} {answer : Except Failure (Ret c)}
theorem same_refl : Same w w := ⟨rfl,rfl,rfl,rfl,rfl⟩
theorem handle_plain (quiet : plain c = true) (handled : handle svc process c choice w = some (after,answer)) :
    Same w after := by
  cases c with
  | one step_ => cases quiet
  | start works => cases quiet
  | updateOrganizationById orgId idpId =>
    simp only [handle] at handled
    split at handled
    · split at handled
      · cases handled
        exact ⟨rfl,rfl,rfl,rfl,rfl⟩
      · cases handled
        exact same_refl
    · cases handled
      exact ⟨rfl,rfl,rfl,rfl,rfl⟩
  | all works =>
    obtain ⟨result,-,same⟩ := Option.map_eq_some_iff.mp handled
    cases same
    exact same_refl
  | _ => cases handled; exact same_refl

theorem sound_same (sound : Sound w) (same : Same w after) : Sound after where
  unspoiled p changed := by
    rw [same.changers] at changed
    rw [Spoiled,same.tasks]
    exact sound.unspoiled p changed
  inserted p accepting userId roleId orgId idpRoleId count settled := by
    rw [accepts_congr (congrFun same.calls p)] at accepting
    rw [same.tasks] at settled
    rw [same.rows,Withdrawn,same.tasks]
    exact sound.inserted p accepting userId roleId orgId idpRoleId count settled
  single x first y second p q mine others rivals := by
    rw [same.rows] at first second
    exact sound.single x first y second p q mine others ((rivals_congr same.calls).mp rivals)

theorem undisturbed_same (same : Same w after) : Undisturbed process w after where
  calls := congrFun same.calls process
  running _ there := by rw [same.tasks] at there; exact there
  started _ there := by rw [same.tasks]; exact there
  rejected _ there := by rw [same.tasks]; exact there
  rests rests := ⟨by rw [Rests,same.tasks]; exact rests,fun _ _ => by rw [same.tasks],by rw [same.rows]; exact fun _ there _ => there⟩
  dead dead := by rw [Dead,Open,Joint,Spoiled,same.changers,same.tasks]; exact dead
  rows _ row there _ := .inl (by rw [same.rows]; exact there)
theorem steady_plain (quiet : plain c = true) : Steady (sys svc) (contract svc) c :=
  fun _ _ _ _ _ sound _ handled =>
    ⟨sound_same sound (handle_plain quiet handled),fun _ => undisturbed_same (handle_plain quiet handled)⟩

theorem sound_start (process : Nat) (works : List Work) (sound : Sound w) :
    Sound { w with tasks := w.tasks.start process works } ∧
      ∀ other, other ≠ process → Undisturbed other w { w with tasks := w.tasks.start process works } := by
  refine ⟨⟨sound.unspoiled,sound.inserted,sound.single⟩,fun other apart => ?_⟩
  have mine : ∀ k, ⟨other,k⟩ ∈ (w.tasks.start process works).running → ⟨other,k⟩ ∈ w.tasks.running := by
    intro k runs
    rcases mem_start.mp runs with old | ⟨same,-⟩
    · exact old
    · exact absurd same apart
  refine ⟨rfl,mine,fun k there => started_mono there,fun k there => there,?_,?_,fun _ row there _ => .inl there⟩
  · intro rests
    refine ⟨fun task runs => ?_,fun s _ => Iff.rfl,fun row there _ => there⟩
    rcases mem_start.mp runs with old | ⟨same,-⟩
    · exact rests task old
    · exact same ▸ Ne.symm apart
  · rintro ⟨unchanged,closed⟩
    refine ⟨unchanged,?_⟩
    rintro ⟨⟨id,status,runs⟩,⟨idpId,keycloakUserId,payload,started⟩,unspoiled⟩
    refine closed ⟨⟨id,status,mine _ runs⟩,⟨idpId,keycloakUserId,payload,?_⟩,unspoiled⟩
    rcases started with runs | settled
    · exact .inl (mine _ runs)
    · exact .inr settled

theorem wp_command {P : World → Prop} {wanted : Except Failure (Ret c) → World → Prop}
    (stable : ∀ a b, P a → Undisturbed process a b → P b)
    (carried : ∀ before choice after answer, Sound before → P before → Fine svc (fun _ => True) process before choice c →
      handle svc process c choice before = some (after,answer) →
        Sound after ∧ (∀ other, other ≠ process → Undisturbed other before after) ∧ wanted answer after)
    (now : P w) : wp (sys svc) (contract svc) process (perform c) wanted w :=
  wp_call fun before relied sound choice after answer fine handled =>
    carried before choice after answer sound (stable w before now relied) fine handled

theorem wp_answer {P : World → Prop} {K : Ret c → Prop} (quiet : plain c = true)
    (stable : ∀ a b, P a → Undisturbed process a b → P b)
    (answers : ∀ choice w after value, handle svc process c choice w = some (after,.ok value) → K value)
    (now : P w) :
    wp (sys svc) (contract svc) process (perform c) (upon (fun value w => P w ∧ K value) P) w := by
  refine wp_command stable (fun before choice after answer sound known _ handled => ?_) now
  have same := handle_plain quiet handled
  refine ⟨sound_same sound same,fun other _ => undisturbed_same same,?_⟩
  have later := stable before after known (undisturbed_same same)
  cases answer with
  | error error => exact later
  | ok value => exact ⟨later,answers choice before after value handled⟩

/-- The call has started no task. -/
structure Bare (process : Nat) (w : World) : Prop where
  rests : Rests process w
  settled : ∀ s ∈ w.tasks.settled, s.task.process ≠ process
theorem bare_stable (bare : Bare process a) (relied : Undisturbed process a b) : Bare process b := by
  obtain ⟨rests,settled,-⟩ := relied.rests bare.rests
  exact ⟨rests,fun s there own => bare.settled s ((settled s own).mp there) own⟩
theorem not_spoiled (bare : Bare process w) : ¬Spoiled process w :=
  fun ⟨_,_,rejected⟩ => bare.settled _ rejected rfl
theorem not_withdrawn (bare : Bare process w) : ¬Withdrawn process w :=
  fun ⟨_,_,rejected⟩ => bare.settled _ rejected rfl
theorem dead_of_rests (rests : Rests process w) (unchanged : process ∉ w.changers) : Dead process w :=
  ⟨unchanged,fun ⟨⟨_,_,runs⟩,_⟩ => rests _ runs rfl⟩
/-- The call answers an invitation, and has done nothing yet. -/
structure Untouched (process : Nat) (payload : UpdateInvitation) (w : World) : Prop where
  calls : w.calls process = some (.updateOrgInvitation payload)
  bare : Bare process w
  unchanged : process ∉ w.changers

variable {payload : UpdateInvitation} {invitation : OrgInvitation} {role : String} {roles : List String}
theorem untouched_dead (untouched : Untouched process payload w) : Dead process w :=
  dead_of_rests untouched.bare.rests untouched.unchanged
theorem untouched_stable : ∀ a b, Untouched process payload a → Undisturbed process a b → Untouched process payload b :=
  fun _ _ untouched relied => ⟨relied.calls.trans untouched.calls,bare_stable untouched.bare relied,
    (relied.dead (untouched_dead untouched)).1⟩
/-- The call has inserted this role. -/
def HasRow (process : Nat) (payload : UpdateInvitation) (role : String) (w : World) : Prop :=
  ∃ row ∈ w.rows, row.by_ = some process ∧ row.userId = payload.user.id ∧ row.orgRoleId = role ∧
    row.orgId = some payload.orgId
theorem hasRow_stable (accepting : (accepts a process).isSome = true) (has : HasRow process payload role a)
    (relied : Undisturbed process a b) (kept : ¬Withdrawn process b) : HasRow process payload role b := by
  obtain ⟨row,there,own,same⟩ := has
  exact ⟨row,(relied.rows accepting row there own).resolve_right kept,own,same⟩
/-- The call inserted the roles, and nothing of it runs. -/
structure Member (process : Nat) (payload : UpdateInvitation) (roles : List String) (w : World) : Prop where
  rests : Rests process w
  kept : ¬Withdrawn process w
  rows : ∀ role ∈ roles, HasRow process payload role w

theorem member_stable (accepting : (accepts a process).isSome = true) (member : Member process payload roles a)
    (relied : Undisturbed process a b) : Member process payload roles b := by
  obtain ⟨rests,settled,-⟩ := relied.rests member.rests
  have kept : ¬Withdrawn process b := by
    rintro ⟨id,status,rejected⟩
    exact member.kept ⟨id,status,(settled _ rfl).mp rejected⟩
  exact ⟨rests,kept,fun role listed => hasRow_stable accepting (member.rows role listed) relied kept⟩

variable (svc) in
/-- What a call leaves: nothing where it fails, and all roles where it accepts. -/
def Ends (process : Nat) (result : Except Failure Response) (w : World) : Prop :=
  match result with
  | .error _ => Dead process w
  | .ok _ => ∀ payload, accepts w process = some payload → ∀ invitation ∈ svc.invitations,
      invitation.id = payload.invitationId →
        invitation.orgId = payload.orgId ∧ Member process payload invitation.orgRoles w

theorem ends_stable {result : Except Failure Response} (ends : Ends svc process result a)
    (relied : Undisturbed process a b) : Ends svc process result b := by
  cases result with
  | error error => exact relied.dead ends
  | ok response =>
    intro payload accepting invitation listed same
    rw [accepts_congr relied.calls] at accepting
    obtain ⟨org,member⟩ := ends payload accepting invitation listed same
    exact ⟨org,member_stable (by rw [accepting]; rfl) member relied⟩
theorem accepts_payload (calls : w.calls process = some (.updateOrgInvitation payload)) :
    accepts w process = if payload.status = .ACCEPTED then some payload else none := by
  rw [accepts,calls]

variable (svc) in
/-- The invitation that the call is about. -/
def Answered (payload : UpdateInvitation) (invitation : OrgInvitation) : Prop :=
  invitation ∈ svc.invitations ∧ invitation.id = payload.invitationId ∧ invitation.orgId = payload.orgId
theorem ends_member (response : Response) (answers : Answered svc payload invitation)
    (calls : w.calls process = some (.updateOrgInvitation payload))
    (member : Member process payload invitation.orgRoles w) :
    Ends svc process (.ok response) w := by
  intro other accepting found listed same
  rw [accepts_payload calls] at accepting
  obtain ⟨-,same'⟩ := Option.ite_none_right_eq_some.mp accepting
  cases same'
  obtain rfl := svc.invitation_ids found listed invitation answers.1 (same.trans answers.2.1.symm)
  exact ⟨answers.2.2,member⟩

theorem wp_update {id : String} {status : Status} (untouched : Untouched process payload w) :
    wp (sys svc) (contract svc) process (perform (.one (.updateOrgInvitation id status)))
      (upon (fun _ w => w.calls process = some (.updateOrgInvitation payload) ∧ Bare process w) (Dead process)) w := by
  refine wp_command untouched_stable (fun before choice after answer sound known fine handled => ?_) untouched
  have calm : Calm (fun _ => True) process before choice (.updateOrgInvitation id status) := fine
  obtain ⟨did,rfl⟩ := Prod.mk.inj (Option.some.inj handled)
  have carried : carry svc process (.updateOrgInvitation id status) choice before =
      (after,(carry svc process (.updateOrgInvitation id status) choice before).2) := Prod.ext did rfl
  obtain ⟨kept,others⟩ := sound_one sound calm (fun _ _ _ => not_spoiled known.bare) carried
  obtain ⟨calls,tasks⟩ := carry_frame carried
  have bare : Bare process after := ⟨by rw [Rests,tasks]; exact known.bare.rests,by rw [tasks]; exact known.bare.settled⟩
  refine ⟨kept,others,?_⟩
  cases result : (carry svc process (.updateOrgInvitation id status) choice before).2 with
  | none =>
    rw [result] at carried
    exact dead_of_rests bare.rests (unchanged_of_rejected calm rfl carried)
  | some count => exact ⟨(congrFun calls process).trans known.calls,bare⟩

/-- The roles are being inserted one by one; those that are left are not there yet. -/
structure Inserting (process : Nat) (payload : UpdateInvitation) (roles left : List String) (w : World) : Prop where
  calls : w.calls process = some (.updateOrgInvitation payload)
  bare : Bare process w
  rows : ∀ role ∈ roles, role ∈ left ∨ HasRow process payload role w

theorem inserting_stable {left : List String} (accepting : payload.status = .ACCEPTED) :
    ∀ a b, Inserting process payload roles left a → Undisturbed process a b →
    Inserting process payload roles left b := by
  intro a b inserting relied
  have bare := bare_stable inserting.bare relied
  refine ⟨relied.calls.trans inserting.calls,bare,fun role listed => ?_⟩
  rcases inserting.rows role listed with waits | has
  · exact .inl waits
  · refine .inr (hasRow_stable ?_ has relied (not_withdrawn bare))
    rw [accepts_payload inserting.calls,if_pos accepting]
    rfl

theorem wp_createUserOrgRole {left : List String} (accepting : payload.status = .ACCEPTED) (filled : payload.orgId ≠ "")
    (now : Inserting process payload roles (role :: left) w) :
    wp (sys svc) (contract svc) process (createUserOrgRole payload.user.id role payload.orgId)
      (upon (fun _ => Inserting process payload roles left) (Dead process)) w := by
  refine wp_seq (fun _ => Inserting process payload roles left)
    (wp_command (inserting_stable accepting) (fun before choice after answer sound known fine handled => ?_) now)
    fun _ w inserted => inserted
  obtain ⟨calm,unchanged⟩ : Calm (fun _ => True) process before choice
      (.createUserOrgRole payload.user.id role (truthy (some payload.orgId)) none) ∧
      (choice.fails = true ∨ ¬Known svc role → process ∉ before.changers) := fine
  obtain ⟨did,rfl⟩ := Prod.mk.inj (Option.some.inj handled)
  have carried : carry svc process (.createUserOrgRole payload.user.id role (truthy (some payload.orgId)) none)
      choice before =
      (after,(carry svc process (.createUserOrgRole payload.user.id role (truthy (some payload.orgId)) none) choice before).2) :=
    Prod.ext did rfl
  obtain ⟨kept,others⟩ := sound_one sound calm (fun _ _ update => by cases update) carried
  obtain ⟨calls,tasks⟩ := carry_frame carried
  have bare : Bare process after := ⟨by rw [Rests,tasks]; exact known.bare.rests,by rw [tasks]; exact known.bare.settled⟩
  refine ⟨kept,others,?_⟩
  cases result : (carry svc process (.createUserOrgRole payload.user.id role (truthy (some payload.orgId)) none) choice before).2 with
  | none =>
    rw [result] at carried
    refine dead_of_rests bare.rests fun changed => ?_
    rcases carry_changers carried changed with old | ⟨-,-,_,_,⟨⟩,-⟩
    refine unchanged ?_ old
    rcases carry_rejected carried with fails | ⟨_,_,_,_,⟨⟩,unknown⟩
    · exact .inl fails
    · exact .inr unknown
  | some count =>
    rw [result] at carried
    refine ⟨(congrFun calls process).trans known.calls,bare,fun one listed => ?_⟩
    rcases known.rows one listed with waits | ⟨row,there,own,same⟩
    · rcases List.mem_cons.mp waits with rfl | later
      · exact .inr ⟨_,carry_insert carried,rfl,rfl,rfl,truthy_some filled⟩
      · exact .inl later
    · rcases carry_kept carried there with still | ⟨-,_,_,⟨⟩,-⟩
      exact .inr ⟨row,still,own,same⟩

theorem wp_createUserOrgRoles (accepting : payload.status = .ACCEPTED) (filled : payload.orgId ≠ "")
    (calls : w.calls process = some (.updateOrgInvitation payload)) (bare : Bare process w) :
    wp (sys svc) (contract svc) process
      (forEach (fun roleId => createUserOrgRole payload.user.id roleId payload.orgId) roles)
      (upon (fun _ w => w.calls process = some (.updateOrgInvitation payload) ∧ Member process payload roles w) (Dead process)) w := by
  refine wp_mono ?_ (wp_forEach (fun left => Inserting process payload roles left)
    (fun role left w now => wp_createUserOrgRole accepting filled now) ⟨calls,bare,fun role listed => .inl listed⟩)
  rintro (error | done) w' ended
  · exact ended
  · refine ⟨ended.calls,ended.bare.rests,not_withdrawn ended.bare,fun role listed => ?_⟩
    exact (ended.rows role listed).resolve_left (List.not_mem_nil)

theorem mem_mapM {α : Type} {items : List (Option α)} {out : List α} (all : items.mapM id = some out) {item : Option α}
    (listed : item ∈ items) : ∃ x ∈ out, item = some x := by
  induction items generalizing out with
  | nil => cases listed
  | cons first rest ih =>
    rw [List.mapM_cons] at all
    obtain ⟨x,here,all⟩ := Option.bind_eq_some_iff.mp all
    obtain ⟨others,later,same⟩ := Option.bind_eq_some_iff.mp all
    cases same
    rcases List.mem_cons.mp listed with rfl | further
    · exact ⟨x,List.mem_cons_self,here⟩
    · obtain ⟨y,there,equal⟩ := ih later further
      exact ⟨y,List.mem_cons_of_mem _ there,equal⟩

/-- The steps of an acceptance are started. -/
structure Launched (process : Nat) (payload : UpdateInvitation) (works : List Work) (w : World) : Prop where
  calls : w.calls process = some (.updateOrgInvitation payload)
  started : ∀ step_ ∈ works, w.tasks.Started process step_
theorem launched_stable {works : List Work} :
    ∀ a b, Launched process payload works a → Undisturbed process a b → Launched process payload works b :=
  fun _ _ launched relied =>
      ⟨relied.calls.trans launched.calls,fun step_ listed => relied.started step_ (launched.started step_ listed)⟩

theorem wp_joined {awaited works : List Work} {spare : List (String × String)} (accepting : payload.status = .ACCEPTED)
    (filled : payload.orgId ≠ "") (answers : Answered svc payload invitation)
    (awaits : ∀ step_ ∈ awaited, counts step_ = true)
    (covered : ∀ role ∈ invitation.orgRoles, Known svc role → ∃ idpRoleId, (role,idpRoleId) ∈ spare)
    (inserts : ∀ step_ ∈ updateUserOrgRole payload.user.id payload.orgId spare, step_ ∈ works)
    (now : Launched process payload works w) :
    wp (sys svc) (contract svc) process (perform (.all awaited))
      (upon (fun _ w => w.calls process = some (.updateOrgInvitation payload) ∧ Member process payload invitation.orgRoles w)
        (Dead process)) w := by
  refine wp_command launched_stable (fun before choice after answer sound known fine handled => ?_) now
  obtain ⟨result,joined,same⟩ := Option.map_eq_some_iff.mp handled
  cases same
  refine ⟨sound,fun _ _ => undisturbed_refl,?_⟩
  cases result with
  | none =>
    obtain ⟨step_,listed,rejected⟩ := all_rejected joined
    have spoiled : Spoiled process before := ⟨step_,awaits step_ listed,rejected⟩
    exact ⟨fun changed => sound.unspoiled process changed spoiled,fun opened => opened.2.2 spoiled⟩
  | some count =>
    have accepts_ : accepts before process = some payload := by rw [accepts_payload known.calls,if_pos accepting]
    obtain ⟨rests,resolved,exist⟩ := fine count payload joined accepts_
    have kept : ¬Withdrawn process before := fun ⟨id,status,rejected⟩ => resolved _ rejected rfl rfl
    refine ⟨known.calls,rests,kept,fun role listed => ?_⟩
    obtain ⟨idpRoleId,paired⟩ := covered role listed (exist invitation answers.1 answers.2.1 role listed)
    have started := known.started _ (inserts _ (List.mem_map.mpr ⟨_,paired,rfl⟩))
    rcases started with runs | ⟨⟨task,result⟩,settled,rfl⟩
    · exact absurd rfl (rests _ runs)
    · cases result with
      | none => exact absurd rfl (resolved _ settled rfl)
      | some count =>
        have there := (sound.inserted process (by rw [accepts_]; rfl) _ _ _ _ count settled).resolve_right kept
        exact ⟨_,there,rfl,rfl,rfl,truthy_some filled⟩

theorem covers {clientRolesList : List ClientRole} {out : List RolePayload}
    (all : (rolesPayload clientRolesList (svc.roles.filter fun row => roles.contains row.id)).mapM id = some out)
    (listed : role ∈ roles) (known : Known svc role) : ∃ idpRoleId, (role,idpRoleId) ∈ idPairs out := by
  obtain ⟨row,there,same⟩ := List.any_eq_true.mp known
  obtain rfl : row.id = role := by simpa using same
  have chosen : row ∈ svc.roles.filter fun row => roles.contains row.id :=
    List.mem_filter.mpr ⟨there,by simpa using listed⟩
  obtain ⟨x,member,found⟩ := mem_mapM all (List.mem_map.mpr ⟨row,chosen,rfl⟩)
  obtain ⟨client,-,rfl⟩ := Option.map_eq_some_iff.mp found
  exact ⟨client.id,List.mem_map.mpr ⟨_,member,rfl⟩⟩
theorem wp_found {K : Ret c → Prop} (quiet : plain c = true)
    (answers : ∀ choice w after value, handle svc process c choice w = some (after,.ok value) → K value)
    (untouched : Untouched process payload w) :
    wp (sys svc) (contract svc) process (perform c)
      (upon (fun value w => Untouched process payload w ∧ K value) (Dead process)) w := by
  refine wp_mono ?_ (wp_answer quiet untouched_stable answers untouched)
  rintro (error | value) w' ended
  · exact untouched_dead ended
  · exact ended
theorem wp_read (quiet : plain c = true) (untouched : Untouched process payload w) :
    wp (sys svc) (contract svc) process (perform c) (upon (fun _ => Untouched process payload) (Dead process)) w := by
  refine wp_mono ?_ (wp_found (K := fun _ => True) quiet (fun _ _ _ _ _ => trivial) untouched)
  rintro (error | value) w' ended
  · exact ended
  · exact ended.1

theorem wp_half {id : String} {status : Status} (untouched : Untouched process payload w) :
    wp (sys svc) (contract svc) process (do
        let _ : Unit ← perform (.start [.updateOrgInvitation id status])
        throw .other : Async Unit)
      (upon (fun _ w => w.calls process = some (.updateOrgInvitation payload) ∧ Member process payload roles w) (Dead process)) w := by
  refine wp_seq (fun _ => Dead process)
      (wp_command untouched_stable (fun before choice after answer sound known _ handled => ?_)
    untouched) fun _ w dead => dead
  cases handled
  obtain ⟨kept,others⟩ := sound_start process [.updateOrgInvitation id status] sound
  refine ⟨kept,others,known.unchanged,?_⟩
  -- The other step is not started, so that the update does not change the status.
  rintro ⟨-,⟨idpId,keycloakUserId,payload',started⟩,-⟩
  rcases started with runs | ⟨s,settled,same⟩
  · rcases mem_start.mp runs with old | ⟨-,listed⟩
    · exact known.bare.rests _ old rfl
    · cases List.mem_singleton.mp listed
  · exact known.bare.settled s settled (by rw [same])

theorem wp_updateClientInvitation {idpId : String} (accepting : payload.status = .ACCEPTED) (filled : payload.orgId ≠ "")
    (answers : Answered svc payload invitation) (untouched : Untouched process payload w) :
    wp (sys svc) (contract svc) process
      (updateClientInvitation invitation idpId payload.user payload.orgId payload.status)
      (upon (fun _ w => w.calls process = some (.updateOrgInvitation payload) ∧ Member process payload invitation.orgRoles w)
        (Dead process)) w := by
  refine wp_seq _ (wp_read rfl untouched) fun _ w untouched => ?_
  refine wp_seq _ (wp_read rfl untouched) fun clientRolesList w untouched => ?_
  refine wp_seq _ (wp_found (c := .getOrgRolesByIds invitation.orgRoles)
    (K := fun orgRoles => orgRoles = svc.roles.filter fun row => invitation.orgRoles.contains row.id)
    rfl ?_ untouched) fun orgRoles w known => ?_
  · intro choice w after value handled
    obtain ⟨-,answered_⟩ := Prod.mk.inj (Option.some.inj handled)
    split at answered_
    · cases answered_
    · exact (Except.ok.inj answered_).symm
  obtain ⟨untouched,rfl⟩ := known
  cases all :
      (rolesPayload clientRolesList (svc.roles.filter fun row => invitation.orgRoles.contains row.id)).mapM id with
  | none => exact wp_half untouched
  | some out =>
    let works : List Work := [.updateOrgInvitation invitation.id payload.status,
      .createUserClientRole idpId payload.user.keycloakUserId (clientPayload out)] ++
        updateUserOrgRole payload.user.id payload.orgId (idPairs out)
    refine wp_seq (fun _ => Launched process payload works)
      (wp_command untouched_stable (fun before choice after answer sound known _ handled => ?_) untouched)
      fun _ w launched => ?_
    · cases handled
      obtain ⟨kept,others⟩ := sound_start process works sound
      exact ⟨kept,others,known.calls,fun step_ listed => started_start listed⟩
    · refine wp_seq _
        (wp_joined accepting filled answers ?_ (fun role listed known => covers all listed known) ?_ launched)
        fun _ w member => member
      · intro step_ listed
        rcases List.mem_cons.mp listed with rfl | later
        · rfl
        · cases List.mem_singleton.mp later
          rfl
      · exact fun step_ listed => List.mem_append_right _ listed

theorem wp_answerInvitation {idpId : Option String} (answering : payload.status = .ACCEPTED ∨ payload.status = .REJECTED)
    (filled : payload.orgId ≠ "") (answers : Answered svc payload invitation) (untouched : Untouched process payload w) :
    wp (sys svc) (contract svc) process (answerInvitation payload invitation idpId)
      (upon (fun response => Ends svc process (.ok response)) (Dead process)) w := by
  refine wp_branches _ (fun rejecting => ?_) fun other => ?_
  · refine wp_seq _ (wp_update untouched) fun _ w updated => ?_
    intro _ accepting
    rw [accepts_payload updated.1,rejecting] at accepting
    cases accepting
  · have accepting := answering.resolve_right other
    cases truthy idpId with
    | some idpId =>
      refine wp_seq _ (wp_updateClientInvitation accepting filled answers untouched) fun _ w joined => ?_
      exact ends_member .invitationAccept answers joined.1 joined.2
    | none =>
      refine wp_seq _ (wp_update untouched) fun _ w updated => ?_
      refine wp_seq _ (wp_createUserOrgRoles accepting filled updated.1 updated.2) fun _ w joined => ?_
      exact ends_member .invitationAccept answers joined.1 joined.2

theorem transition_cases {currentStatus nextStatus : Status} (allowed : transition currentStatus nextStatus ≠ false) :
    nextStatus = .ACCEPTED ∨ nextStatus = .REJECTED := by
  cases nextStatus with
  | PENDING => cases currentStatus <;> exact absurd rfl allowed
  | ACCEPTED => exact .inl rfl
  | REJECTED => exact .inr rfl

theorem wp_checkedInvitation {found : Option (OrgInvitation × Status)}
    (listed : ∀ invitation status, found = some (invitation,status) →
      invitation ∈ svc.invitations ∧ invitation.id = payload.invitationId) (untouched : Untouched process payload w) :
    wp (sys svc) (contract svc) process (checkedInvitation payload found)
      (upon (fun response => Ends svc process (.ok response)) (Dead process)) w := by
  cases found with
  | none => exact untouched_dead untouched
  | some pair =>
    obtain ⟨invitation,status⟩ := pair
    obtain ⟨there,same⟩ := listed invitation status rfl
    refine wp_branches _ (fun _ => untouched_dead untouched) fun _ => ?_
    refine wp_branches _ (fun _ => untouched_dead untouched) fun org => ?_
    refine wp_seq _
        (wp_found (c := .getOrganizationDetails payload.orgId) (K := fun _ => payload.orgId ≠ "") rfl ?_ untouched)
      fun organizationDetails w known => ?_
    · intro choice w after value handled empty
      obtain ⟨-,answered_⟩ := Prod.mk.inj (Option.some.inj handled)
      rw [if_pos (.inl empty)] at answered_
      cases answered_
    cases organizationDetails with
    | none => exact untouched_dead known.1
    | some idpId =>
      refine wp_branches _ (fun _ => untouched_dead known.1) fun allowed => ?_
      exact wp_answerInvitation (transition_cases allowed) known.2 ⟨there,same,not_not.mp org⟩ known.1

theorem only_limits (orgId userId : String) : Only (fun c => silent c = true) (assertLimits svc orgId userId) := by
  refine only_bind ((only_call _).mpr rfl) fun userOrgCount => only_ite _ trivial (only_bind ?_ fun _ => ?_)
  · refine only_bind ((only_call _).mpr rfl) fun maxOrganizations => ?_
    cases maxOrganizations with
    | none => trivial
    | some maxOrganizations => exact only_ite _ trivial (only_ite _ trivial trivial)
  · refine only_bind ((only_call _).mpr rfl) fun maxUsers => ?_
    cases maxUsers with
    | none => trivial
    | some maxUsers =>
      refine only_ite _ trivial (only_bind ((only_call _).mpr rfl) fun isExistingOrgUser => only_ite _ trivial ?_)
      exact only_bind ((only_call _).mpr rfl) fun activeUsers => only_ite _ trivial trivial

theorem wp_updateOrgInvitation (untouched : Untouched process payload w) :
    wp (sys svc) (contract svc) process (updateOrgInvitation svc payload)
      (upon (fun response => Ends svc process (.ok response)) (Dead process)) w := by
  refine wp_seq _ (wp_found (c := .getInvitationById payload.invitationId)
    (K := fun found => ∀ invitation status, found = some (invitation,status) →
      invitation ∈ svc.invitations ∧ invitation.id = payload.invitationId) rfl ?_ untouched) fun found w known => ?_
  · intro choice w after value handled invitation status same
    obtain ⟨-,answered_⟩ := Prod.mk.inj (Option.some.inj handled)
    split at answered_
    · cases answered_
    · cases answered_
      obtain ⟨row,here,equal⟩ := Option.map_eq_some_iff.mp same
      cases equal
      exact ⟨List.mem_of_find?_eq_some here,by simpa using List.find?_some here⟩
  · refine wp_branches _ (fun _ => ?_) fun _ => wp_checkedInvitation known.2 known.1
    refine wp_seq (fun _ => Untouched process payload)
        (wp_mono ?_ (wp_only (fun a b now relied _ => untouched_stable a b now relied)
      (only_mono (fun c quiet => steady_plain (plain_of_silent quiet)) (only_limits payload.orgId payload.user.id))
      known.1))
      fun _ w untouched => wp_checkedInvitation known.2 untouched
    rintro (error | done) w' ended
    · exact untouched_dead ended
    · exact ended

/-- The command updates no invitation. -/
def apart : Cmd → Bool
  | .one step_ => !updates step_
  | .start works => works.all fun step_ => !updates step_
  | _ => true
/-- The call answers no invitation, and changes none. -/
structure Away (process : Nat) (w : World) : Prop where
  accepts : accepts w process = none
  unchanged : process ∉ w.changers
  none_ : ∀ step_, ⟨process,step_⟩ ∈ w.tasks.running → updates step_ = false
theorem away_dead (away : Away process w) : Dead process w :=
  ⟨away.unchanged,fun ⟨⟨_,_,runs⟩,_⟩ => Bool.noConfusion (away.none_ _ runs)⟩
theorem away_stable : ∀ a b, Away process a → Undisturbed process a b → Away process b :=
  fun _ _ away relied => ⟨(accepts_congr relied.calls).trans away.accepts,(relied.dead (away_dead away)).1,
    fun step_ runs => away.none_ step_ (relied.running step_ runs)⟩

theorem handle_apart (quiet : apart c = true) (sound : Sound w) (away : Away process w)
    (fine : Fine svc (fun _ => True) process w choice c)
    (handled : handle svc process c choice w = some (after,answer)) :
    Sound after ∧ (∀ other, other ≠ process → Undisturbed other w after) ∧ Away process after := by
  cases c with
  | one step_ =>
    have calm : Calm (fun _ => True) process w choice step_ := by
      cases step_ with
      | createUserOrgRole userId roleId orgId idpRoleId => exact fine.1
      | _ => exact fine
    have none_ : ∀ id status, step_ ≠ .updateOrgInvitation id status := by
      rintro id status rfl
      cases quiet
    obtain ⟨did,rfl⟩ := Prod.mk.inj (Option.some.inj handled)
    have carried : carry svc process step_ choice w = (after,(carry svc process step_ choice w).2) := Prod.ext did rfl
    obtain ⟨kept,others⟩ := sound_one sound calm (fun id status update => absurd update (none_ id status)) carried
    obtain ⟨calls,tasks⟩ := carry_frame carried
    refine ⟨kept,others,(accepts_congr (congrFun calls process)).trans away.accepts,fun changed =>
        ?_,by rw [tasks]; exact away.none_⟩
    rcases carry_changers carried changed with old | ⟨-,-,id,status,update,-⟩
    · exact away.unchanged old
    · exact none_ id status update
  | start works =>
    cases handled
    obtain ⟨kept,others⟩ := sound_start process works sound
    refine ⟨kept,others,away.accepts,away.unchanged,fun step_ runs => ?_⟩
    rcases mem_start.mp runs with old | ⟨-,listed⟩
    · exact away.none_ step_ old
    · simpa using List.all_eq_true.mp quiet step_ listed
  | _ =>
    have same := handle_plain rfl handled
    exact ⟨sound_same sound same,fun other _ => undisturbed_same same,away_stable w after away (undisturbed_same same)⟩

theorem wp_away {p : Async Response} (only : Only (fun c => apart c = true) p) (away : Away process w) :
    wp (sys svc) (contract svc) process p (fun result w => Ends svc process result w) w := by
  refine wp_mono ?_ (wp_each (P := Away process) (fun a b away relied _ => away_stable a b away relied)
    (fun c quiet before choice after answer sound away fine handled => handle_apart quiet sound away fine handled) only away)
  rintro (error | response) w' away
  · exact away_dead away
  · intro payload accepting
    rw [away.accepts] at accepting
    cases accepting
theorem apart_inserts {userId orgId : String} {pairs : List (String × String)} :
    ((updateUserOrgRole userId orgId pairs).all fun step_ => !updates step_) = true := by
  simp [updateUserOrgRole,updates]
theorem only_replaceClientRoles (idpId userId orgId : String) (keycloakUserId : Option String)
    (payload : List (Option RolePayload)) :
    Only (fun c => apart c = true) (replaceClientRoles idpId userId orgId keycloakUserId payload) := by
  refine only_bind ((only_call _).mpr rfl) fun _ => only_bind ((only_call _).mpr rfl) fun deleted =>
      only_ite _ trivial ?_
  cases payload.mapM id with
  | none => trivial
  | some out =>
    refine only_bind ((only_call _).mpr ?_) fun _ => only_bind ((only_call _).mpr rfl) fun _ => trivial
    exact apart_inserts

theorem only_updateUserRoles (orgId : String) (roleIds : List String) (userId : String) :
    Only (fun c => apart c = true) (updateUserRoles svc orgId roleIds userId) := by
  refine only_bind ((only_call _).mpr rfl) fun isUserExistForOrg => only_ite _ trivial ?_
  refine only_bind ((only_call _).mpr rfl) fun organizationDetails => ?_
  cases organizationDetails with
  | none => trivial
  | some idpId =>
    dsimp only
    cases truthy idpId with
    | none =>
      refine only_bind ((only_call _).mpr rfl) fun isRolesExist => only_ite _ trivial ?_
      refine only_bind ((only_call _).mpr rfl) fun deleted => only_ite _ trivial ?_
      refine only_bind ((only_call _).mpr ?_) fun _ => trivial
      simp [apart,createUserOrgRoles,updates]
    | some idpId =>
      refine only_bind ((only_call _).mpr rfl) fun _ => only_bind ((only_call _).mpr rfl) fun clientRolesList => ?_
      refine only_bind ((only_call _).mpr rfl) fun orgRoles => only_ite _ trivial ?_
      exact only_bind ((only_call _).mpr rfl) fun keycloakUserId => only_replaceClientRoles _ _ _ _ _

theorem only_registerToKeycloak (orgId : String) (keycloakUserId : Option String) (userId : String) :
    Only (fun c => apart c = true) (registerToKeycloak orgId keycloakUserId userId) := by
  refine only_bind ((only_call _).mpr rfl) fun _ => only_bind ((only_call _).mpr rfl) fun idpId => ?_
  have created : ∀ role, Only (fun c => apart c = true) (perform (.createClientRole idpId role)) :=
    fun role => (only_call _).mpr rfl
  refine only_bind (only_forEach created _) fun _ => ?_
  refine only_bind ((only_call _).mpr rfl) fun ownerRoleClient => only_bind ((only_call _).mpr rfl)
      fun ownerRoleData => ?_
  cases ownerRoleData with
  | none => trivial
  | some ownerRoleData =>
    refine only_bind ((only_call _).mpr ?_) fun _ => only_bind ((only_call _).mpr rfl) fun _ => trivial
    exact apart_inserts

theorem only_createOrgCredentials (orgId userId : String) (keycloakUserId : Option String) :
    Only (fun c => apart c = true) (createOrgCredentials orgId userId keycloakUserId) := by
  refine only_bind ((only_call _).mpr rfl) fun organizationDetails => ?_
  cases organizationDetails with
  | none => trivial
  | some idpId =>
    dsimp only
    cases truthy idpId with
    | some idpId =>
      refine only_bind ((only_call _).mpr rfl) fun _ => only_bind ((only_call _).mpr rfl) fun _ => ?_
      exact only_bind ((only_call _).mpr rfl) fun _ => trivial
    | none =>
      refine only_bind (only_tryCatch (only_registerToKeycloak orgId keycloakUserId userId) fun _ => trivial)
          fun idpId => ?_
      exact only_bind ((only_call _).mpr rfl) fun _ => trivial

theorem idle_stable (idle : Idle process a) (relied : Undisturbed process a b) : Idle process b := by
  obtain ⟨rests,settled,rows⟩ := relied.rests idle.rests
  exact ⟨relied.calls.trans idle.calls,rests,fun s there own => idle.settled s ((settled s own).mp there) own,
    fun row there own => idle.rows row (rows row there own) own,
    (relied.dead (dead_of_rests idle.rests idle.changers)).1⟩

theorem sound_called (input : Input) (sound : Sound w) (idle : Idle process w) :
    Sound { w with calls := Function.update w.calls process (some input) } ∧
      ∀ other, other ≠ process →
      Undisturbed other w { w with calls := Function.update w.calls process (some input) } := by
  have same : ∀ p, p ≠ process → accepts { w with calls := Function.update w.calls process (some input) } p =
      accepts w p :=
    fun p apart => accepts_congr (Function.update_of_ne apart _ _)
  refine ⟨⟨sound.unspoiled,?_,?_⟩,?_⟩
  · intro p accepting userId roleId orgId idpRoleId count settled
    have apart : p ≠ process := by
      rintro rfl
      exact idle.settled _ settled rfl
    rw [same p apart] at accepting
    exact sound.inserted p accepting userId roleId orgId idpRoleId count settled
  · rintro x first y second p q mine others ⟨apart,u,v,accepting,accepting',equal⟩
    have left : p ≠ process := by
      rintro rfl
      exact idle.rows x first mine
    have right : q ≠ process := by
      rintro rfl
      exact idle.rows y second others
    rw [same p left] at accepting
    rw [same q right] at accepting'
    exact sound.single x first y second p q mine others ⟨apart,u,v,accepting,accepting',equal⟩
  · intro other apart
    exact ⟨Function.update_of_ne apart _ _,fun _ runs => runs,fun _ there => there,fun _ there => there,
      fun rests => ⟨rests,fun _ _ => Iff.rfl,fun _ there _ => there⟩,fun dead => dead,fun _ _ there _ => .inl there⟩

variable (svc) in
theorem keeps : Keeps (sys svc) (contract svc) (Ends svc) where
  reflexive _ _ := undisturbed_refl
  transitive _ _ _ _ := undisturbed_trans
  stable _ _ _ _ ends relied _ := ends_stable ends relied
  idles _ _ _ idle relied _ := idle_stable idle relied
  arrives process input a b sound idle arrived := by
    cases arrived
    obtain ⟨kept,others⟩ := sound_called input sound idle
    refine ⟨kept,others,?_⟩
    have called : Function.update a.calls process (some input) process = some input := Function.update_self _ _ _
    cases input with
    | updateOrgInvitation payload =>
      refine wp_mono ?_ (wp_updateOrgInvitation ⟨called,⟨idle.rests,idle.settled⟩,idle.changers⟩)
      rintro (error | response) w' ended <;> exact ended
    | updateUserRoles orgId roleIds userId =>
      refine wp_away (only_updateUserRoles orgId roleIds userId)
          ⟨?_,idle.changers,fun _ runs => absurd rfl (idle.rests _ runs)⟩
      simp [accepts]
    | createOrgCredentials orgId userId keycloakUserId =>
      refine wp_away (only_createOrgCredentials orgId userId keycloakUserId)
        ⟨?_,idle.changers,fun _ runs => absurd rfl (idle.rests _ runs)⟩
      simp [accepts]
  moves event a b sound smooth moved := sound_settle sound smooth moved

theorem good_of_safe {m : Machine Cmd Ret Failure Response World} (safe : Safe (sys svc) (contract svc) (Ends svc) m) :
    Good svc m where
  member process payload response accepting ended _ invitation listed same role listed' := by
    obtain ⟨org,member⟩ := safe_ended safe ended payload accepting invitation listed same
    obtain ⟨row,there,-,user,held_,orgId⟩ := member.rows role listed'
    exact ⟨row,there,user,held_,org ▸ orgId⟩
  unchanged process error ended := by
    have dead : Dead process m.world := safe_ended safe ended
    exact dead.1
  single := safe.inv.single

end

def begins (_ : Nat) : Input → Bool
  | .updateOrgInvitation _ => false
  | _ => true
def findsPending : Except Failure (Option (OrgInvitation × Status)) → Bool
  | .ok (some (_,.PENDING)) => true
  | _ => false
/-- What passes the check: an invitation that was found pending. -/
def hears : (c : Cmd) → Except Failure (Ret c) → Bool → Bool
  | .getInvitationById _,answer,passed => findsPending answer || passed
  | _,_,passed => passed
def inserts : Work → Bool
  | .createUserOrgRole _ _ _ _ => true
  | _ => false
/-- Roles are inserted only after the check. -/
def Permits (passed : Bool) : Cmd → Prop
  | .one step_ => inserts step_ = true → passed = true
  | .start works => works.any inserts = true → passed = true
  | _ => True

section
variable {svc : Services} {payload : UpdateInvitation} {β : Type}

theorem hears_passed (c : Cmd) (answer : Except Failure (Ret c)) : hears c answer true = true := by
  cases c with
  | getInvitationById id => exact Bool.or_true _
  | _ => rfl
theorem recalls_passed (p : Async β) : Recalls hears Permits (fun _ _ => True) p true := by
  induction p with
  | ret value => trivial
  | fail error => trivial
  | await command resume ih =>
    refine ⟨?_,fun answer => ?_⟩
    · cases command <;> first | trivial | exact fun _ => rfl
    · rw [hears_passed]
      exact ih answer
theorem recalls_silent {p : Async β} {passed : Bool} (only : Only (fun c => silent c = true) p) :
    Recalls hears Permits (fun _ _ => True) p passed := by
  refine recalls_only (fun c quiet answer told => ?_) (fun c quiet told => ?_) only fun _ => trivial
  · cases c <;> first | rfl | cases quiet
  · cases c <;> trivial

/-- An answered invitation does not pass the check again. -/
theorem only_refused {found : Option (OrgInvitation × Status)} (other : findsPending (.ok found) = false) :
    Only (fun c => silent c = true) (checkedInvitation payload found) := by
  cases found with
  | none => trivial
  | some pair =>
    obtain ⟨invitation,status⟩ := pair
    have refused : transition status payload.status = false := by
      cases status with
      | PENDING => cases other
      | ACCEPTED => rfl
      | REJECTED => rfl
    refine only_ite _ trivial (only_ite _ trivial (only_bind ((only_call _).mpr rfl) fun organizationDetails => ?_))
    cases organizationDetails with
    | none => trivial
    | some idpId => exact only_branches _ (fun _ => trivial) fun allowed => absurd refused allowed

theorem recalls_program (process : Nat) (input : Input) :
    Recalls hears Permits (fun _ _ => True) ((sys svc).program process input) (begins process input) := by
  cases input with
  | updateUserRoles orgId roleIds userId => exact recalls_passed _
  | createOrgCredentials orgId userId keycloakUserId => exact recalls_passed _
  | updateOrgInvitation payload =>
    refine (recalls_bind _ _ _).mpr ((recalls_call _ _).mpr ⟨trivial,?_⟩)
    rintro (error | found)
    · trivial
    change Recalls hears Permits (fun _ _ => True) _ (findsPending (.ok found) || false)
    cases other : findsPending (.ok found) with
    | true => exact recalls_passed _
    | false =>
      refine recalls_silent (only_ite _ (only_bind (only_limits payload.orgId payload.user.id) fun _ => ?_) ?_)
      · exact only_refused other
      · exact only_refused other

/-- A step that the conditions allow, where it is known who has passed the check. -/
def Meets (svc : Services) (s : Machine Cmd Ret Failure Response World × (Nat → Bool)) :
    Action Choice Input Env → Prop :=
  Considered (rule svc fun process => s.2 process = true) s.1

/-- Who has inserted roles, or is about to, has passed the check. -/
structure Marked (svc : Services) (s : Machine Cmd Ret Failure Response World × (Nat → Bool)) : Prop where
  safe : Safe (sys svc) (contract svc) (Ends svc) s.1
  recalling : Recalling hears Permits s
  rows : ∀ row ∈ s.1.world.rows, ∀ process, row.by_ = some process → s.2 process = true
  running : ∀ task ∈ s.1.world.tasks.running, inserts task.work = true → s.2 task.process = true
variable {s next : Machine Cmd Ret Failure Response World × (Nat → Bool)} {a : Action Choice Input Env}

theorem calm_of_marked (marked : Marked svc s) {process : Nat} {choice : Choice} {step_ : Work}
    (permits : inserts step_ = true → s.2 process = true)
    (calm : Calm (fun process => s.2 process = true) process s.1.world choice step_) :
    Calm (fun _ => True) process s.1.world choice step_ := by
  cases step_ with
  | createUserOrgRole userId roleId orgId idpRoleId =>
    intro happening row there other own rivals _ _
    exact calm happening row there other own rivals (permits rfl) (marked.rows row there other own)
  | _ => exact calm
theorem considered_of_meets (marked : Marked svc s) (meets : Meets svc s a) : Considered (contract svc) s.1 a := by
  cases a with
  | start process input => trivial
  | crash process => trivial
  | environment event =>
    intro task at_
    obtain ⟨calm,joint⟩ := meets task at_
    exact ⟨calm_of_marked marked (marked.running task (List.mem_of_getElem? at_)) calm,joint⟩
  | advance process choice =>
    intro command resume stood
    have fine := meets command resume stood
    have permits := (marked.recalling process _ stood).1
    cases command with
    | one step_ =>
      cases step_ with
      | createUserOrgRole userId roleId orgId idpRoleId => exact ⟨calm_of_marked marked permits fine.1,fine.2⟩
      | _ => exact fine
    | _ => exact fine

theorem handle_marks {process : Nat} {c : Cmd} {choice : Choice} {w after : World} {answer : Except Failure (Ret c)}
    {passed : Bool} (permits : Permits passed c) (handled : handle svc process c choice w = some (after,answer)) :
    (∀ row ∈ after.rows, row ∈ w.rows ∨ row.by_ = some process ∧ passed = true) ∧
      ∀ task ∈ after.tasks.running, inserts task.work = true → task ∈ w.tasks.running ∨ task.process = process ∧
      passed = true := by
  cases c with
  | one step_ =>
    obtain ⟨did,rfl⟩ := Prod.mk.inj (Option.some.inj handled)
    have carried : carry svc process step_ choice w = (after,(carry svc process step_ choice w).2) := Prod.ext did rfl
    refine ⟨fun row there => ?_,fun task runs _ => .inl ((carry_frame carried).2 ▸ runs)⟩
    rcases carry_rows carried there with old | ⟨-,_,_,_,_,rfl,rfl⟩
    · exact .inl old
    · exact .inr ⟨rfl,permits rfl⟩
  | start works =>
    cases handled
    refine ⟨fun row there => .inl there,fun task runs inserting => ?_⟩
    rcases mem_start.mp runs with old | ⟨own,listed⟩
    · exact .inl old
    · exact .inr ⟨own,permits (List.any_eq_true.mpr ⟨_,listed,inserting⟩)⟩
  | _ =>
    have same := handle_plain rfl handled
    exact ⟨fun row there => .inl (same.rows ▸ there),fun task runs _ => .inl (same.tasks ▸ runs)⟩

/-- A task that inserts, and a row that was inserted, are of a call that found its invitation
    pending. -/
theorem step_marked (marked : Marked svc s) (considered : Considered (contract svc) s.1 a)
    (taken : hearing (sys svc) begins hears s a = some next) : Marked svc next := by
  obtain ⟨stepped,noted⟩ := noting_cases taken
  have safe := step_safe (keeps svc) marked.safe considered stepped
  have recalling := step_recalling (fun process input _ _ _ => recalls_program process input) marked.recalling taken
  obtain ⟨m,passed⟩ := next
  dsimp only at stepped noted safe
  cases a with
  | start process input =>
    obtain ⟨unused,world,arrived,rfl⟩ := step_start stepped
    cases arrived
    have idle : Idle process s.1.world := marked.safe.idle process unused
    have others (other : Nat) (apart : other ≠ process) : passed other = s.2 other := by
      rw [noted]
      exact Function.update_of_ne apart ..
    refine ⟨safe,recalling,fun row there other own => ?_,fun task runs inserting => ?_⟩
    · refine (others other ?_).trans (marked.rows row there other own)
      rintro rfl
      exact idle.rows row there own
    · exact (others task.process (idle.rests task runs)).trans (marked.running task runs inserting)
  | advance process choice =>
    obtain ⟨command,resume,world,answer,stood,handled,rfl⟩ := step_advance stepped
    have permits := (marked.recalling process _ stood).1
    obtain ⟨rows,running⟩ := handle_marks permits handled
    rw [told_advance stood handled] at noted
    have still {other : Nat} (before : s.2 other = true) : passed other = true := by
      rw [noted]
      by_cases same : other = process
      · have own : s.2 process = true := same ▸ before
        rw [same,Function.update_self,own]
        exact hears_passed command answer
      · rwa [Function.update_of_ne same]
    refine ⟨safe,recalling,fun row there other own => ?_,fun task runs inserting => ?_⟩
    · rcases rows row there with old | ⟨mine,before⟩
      · exact still (marked.rows row old other own)
      · obtain rfl := Option.some.inj (mine.symm.trans own)
        exact still before
    · rcases running task runs inserting with old | ⟨mine,before⟩
      · exact still (marked.running task old inserting)
      · exact still (mine ▸ before)
  | crash process =>
    obtain ⟨-,rfl⟩ := step_crash stepped
    subst noted
    exact ⟨safe,recalling,marked.rows,marked.running⟩
  | environment event =>
    obtain ⟨world,moved,rfl⟩ := step_environment stepped
    subst noted
    obtain ⟨task,carried,result,at_,did,rfl⟩ := settle_cases moved
    refine ⟨safe,recalling,fun row there other own => ?_,fun one runs => marked.running one (mem_settle runs)⟩
    rcases carry_rows did there with old | ⟨-,_,_,_,_,inserting,rfl⟩
    · exact marked.rows row old other own
    · cases own
      exact marked.running task (List.mem_of_getElem? at_) (inserting ▸ rfl)
end

/-- In every run of steps that the conditions allow, an accepted invitation means its roles, a
    failed call changed no status, and no two acceptances inserted the same row. -/
theorem membership_sound (svc : Services) (rows : List Row) (before : ∀ row ∈ rows, row.by_ = none)
    (status : String → Status) (idpIds : String → Option String) {actions : List (Action Choice Input Env)}
    {m : Machine Cmd Ret Failure Response World}
    (reached : run (step (sys svc)) (Machine.initial (World.initial rows status idpIds)) actions = some m)
    (proper : Along (hearing (sys svc) begins hears) (Meets svc)
      (Machine.initial (World.initial rows status idpIds),fun _ => false) actions) : Good svc m := by
  have sound : Sound (World.initial rows status idpIds) := by
    refine ⟨fun process changed => (List.not_mem_nil changed).elim,fun process accepting => ?_,
        fun x first _ _ p _ mine => ?_⟩
    · cases accepting
    · rw [before x first] at mine
      cases mine
  have idle : ∀ process, Idle process (World.initial rows status idpIds) := fun process =>
    ⟨rfl,fun _ runs => (List.not_mem_nil runs).elim,fun _ settled => (List.not_mem_nil settled).elim,
      fun row there own => (by rw [before row there] at own; cases own),List.not_mem_nil⟩
  have start : Marked svc (Machine.initial (World.initial rows status idpIds),fun _ => false) := by
    refine ⟨safe_initial sound idle,recalling_initial _ _,fun row there process own => ?_,fun task runs => ?_⟩
    · rw [before row there] at own
      cases own
    · exact (List.not_mem_nil runs).elim
  have considered := along_of_noting (fun _ _ marked meets => considered_of_meets marked meets)
    (fun _ _ _ marked meets taken => step_marked marked (considered_of_meets marked meets) taken) start proper
  exact good_of_safe (run_safe (keeps svc) start.safe considered reached)

/-- A step that succeeds, of a call that awaits its steps one by one, while there are no roles. -/
def easy (svc : Services) (m : Machine Cmd Ret Failure Response World) : Action Choice Input Env → Bool
  | .start _ _ => true
  | .advance process choice => !choice.fails && m.world.rows.isEmpty && (m.thread process).awaited.all fun c =>
      match c with
      | .one (.createUserOrgRole _ roleId _ _) => svc.roles.any fun row => row.id = roleId
      | .all _ => false
      | _ => true
  | _ => false

theorem meets_of_easy {svc : Services} {s : Machine Cmd Ret Failure Response World × (Nat → Bool)}
    {a : Action Choice Input Env}
    (simple : easy svc s.1 a = true) : Meets svc s a := by
  cases a with
  | start process input => trivial
  | crash process => trivial
  | environment event => cases simple
  | advance process choice =>
    intro command resume at_
    simp only [easy,at_,Thread.awaited,Option.all_some,Bool.and_eq_true,Bool.not_eq_true',List.isEmpty_iff] at simple
    obtain ⟨⟨succeeds,empty⟩,allowed⟩ := simple
    have calm : ∀ step_, Calm (fun process => s.2 process = true) process s.1.world choice step_ := by
      intro step_
      cases step_ with
      | updateOrgInvitation id status => exact fun fails => absurd (fails.symm.trans succeeds) (by decide)
      | createUserClientRole idpId keycloakUserId payload =>
        exact fun fails => absurd (fails.symm.trans succeeds) (by decide)
      | deleteUserClientRoles idpId keycloakUserId => trivial
      | createUserOrgRole userId roleId orgId idpRoleId =>
        intro _ row there
        rw [empty] at there
        cases there
      | deleteOrgRoles userId orgId =>
        intro _ row there
        rw [empty] at there
        cases there
    cases command with
    | one step_ =>
      cases step_ with
      | createUserOrgRole userId roleId orgId idpRoleId =>
        refine ⟨calm _,?_⟩
        rintro (fails | unknown)
        · exact absurd (fails.symm.trans succeeds) (by decide)
        · exact absurd allowed unknown
      | updateOrgInvitation id status => exact calm (.updateOrgInvitation id status)
      | createUserClientRole idpId keycloakUserId payload =>
          exact calm (.createUserClientRole idpId keycloakUserId payload)
      | deleteUserClientRoles idpId keycloakUserId => trivial
      | deleteOrgRoles userId orgId => exact calm (.deleteOrgRoles userId orgId)
    | all works => cases allowed
    | _ => trivial

def accept : Input := .updateOrgInvitation ⟨"acme",.ACCEPTED,"i1",ada⟩
/-- The invitation is pending, and the organisation has the client or none. -/
def pending (idpId : Option String) : World := .initial [] (fun _ => .PENDING) fun _ => idpId
/-- The checks, the update and the insert of the one role. -/
def acceptance (process : Nat) : List (Action Choice Input Env) := .start process accept :: List.replicate 7 (go process)

theorem membership_sound_acceptance :
    ∃ m, run (step (sys acme)) (Machine.initial (pending none)) (acceptance 0) = some m ∧
      m.world.status "i1" = .ACCEPTED ∧ Good acme m := by
  have taken : (run (step (sys acme)) (Machine.initial (pending none)) (acceptance 0)).map
      (fun m => m.world.status "i1") = some .ACCEPTED := by decide +kernel
  obtain ⟨m,reached,accepted⟩ := Option.map_eq_some_iff.mp taken
  have simple : Along (hearing (sys acme) begins hears) (fun s a => easy acme s.1 a = true)
      (Machine.initial (pending none),fun _ => false) (acceptance 0) := by decide +kernel
  refine ⟨m,reached,accepted,membership_sound acme [] ?_ _ _ reached (along_mono (fun _ _ => meets_of_easy) simple)⟩
  exact fun row there => (List.not_mem_nil there).elim

/-- The insert fails after the update: the call fails, and the invitation is accepted. -/
theorem failed_accepted :
    ∃ m, run (step (sys acme)) (Machine.initial (pending none))
        (.start 0 accept :: List.replicate 6 (go 0) ++ [.advance 0 ⟨true,false,none,""⟩]) = some m ∧
      m.world.status "i1" = .ACCEPTED ∧ m.world.rows = [] ∧ ¬Good acme m := by
  have taken : (run (step (sys acme)) (Machine.initial (pending none))
      (.start 0 accept :: List.replicate 6 (go 0) ++ [.advance 0 ⟨true,false,none,""⟩])).map
        (fun m => (m.world.status "i1",m.world.rows,(m.thread 0).ended,m.world.changers)) =
      some (.ACCEPTED,[],some (.error .other),[0]) := by rfl
  obtain ⟨m,reached,facts⟩ := Option.map_eq_some_iff.mp taken
  simp only [Prod.mk.injEq] at facts
  refine ⟨m,reached,facts.1,facts.2.1,fun good => good.unchanged 0 .other facts.2.2.1 ?_⟩
  rw [facts.2.2.2]
  exact List.mem_singleton_self 0

end Ngotag.OrgInvitations
