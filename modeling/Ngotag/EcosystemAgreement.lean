import Ngotag.EcosystemMembers

/-!
Whether the three stores agree. An acceptance changes them one after the other, reports a failure
in between without taking anything back, and looks for an existing membership under the wrong
id; an invitation is created although the organisation is a member; and a deletion leaves the
access on Keycloak. The stores agree after every call when no call does one of these
(`agreement_sound`).
-/
namespace Ngotag.EcosystemMembers
open Runs Await Faults KeyedTable
open OrgRoles (Status)
open JsObject (truthy)

/-- The organisation is a member and not deleted. -/
def Live (w : World) (ecosystemId orgId : String) : Prop :=
  ∃ row ∈ w.orgs.rows, row.ecosystemId = ecosystemId ∧ row.orgId = orgId ∧ row.deleted = false

section
variable (svc : Services)

/-- The stores agree. The user who accepted is the one who created the row. -/
structure Agree (w : World) : Prop where
  accepted : ∀ i ∈ w.invitations.rows, i.type = .MEMBER → (i.status = .ACCEPTED ↔ Live w i.ecosystemId i.invitedOrg)
  invited : ∀ row ∈ w.orgs.rows, isMember svc row = true → row.deleted = false →
    ∃ i ∈ w.invitations.rows, i.type = .MEMBER ∧ i.ecosystemId = row.ecosystemId ∧ i.invitedOrg = row.orgId
  single : ∀ a ∈ w.orgs.rows, ∀ b ∈ w.orgs.rows, a.deleted = false → b.deleted = false →
    a.ecosystemId = b.ecosystemId → a.orgId = b.orgId → a = b
  access : ∀ row ∈ w.orgs.rows, isMember svc row = true → row.deleted = false →
    ∃ user ∈ svc.users.rows, user.id = row.createdBy ∧
      ∃ keycloakUserId, truthy user.keycloakUserId = some keycloakUserId ∧
        row.ecosystemId ∈ w.access keycloakUserId row.orgId .MEMBER
  appears : ∀ keycloakUserId orgId ecosystemId, ecosystemId ∈ w.access keycloakUserId orgId .MEMBER →
      Live w ecosystemId orgId
  /-- `createEcosystem` only fills in the ecosystem of an accepted invitation. -/
  leads : ∀ i ∈ w.invitations.rows, i.type = .ECOSYSTEM → i.status = .ACCEPTED

/-- A failed acceptance left the invitation as it was; it may be part of a failed call that
    invites. -/
def Unharmed (f : Failed) : Prop :=
  match f.call with
  | .updateEcosystemInvitationStatus status _ _ _ => status = .ACCEPTED →
      f.after.invitations.rows = f.before.invitations.rows
  | .inviteMemberToEcosystem _ _ _ =>
    ∀ i ∈ f.after.invitations.rows, i.status = .ACCEPTED → i ∈ f.before.invitations.rows
  | .deleteOrgsFromEcosystem _ _ => True
/-- Members and access agree, and calls that failed did no harm. -/
def Sound (s : State) : Prop := Agree svc s.world ∧ ∀ f ∈ s.failed, Unharmed f

/-- From the update on all steps of the acceptance happen, there is no row yet, under the id of
    the organisation or of the user, and no other invitation of the organisation. -/
structure Completes (w : World) (faults : Nat → Fault) (user : User) (i : EcosystemInvitation) : Prop where
  steps : ∀ n, n < 6 → faults n = .none
  put : faults 6 = .none ∨ faults 6 = .stops true
  named : i.ecosystemId ≠ "" ∧ i.invitedOrg ≠ ""
  known : known svc i.ecosystemId i.invitedOrg = true
  role : (svc.roles.find ECOSYSTEM_MEMBER).isSome = true
  userId : ∃ userId, truthy i.userId = some userId ∧ w.orgs.find (userId,i.ecosystemId) = none
  fresh : w.orgs.find (i.invitedOrg,i.ecosystemId) = none
  keycloak : ∃ keycloakUserId, truthy user.keycloakUserId = some keycloakUserId ∧
      svc.keycloakUsers.contains keycloakUserId = true
  alone : ∀ j ∈ w.invitations.rows, j.type = .MEMBER → j.ecosystemId = i.ecosystemId →
      j.invitedOrg = i.invitedOrg → j = i

/-- An acceptance that comes to its update does not make it or completes. -/
def AnswerFine (w : World) (faults : Nat → Fault) (status : Status) (reqUser ecosystemId orgId : String) : Prop :=
  ∀ user email i, svc.users.find reqUser = some user → truthy user.email = some email →
    w.invitations.find (email,ecosystemId,orgId) = some i → i.status ≠ .ACCEPTED → status = .ACCEPTED →
    faults 0 = .none → faults 1 = .none →
    (faults 2).undone = true ∨ Completes svc w (later (later faults)) user i

/-- An invitation is only created while the organisation is no member, and a direct acceptance
    is fine. -/
def InviteFine (w : World) (faults : Nat → Fault) (orgId reqUser ecosystemId : String) : Prop :=
  ∀ organization user email after, svc.platformConfig = true → svc.organisations.find orgId = some organization →
    svc.users.find organization.createdBy = some user → truthy user.email = some email →
    known svc ecosystemId orgId = true →
    w.invitations.insert ⟨email,ecosystemId,orgId,.PENDING,.MEMBER,some user.id⟩ = some after →
    (∀ n, n < 4 → faults n = .none) → (faults 4).undone = false →
    ¬Live w ecosystemId orgId ∧ (faults 4 = .none → reqUser = user.id →
      AnswerFine svc { w with invitations := after } (fun n => faults (n + 5)) .ACCEPTED reqUser ecosystemId orgId)

/-- Where the first call may have failed after its effect, those to delete are deleted already. -/
def DeleteFine (w : World) (faults : Nat → Fault) (ecosystemId : String) (orgIds : List String) : Prop :=
  (faults 0).undone = false → ∀ row ∈ w.orgs.rows, row.ecosystemId = ecosystemId → isMember svc row = true →
    orgIds.contains row.orgId = true → row.deleted = true
/-- The condition on a call, by its kind. -/
def Fine (s : State) (a : Call × (Nat → Fault)) : Prop :=
  match a.1 with
  | .inviteMemberToEcosystem orgId reqUser ecosystemId => InviteFine svc s.world a.2 orgId reqUser ecosystemId
  | .updateEcosystemInvitationStatus status reqUser ecosystemId orgId =>
    AnswerFine svc s.world a.2 status reqUser ecosystemId orgId
  | .deleteOrgsFromEcosystem ecosystemId orgIds => DeleteFine svc s.world a.2 ecosystemId orgIds

variable {svc} {w v after : World} {faults : Nat → Fault} {user : User} {i j : EcosystemInvitation} {status : Status}
  {key : String × String × String} {ecosystemId orgId keycloakUserId : String} {β : Type}
theorem live_congr (same : v.orgs = w.orgs) : Live v ecosystemId orgId ↔ Live w ecosystemId orgId := by
  rw [Live,Live,same]
theorem member_of_open (agree : Agree svc w) (there : i ∈ w.invitations.rows) (open_ : i.status ≠ .ACCEPTED) :
    i.type = .MEMBER := by
  cases type : i.type with
  | MEMBER => rfl
  | ECOSYSTEM => exact absurd (agree.leads i there type) open_
theorem not_live (agree : Agree svc w) (there : i ∈ w.invitations.rows) (open_ : i.status ≠ .ACCEPTED) :
    ¬Live w i.ecosystemId i.invitedOrg :=
  fun live => open_ ((agree.accepted i there (member_of_open agree there open_)).mpr live)

theorem mem_answered (found_ : w.invitations.find key = some i) :
    j ∈ (w.answered key status).invitations.rows ↔ j ∈ w.invitations.rows ∧ j ≠ i ∨ j = i.withStatus status := by
  obtain ⟨there,same⟩ := Keyed.find_some.mp found_
  rw [World.answered,Keyed.mem_change]
  constructor
  · rintro (⟨listed,apart⟩ | ⟨old,listed,own,rfl⟩)
    · exact .inl ⟨listed,fun equal => apart (equal ▸ same)⟩
    · obtain rfl := w.invitations.eq_of_key listed there (own.trans same.symm)
      exact .inr rfl
  · rintro (⟨listed,apart⟩ | rfl)
    · exact .inl ⟨listed,fun own => apart (w.invitations.eq_of_key listed there (own.trans same.symm))⟩
    · exact .inr ⟨i,there,same,rfl⟩

theorem answered_of_mem (status : Status) (found_ : w.invitations.find key = some i) (there : j ∈ w.invitations.rows) :
    ∃ k ∈ (w.answered key status).invitations.rows, k.type = j.type ∧ k.ecosystemId = j.ecosystemId ∧
    k.invitedOrg = j.invitedOrg := by
  by_cases same : j = i
  · exact ⟨_,(mem_answered found_).mpr (.inr rfl),by rw [same]; exact ⟨rfl,rfl,rfl⟩⟩
  · exact ⟨j,(mem_answered found_).mpr (.inl ⟨there,same⟩),rfl,rfl,rfl⟩

theorem agree_answered (agree : Agree svc w) (found_ : w.invitations.find key = some i) (open_ : i.status ≠ .ACCEPTED)
    (other : status ≠ .ACCEPTED) : Agree svc (w.answered key status) where
  accepted j there type := by
    have none_ := not_live agree (Keyed.find_some.mp found_).1 open_
    rcases (mem_answered found_).mp there with ⟨old,-⟩ | rfl
    · exact agree.accepted j old type
    · exact ⟨fun now => absurd now other,fun live => absurd ((live_congr rfl).mp live) none_⟩
  invited row there member live := by
    obtain ⟨j,listed,type,ecosystem,org⟩ := agree.invited row there member live
    obtain ⟨k,now,type',ecosystem',org'⟩ := answered_of_mem status found_ listed
    exact ⟨k,now,type'.trans type,ecosystem'.trans ecosystem,org'.trans org⟩
  single := agree.single
  access := agree.access
  appears := agree.appears
  leads j there type := by
    rcases (mem_answered found_).mp there with ⟨old,-⟩ | rfl
    · exact agree.leads j old type
    · have member := member_of_open agree (Keyed.find_some.mp found_).1 open_
      exact absurd (member.symm.trans type) (by decide)

theorem not_agree_accepted (agree : Agree svc w) (found_ : w.invitations.find key = some i)
    (open_ : i.status ≠ .ACCEPTED)
    (invitations : v.invitations = (w.answered key .ACCEPTED).invitations) (orgs : v.orgs = w.orgs) : ¬Agree svc v := by
  intro now
  have there := (Keyed.find_some.mp found_).1
  have member := member_of_open agree there open_
  have listed : i.withStatus .ACCEPTED ∈ v.invitations.rows := by
    rw [invitations]
    exact (mem_answered found_).mpr (.inr rfl)
  have live := (now.accepted _ listed member).mp rfl
  exact not_live agree there open_ ((live_congr orgs).mp live)

theorem agree_invited (agree : Agree svc w) {userId : Option String} {email : String}
    {rows : Keyed EcosystemInvitation.key}
    (inserted : w.invitations.insert ⟨email,ecosystemId,orgId,.PENDING,.MEMBER,userId⟩ = some rows) :
    Agree svc { w with invitations := rows } ↔ ¬Live w ecosystemId orgId := by
  obtain ⟨-,same⟩ := Keyed.insert_some.mp inserted
  constructor
  · intro now live
    have listed : (⟨email,ecosystemId,orgId,.PENDING,.MEMBER,userId⟩ : EcosystemInvitation) ∈ rows.rows := by
      rw [same]
      exact List.mem_cons_self
    cases (now.accepted _ listed rfl).mpr live
  · intro none_
    have cases_ : ∀ j ∈ rows.rows, j = ⟨email,ecosystemId,orgId,.PENDING,.MEMBER,userId⟩ ∨ j ∈ w.invitations.rows := by
      intro j there
      rw [same] at there
      exact List.mem_cons.mp there
    refine ⟨fun j there type => ?_,fun row there member live => ?_,agree.single,agree.access,agree.appears,
        fun j there type => ?_⟩
    · rcases cases_ j there with rfl | old
      · exact ⟨fun now => (by cases now),fun live => absurd live none_⟩
      · exact agree.accepted j old type
    · obtain ⟨j,listed,facts⟩ := agree.invited row there member live
      refine ⟨j,?_,facts⟩
      rw [same]
      exact List.mem_cons_of_mem _ listed
    · rcases cases_ j there with rfl | old
      · cases type
      · exact agree.leads j old type

def World.grant (w : World) (keycloakUserId orgId ecosystemId : String) : World :=
  { w with
    access := Function.update w.access keycloakUserId (granted (w.access keycloakUserId) orgId .MEMBER ecosystemId) }

theorem mem_granted {access : Access} {role : EcosystemServiceRole} {org other : String} {r : EcosystemServiceRole} :
    other ∈ granted access orgId role ecosystemId org r ↔
      other ∈ access org r ∨ org = orgId ∧ r = role ∧ other = ecosystemId := by
  unfold granted
  split
  · rename_i new
    rw [List.mem_append,List.mem_singleton]
    exact ⟨fun there => there.imp_right fun same => ⟨new.1,new.2.1,same⟩,fun there =>
        there.imp_right fun same => same.2.2⟩
  · rename_i old
    refine ⟨.inl,?_⟩
    rintro (there | ⟨rfl,rfl,rfl⟩)
    · exact there
    · by_contra out
      exact old ⟨rfl,rfl,by simpa using out⟩

theorem mem_grant {other org ecosystem : String} :
    ecosystem ∈ (w.grant keycloakUserId orgId ecosystemId).access other org .MEMBER ↔
      ecosystem ∈ w.access other org .MEMBER ∨ other = keycloakUserId ∧ org = orgId ∧ ecosystem = ecosystemId := by
  simp only [World.grant]
  by_cases same : other = keycloakUserId
  · subst same
    rw [Function.update_self,mem_granted]
    simp
  · rw [Function.update_of_ne same]
    exact ⟨.inl,fun there => there.resolve_right fun new => same new.1⟩

theorem agree_grant (agree : Agree svc w) (live : Live w ecosystemId orgId) :
    Agree svc (w.grant keycloakUserId orgId ecosystemId) where
  accepted := agree.accepted
  invited := agree.invited
  single := agree.single
  access row there member alive := by
    obtain ⟨user,listed,created,k,given_,access⟩ := agree.access row there member alive
    exact ⟨user,listed,created,k,given_,mem_grant.mpr (.inl access)⟩
  appears k org ecosystem there := by
    rcases mem_grant.mp there with old | ⟨-,rfl,rfl⟩
    · exact agree.appears k org ecosystem old
    · exact live
  leads := agree.leads

theorem access_cases :
    (run_ svc faults (updateUserEcosystemAccess keycloakUserId orgId ecosystemId .MEMBER) w).1 = w ∨
      (run_ svc faults (updateUserEcosystemAccess keycloakUserId orgId ecosystemId .MEMBER) w).1 =
        w.grant keycloakUserId orgId ecosystemId := by
  unfold run_ updateUserEcosystemAccess
  by_cases has : svc.keycloakUsers.contains keycloakUserId = true
  · have carried : carry svc (.getUser keycloakUserId) w = (w,.ok (w.access keycloakUserId)) := if_pos has
    rcases execute_read carried with ⟨-,same⟩ | ⟨-,same⟩
    · rw [perform,same,perform,execute_last]
      have put :
          (carry svc (.putUser keycloakUserId (granted (w.access keycloakUserId) orgId .MEMBER ecosystemId)) w).1 =
          w.grant keycloakUserId orgId ecosystemId := by
        simp only [carry,if_pos has]
        rfl
      split
      · exact .inr put
      · simp only [put]
        split
        · exact .inl rfl
        · exact .inr rfl
    · rw [perform,same]
      exact .inl rfl
  · have carried : carry svc (.getUser keycloakUserId) w = (w,.error .other) := if_neg has
    by_cases well : faults 0 = .none
    · rw [perform,execute_error well carried]
      exact .inl rfl
    · rw [perform,execute_fault well,carried,ite_self]
      exact .inl rfl

variable (svc w faults ecosystemId orgId) in
theorem service_cases :
    ((run_ svc faults (updateOrgServiceAccountEcosystem orgId ecosystemId .MEMBER) w).1 = w ∨
      ∃ account, (run_ svc faults (updateOrgServiceAccountEcosystem orgId ecosystemId .MEMBER) w).1 =
        w.grant account orgId ecosystemId) ∧
    failure (run_ svc faults (updateOrgServiceAccountEcosystem orgId ecosystemId .MEMBER) w).2 = false := by
  unfold run_ updateOrgServiceAccountEcosystem
  rw [execute_swallow]
  constructor
  · have profile : carry svc (.getOrgProfile orgId) w = (w,.ok (svc.organisations.find orgId)) := rfl
    rcases execute_read profile with ⟨-,same⟩ | ⟨-,same⟩
    · rw [perform,same]
      split
      · exact .inl rfl
      · rename_i idpId _
        unfold updateClientServiceAccountEcosystemAccess
        have account : carry svc (.getServiceAccountUser idpId) w = (w,.ok (svc.serviceAccount idpId)) := rfl
        rcases execute_read account with ⟨-,same⟩ | ⟨-,same⟩
        · rw [perform,same]
          split
          · exact .inl rfl
          · rename_i id _
            exact access_cases.imp_right fun put => ⟨id,put⟩
        · rw [perform,same]
          exact .inl rfl
    · rw [perform,same]
      exact .inl rfl
  · generalize (execute _ _ _ _ _).2 = result
    rcases result with _ | _ | _ <;> rfl

/-- The call returns, and members and access agree after it. -/
def Kept (out : World × Option (Except Failure β)) (svc : Services) : Prop := Agree svc out.1 ∧ failure out.2 = false
def keycloakOnly : Cmd → Prop
  | .getOrgProfile _ => True
  | .getPlatformManagementToken => True
  | .getUser _ => True
  | .putUser _ _ => True
  | .getServiceAccountUser _ => True
  | _ => False
theorem only_access : Only keycloakOnly (updateUserEcosystemAccess keycloakUserId orgId ecosystemId .MEMBER) :=
  only_bind ((only_call _).mpr trivial) fun _ => (only_call _).mpr trivial

theorem only_keycloak : Only keycloakOnly (updateKeycloakEcosystemMember user orgId ecosystemId) := by
  have service : Only keycloakOnly (updateOrgServiceAccountEcosystem orgId ecosystemId .MEMBER) := by
    refine only_tryCatch (only_bind ((only_call _).mpr trivial) fun organization => ?_) fun _ => trivial
    split
    · trivial
    · refine only_bind ((only_call _).mpr trivial) fun account => ?_
      split
      · trivial
      · exact only_access
  refine only_bind ((only_call _).mpr trivial) fun _ => ?_
  split
  · exact service
  · exact only_bind only_access fun _ => service

variable (svc faults user orgId ecosystemId w) in
theorem keycloak_frame :
    (run_ svc faults (updateKeycloakEcosystemMember user orgId ecosystemId) w).1.orgs = w.orgs ∧
      (run_ svc faults (updateKeycloakEcosystemMember user orgId ecosystemId) w).1.invitations = w.invitations := by
  refine execute_keeps (P := fun v : World => v.orgs = w.orgs ∧ v.invitations = w.invitations)
      (fun c allowed v same => ?_)
    only_keycloak ⟨rfl,rfl⟩
  cases c with
  | getOrgProfile id => exact same
  | getPlatformManagementToken => exact same
  | getServiceAccountUser idpId => exact same
  | getUser k =>
    simp only [carry]
    split <;> exact same
  | putUser k attributes =>
    simp only [carry]
    split <;> exact same
  | _ => exact allowed.elim

theorem keycloak_iff (live : Live w ecosystemId orgId)
    (full : ∀ k, truthy user.keycloakUserId = some k → Agree svc (w.grant k orgId ecosystemId))
    (lacks : ∀ v : World, v.orgs = w.orgs →
      (∀ k, truthy user.keycloakUserId = some k → v.access k = w.access k) → ¬Agree svc v) :
    Kept (run_ svc faults (updateKeycloakEcosystemMember user orgId ecosystemId) w) svc ↔
      faults 0 = .none ∧ faults 1 = .none ∧ (faults 2 = .none ∨ faults 2 = .stops true) ∧
        ∃ k, truthy user.keycloakUserId = some k ∧ svc.keycloakUsers.contains k = true := by
  have frame := (keycloak_frame svc w faults user ecosystemId orgId).1
  unfold run_ updateKeycloakEcosystemMember at frame ⊢
  have token : carry svc .getPlatformManagementToken w = (w,.ok ()) := rfl
  rcases execute_read token with ⟨first,same⟩ | ⟨first,same⟩
  · rw [perform,same] at frame ⊢
    cases given_ : truthy user.keycloakUserId with
    | none =>
      simp only [given_] at frame ⊢
      constructor
      · intro kept
        refine absurd kept.1 (lacks _ frame fun k some_ => ?_)
        rw [given_] at some_
        cases some_
      · rintro ⟨-,-,-,k,⟨⟩,-⟩
    | some k =>
      have put : svc.keycloakUsers.contains k = true →
          carry svc (.putUser k (granted (w.access k) orgId .MEMBER ecosystemId)) w =
          (w.grant k orgId ecosystemId,.ok ()) :=
        fun has => if_pos has
      unfold updateUserEcosystemAccess
      dsimp only
      rw [seq_assoc]
      by_cases has : svc.keycloakUsers.contains k = true
      · have get : carry svc (.getUser k) w = (w,.ok (w.access k)) := if_pos has
        rcases execute_read get with ⟨second,same⟩ | ⟨second,same⟩
        · rw [perform,same]
          by_cases third : faults 2 = .none
          · rw [perform,execute_ok third (put has)]
            have service :=
                service_cases svc (w.grant k orgId ecosystemId) (later (later (later faults))) ecosystemId orgId
            unfold run_ at service
            refine ⟨fun _ => ⟨first,second,.inl third,k,rfl,has⟩,fun _ => ⟨?_,service.2⟩⟩
            rcases service.1 with same | ⟨account,same⟩
            · rw [same]
              exact full k given_
            · rw [same]
              exact agree_grant (full k given_) live
          · have bad : later (later faults) 0 ≠ .none := third
            rw [perform,execute_fault bad,put has]
            change Kept
                (if (faults 2).undone = true then w else w.grant k orgId ecosystemId,(faults 2).ends .other) svc ↔ _
            cases fault : faults 2 with
            | none => exact absurd fault third
            | rejects done =>
              constructor
              · rintro ⟨-,⟨⟩⟩
              · rintro ⟨-,-,third | third,-⟩
                · cases third
                · cases third
            | stops done =>
              cases done with
              | true => exact ⟨fun _ => ⟨first,second,.inr rfl,k,rfl,has⟩,fun _ => ⟨full k given_,rfl⟩⟩
              | false =>
                constructor
                · exact fun kept => absurd kept.1 (lacks w rfl fun _ _ => rfl)
                · rintro ⟨-,-,third | third,-⟩
                  · cases third
                  · cases third
        · rw [perform,same]
          constructor
          · exact fun kept => absurd kept.1 (lacks w rfl fun _ _ => rfl)
          · exact fun steps => absurd steps.2.1 second
      · have get : carry svc (.getUser k) w = (w,.error .other) := if_neg has
        have left : (execute (carry svc) .other (perform (.getUser k) >>= fun attributes => perform
            (.putUser k (granted attributes orgId .MEMBER ecosystemId)) >>= fun _ =>
              updateOrgServiceAccountEcosystem orgId ecosystemId .MEMBER) (later faults) w).1 = w := by
          by_cases second : later faults 0 = .none
          · rw [perform,execute_error second get]
          · rw [perform,execute_fault second,get,ite_self]
        constructor
        · intro kept
          have agree := kept.1
          rw [left] at agree
          exact absurd agree (lacks w rfl fun _ _ => rfl)
        · rintro ⟨-,-,-,other,given',has'⟩
          cases given'
          exact absurd has' has
  · rw [perform,same]
    constructor
    · exact fun kept => absurd kept.1 (lacks w rfl fun _ _ => rfl)
    · exact fun steps => absurd steps.1 first

def newOrg (user : User) (i : EcosystemInvitation) (role : Role) : EcosystemOrg :=
  ⟨i.invitedOrg,i.ecosystemId,role.id,user.id,false⟩

variable {role : Role} {orgs : Keyed EcosystemOrg.key}

section

variable (agree : Agree svc w)
include agree
theorem agree_joined (found_ : w.invitations.find key = some i) (open_ : i.status ≠ .ACCEPTED)
    (user_ : user ∈ svc.users.rows) (inserted : w.orgs.insert (newOrg user i role) = some orgs)
    (given_ : truthy user.keycloakUserId = some keycloakUserId)
    (alone : ∀ j ∈ w.invitations.rows, j.type = .MEMBER → j.ecosystemId = i.ecosystemId → j.invitedOrg = i.invitedOrg → j = i) :
    Agree svc
        (({ w.answered key .ACCEPTED with orgs := orgs } : World).grant keycloakUserId i.invitedOrg i.ecosystemId) := by
  obtain ⟨fresh,rows⟩ := Keyed.insert_some.mp inserted
  have there := (Keyed.find_some.mp found_).1
  have member := member_of_open agree there open_
  have old : ∀ {e o}, Live w e o → Live ({ w.answered key .ACCEPTED with orgs := orgs } : World) e o := by
    rintro e o ⟨row,listed,facts⟩
    exact ⟨row,by rw [rows]; exact List.mem_cons_of_mem _ listed,facts⟩
  have new : ∀ {e o}, Live ({ w.answered key .ACCEPTED with orgs := orgs } : World) e o →
      Live w e o ∨ e = i.ecosystemId ∧ o = i.invitedOrg := by
    rintro e o ⟨row,listed,rfl,rfl,facts⟩
    rw [rows] at listed
    rcases List.mem_cons.mp listed with rfl | before
    · exact .inr ⟨rfl,rfl⟩
    · exact .inl ⟨row,before,rfl,rfl,facts⟩
  have now : Live ({ w.answered key .ACCEPTED with orgs := orgs } : World) i.ecosystemId i.invitedOrg :=
    ⟨newOrg user i role,by rw [rows]; exact List.mem_cons_self,rfl,rfl,rfl⟩
  have cases_ : ∀ row ∈ orgs.rows, row = newOrg user i role ∨ row ∈ w.orgs.rows := by
    intro row listed
    rw [rows] at listed
    exact List.mem_cons.mp listed
  refine ⟨fun j listed type => ?_,fun row listed isMember alive => ?_,fun a first b second _ _ ecosystem org => ?_,
    fun row listed isMember alive => ?_,fun k o e access => ?_,fun j listed type => ?_⟩
  · rcases (mem_answered found_).mp listed with ⟨before,apart⟩ | rfl
    · have same := agree.accepted j before type
      constructor
      · exact fun accepted => old (same.mp accepted)
      · intro live
        rcases new live with live | ⟨ecosystem,org⟩
        · exact same.mpr live
        · exact absurd (alone j before type ecosystem org) apart
    · exact ⟨fun _ => now,fun _ => rfl⟩
  · rcases cases_ row listed with rfl | before
    · exact ⟨i.withStatus .ACCEPTED,(mem_answered found_).mpr (.inr rfl),member,rfl,rfl⟩
    · obtain ⟨j,listed,type,ecosystem,org⟩ := agree.invited row before isMember alive
      obtain ⟨k,listed',type',ecosystem',org'⟩ := answered_of_mem .ACCEPTED found_ listed
      exact ⟨k,listed',type'.trans type,ecosystem'.trans ecosystem,org'.trans org⟩
  · exact orgs.eq_of_key first second (Prod.ext org ecosystem)
  · rcases cases_ row listed with rfl | before
    · exact ⟨user,user_,rfl,keycloakUserId,given_,mem_grant.mpr (.inr ⟨rfl,rfl,rfl⟩)⟩
    · obtain ⟨other,listed,created,k,given',access⟩ := agree.access row before isMember alive
      exact ⟨other,listed,created,k,given',mem_grant.mpr (.inl access)⟩
  · rcases mem_grant.mp access with before | ⟨-,rfl,rfl⟩
    · exact old (agree.appears k o e before)
    · exact now
  · rcases (mem_answered found_).mp listed with ⟨before,-⟩ | rfl
    · exact agree.leads j before type
    · rfl

theorem not_agree_other (open_ : i.status ≠ .ACCEPTED)
    (found_ : w.invitations.find key = some i) (inserted : w.orgs.insert (newOrg user i role) = some orgs)
    (there : j ∈ w.invitations.rows) (type : j.type = .MEMBER) (ecosystem : j.ecosystemId = i.ecosystemId)
    (org : j.invitedOrg = i.invitedOrg) (apart : j ≠ i) (sameOrgs : v.orgs = orgs)
    (sameInvitations : v.invitations = (w.answered key .ACCEPTED).invitations) : ¬Agree svc v := by
  intro now
  have listed : j ∈ v.invitations.rows := by
    rw [sameInvitations]
    exact (mem_answered found_).mpr (.inl ⟨there,apart⟩)
  have live : Live v j.ecosystemId j.invitedOrg := by
    refine ⟨newOrg user i role,?_,ecosystem.symm,org.symm,rfl⟩
    rw [sameOrgs,(Keyed.insert_some.mp inserted).2]
    exact List.mem_cons_self
  have before := (agree.accepted j there type).mp ((now.accepted j listed type).mpr live)
  rw [ecosystem,org] at before
  exact not_live agree (Keyed.find_some.mp found_).1 open_ before

theorem not_agree_access (found_ : w.invitations.find key = some i) (open_ : i.status ≠ .ACCEPTED)
    (user_ : user ∈ svc.users.rows) (role_ : svc.roles.find ECOSYSTEM_MEMBER = some role)
    (inserted : w.orgs.insert (newOrg user i role) = some orgs) (sameOrgs : v.orgs = orgs)
    (access : ∀ k, truthy user.keycloakUserId = some k → v.access k = w.access k) : ¬Agree svc v := by
  intro now
  have listed : newOrg user i role ∈ v.orgs.rows := by
    rw [sameOrgs,(Keyed.insert_some.mp inserted).2]
    exact List.mem_cons_self
  have member : isMember svc (newOrg user i role) = true := by
    simp [isMember,role_,newOrg]
  obtain ⟨other,there,created,k,given_,appears⟩ := now.access _ listed member rfl
  obtain rfl := svc.users.eq_of_key there user_ created
  rw [access k given_] at appears
  exact not_live agree (Keyed.find_some.mp found_).1 open_ (agree.appears k _ _ appears)

/-- With the row the agreement is reached where the access is given, unless another invitation
    of the organisation is there. -/
theorem joined_iff (found_ : w.invitations.find key = some i) (open_ : i.status ≠ .ACCEPTED)
    (user_ : user ∈ svc.users.rows) (role_ : svc.roles.find ECOSYSTEM_MEMBER = some role)
    (inserted : w.orgs.insert (newOrg user i role) = some orgs) :
    Kept (run_ svc faults (updateKeycloakEcosystemMember user i.invitedOrg i.ecosystemId)
        { w.answered key .ACCEPTED with orgs := orgs }) svc ↔
      (faults 0 = .none ∧ faults 1 = .none ∧ (faults 2 = .none ∨ faults 2 = .stops true) ∧
        ∃ k, truthy user.keycloakUserId = some k ∧ svc.keycloakUsers.contains k = true) ∧
      ∀ j ∈ w.invitations.rows, j.type = .MEMBER → j.ecosystemId = i.ecosystemId →
          j.invitedOrg = i.invitedOrg → j = i := by
  by_cases alone : ∀ j ∈ w.invitations.rows, j.type = .MEMBER → j.ecosystemId = i.ecosystemId →
      j.invitedOrg = i.invitedOrg → j = i
  · rw [keycloak_iff ?live ?full ?lacks]
    · exact ⟨fun steps => ⟨steps,alone⟩,fun both => both.1⟩
    case live =>
      refine ⟨newOrg user i role,?_,rfl,rfl,rfl⟩
      rw [(Keyed.insert_some.mp inserted).2]
      exact List.mem_cons_self
    case full => exact fun k given_ => agree_joined agree found_ open_ user_ inserted given_ alone
    case lacks => exact fun v same access => not_agree_access agree found_ open_ user_ role_ inserted same access
  · constructor
    · intro kept
      obtain ⟨orgs',invitations⟩ := keycloak_frame svc { w.answered key .ACCEPTED with orgs := orgs } faults user
        i.ecosystemId i.invitedOrg
      push Not at alone
      obtain ⟨j,there,type,ecosystem,org,apart⟩ := alone
      exact absurd kept.1 (not_agree_other agree open_ found_ inserted there type ecosystem org apart orgs' invitations)
    · exact fun both => absurd both.2 alone

theorem inserted_iff (found_ : w.invitations.find key = some i) (open_ : i.status ≠ .ACCEPTED)
    (user_ : user ∈ svc.users.rows) (well : faults 0 = .none) (filled : i.ecosystemId ≠ "") (named : i.invitedOrg ≠ "")
    (first : faults 1 = .none) (second : faults 2 = .none) (hasRole : svc.roles.find ECOSYSTEM_MEMBER = some role)
    {userId : String} (given_ : truthy i.userId = some userId) (none_ : w.orgs.find (userId,i.ecosystemId) = none) :
    Kept (run_ svc (later (later (later faults))) (do
        let _ : Unit ← perform (.createEcosystemOrg (newOrg user i role))
        updateKeycloakEcosystemMember user i.invitedOrg i.ecosystemId) (w.answered key .ACCEPTED)) svc ↔
      Completes svc w faults user i := by
  have spoilt : ∀ {v : World} {r : Option (Except Failure Unit)}, (v = w.answered key .ACCEPTED ∨
      ∃ orgs, w.orgs.insert (newOrg user i role) = some orgs ∧ v = { w.answered key .ACCEPTED with orgs := orgs }) →
      ¬Completes svc w faults user i → (Kept (v,r) svc ↔ Completes svc w faults user i) := by
    intro v r cases_ out
    refine ⟨fun kept => absurd kept.1 ?_,fun completes => absurd completes out⟩
    rcases cases_ with rfl | ⟨orgs,inserted,rfl⟩
    · exact not_agree_accepted agree found_ open_ rfl rfl
    · exact not_agree_access agree found_ open_ user_ hasRole inserted rfl fun _ _ => rfl
  unfold run_
  by_cases fk : known svc i.ecosystemId i.invitedOrg = true
  · have has : known svc (newOrg user i role).ecosystemId (newOrg user i role).orgId = true := fk
    have taken : ∀ {result}, w.orgs.insert (newOrg user i role) = result →
        (w.answered key .ACCEPTED).orgs.insert (newOrg user i role) = result := fun same => same
    cases inserted : w.orgs.insert (newOrg user i role) with
    | none =>
      have carried : carry svc (.createEcosystemOrg (newOrg user i role)) (w.answered key .ACCEPTED) =
          (w.answered key .ACCEPTED,.error .other) := by
        simp only [carry,if_pos has,taken inserted]
      have out : ¬Completes svc w faults user i := fun completes => Keyed.insert_none.mp inserted completes.fresh
      by_cases third : later (later (later faults)) 0 = .none
      · rw [perform,execute_error third carried]
        exact spoilt (.inl rfl) out
      · rw [perform,execute_fault third,carried,ite_self]
        exact spoilt (.inl rfl) out
    | some orgs =>
      have carried : carry svc (.createEcosystemOrg (newOrg user i role)) (w.answered key .ACCEPTED) =
          ({ w.answered key .ACCEPTED with orgs := orgs },.ok ()) := by
        simp only [carry,if_pos has,taken inserted]
        rfl
      by_cases third : later (later (later faults)) 0 = .none
      · rw [perform,execute_ok third carried]
        refine (joined_iff agree found_ open_ user_ hasRole inserted).trans ⟨?_,fun completes => ?_⟩
        · rintro ⟨⟨token,get,put,keycloak⟩,alone⟩
          refine ⟨fun n small => ?_,put,⟨filled,named⟩,fk,by rw [hasRole]; rfl,⟨userId,given_,none_⟩,
            (Keyed.insert_some.mp inserted).1,keycloak,alone⟩
          interval_cases n
          · exact well
          · exact first
          · exact second
          · exact third
          · exact token
          · exact get
        · exact ⟨⟨completes.steps 4 (by decide),completes.steps 5 (by decide),completes.put,completes.keycloak⟩,
            completes.alone⟩
      · rw [perform,execute_fault third,carried]
        refine spoilt ?_ fun completes => third (completes.steps 3 (by decide))
        split
        · exact .inl rfl
        · exact .inr ⟨orgs,inserted,rfl⟩
  · have carried : carry svc (.createEcosystemOrg (newOrg user i role)) (w.answered key .ACCEPTED) =
        (w.answered key .ACCEPTED,.error .other) := if_neg fk
    have out : ¬Completes svc w faults user i := fun completes => fk completes.known
    by_cases third : later (later (later faults)) 0 = .none
    · rw [perform,execute_error third carried]
      exact spoilt (.inl rfl) out
    · rw [perform,execute_fault third,carried,ite_self]
      exact spoilt (.inl rfl) out

theorem membership_iff (found_ : w.invitations.find key = some i) (open_ : i.status ≠ .ACCEPTED)
    (user_ : user ∈ svc.users.rows) (well : faults 0 = .none) (filled : i.ecosystemId ≠ "") :
    Kept (run_ svc (later faults) (createMembership user (i.withStatus .ACCEPTED)) (w.answered key .ACCEPTED)) svc ↔
      Completes svc w faults user i := by
  have unfinished : ∀ {v : World} {r : Option (Except Failure Unit)},
      v.invitations = (w.answered key .ACCEPTED).invitations →
      v.orgs = w.orgs → ¬Completes svc w faults user i → (Kept (v,r) svc ↔ Completes svc w faults user i) := by
    intro v r invitations orgs out
    exact ⟨fun kept => absurd kept.1 (not_agree_accepted agree found_ open_ invitations orgs),fun completes =>
        absurd completes out⟩
  unfold run_ createMembership
  have role_ : carry svc (.getEcosystemRoleByName ECOSYSTEM_MEMBER) (w.answered key .ACCEPTED) =
      (w.answered key .ACCEPTED,.ok (svc.roles.find ECOSYSTEM_MEMBER)) := rfl
  rcases execute_read role_ with ⟨first,same⟩ | ⟨first,same⟩
  · rw [perform,same]
    cases hasRole : svc.roles.find ECOSYSTEM_MEMBER with
    | none =>
      refine unfinished rfl rfl fun completes => ?_
      have some_ := completes.role
      rw [hasRole] at some_
      cases some_
    | some role =>
      dsimp only
      by_cases blank : (i.withStatus .ACCEPTED).invitedOrg = ""
      · rw [if_pos blank]
        exact unfinished rfl rfl fun completes => completes.named.2 blank
      · rw [if_neg blank]
        have userIds : (i.withStatus .ACCEPTED).userId = i.userId := rfl
        rw [userIds]
        cases given_ : truthy i.userId with
        | none =>
          refine unfinished rfl rfl fun completes => ?_
          obtain ⟨userId,some_,-⟩ := completes.userId
          rw [given_] at some_
          cases some_
        | some userId =>
          dsimp only
          have looked : carry svc (.getEcosystemOrg (i.withStatus .ACCEPTED).ecosystemId userId)
              (w.answered key .ACCEPTED) =
              (w.answered key .ACCEPTED,.ok (w.orgs.find (userId,i.ecosystemId))) := rfl
          rcases execute_read looked with ⟨second,same⟩ | ⟨second,same⟩
          · rw [perform,same]
            cases existing : w.orgs.find (userId,i.ecosystemId) with
            | some row =>
              refine unfinished rfl rfl fun completes => ?_
              obtain ⟨other,given',none_⟩ := completes.userId
              rw [given_] at given'
              cases given'
              rw [existing] at none_
              cases none_
            | none => exact inserted_iff agree found_ open_ user_ well filled blank first second hasRole given_ existing
          · rw [perform,same]
            exact unfinished rfl rfl fun completes => second (completes.steps 2 (by decide))
  · rw [perform,same]
    exact unfinished rfl rfl fun completes => first (completes.steps 1 (by decide))

end

def keepsInvitations : Cmd → Prop
  | .updateEcosystemInvitationStatusByEmail _ _ _ _ => False
  | .createEcosystemInvitation _ => False
  | .deleteOrgs _ _ => False
  | _ => True

theorem only_membership : Only keepsInvitations (createMembership user i) := by
  have keycloak : ∀ c, keycloakOnly c → keepsInvitations c := by
    intro c only
    cases c <;> trivial
  refine only_bind ((only_call _).mpr trivial) fun role => ?_
  split
  · trivial
  · refine only_ite _ trivial ?_
    split
    · trivial
    · refine only_bind ((only_call _).mpr trivial) fun existingOrg => ?_
      split
      · trivial
      · exact only_bind ((only_call _).mpr trivial) fun _ => only_mono keycloak only_keycloak

theorem carry_invitations {c : Cmd} (keeps : keepsInvitations c) : (carry svc c w).1.invitations = w.invitations := by
  cases c with
  | updateEcosystemInvitationStatusByEmail _ _ _ _ => exact keeps.elim
  | createEcosystemInvitation _ => exact keeps.elim
  | deleteOrgs _ _ => exact keeps.elim
  | createEcosystemOrg row =>
    simp only [carry]
    split
    · split <;> rfl
    · rfl
  | getEcosystemById id =>
    simp only [carry]
    split <;> rfl
  | getUser k =>
    simp only [carry]
    split <;> rfl
  | putUser k attributes =>
    simp only [carry]
    split <;> rfl
  | _ => rfl

variable (svc w faults user i) in
theorem membership_frame : (run_ svc faults (createMembership user i) w).1.invitations = w.invitations :=
  execute_keeps (P := fun v : World => v.invitations = w.invitations)
    (fun _ keeps _ same => (carry_invitations keeps).trans same) only_membership rfl

/-- The call keeps the agreement, and where it fails what is wanted of a failure. -/
def Keeps (svc : Services) (U : World → Prop) (out : World × Option (Except Failure β)) : Prop :=
  Agree svc out.1 ∧ (failure out.2 = true → U out.1)

variable {U : World → Prop} {email reqUser : String}

section

variable (agree : Agree svc w) (found_ : w.invitations.find (email,ecosystemId,orgId) = some i)
  (open_ : i.status ≠ .ACCEPTED)
include agree found_ open_
theorem answer_iff (user_ : user ∈ svc.users.rows) (before : U w)
    (spoils : ∀ v : World, v.invitations = (w.answered (email,ecosystemId,orgId) .ACCEPTED).invitations → ¬U v) :
    Keeps svc U (run_ svc faults (answerInvitation user email orgId ecosystemId .ACCEPTED) w) ↔
      (faults 0).undone = true ∨ Completes svc w faults user i := by
  have same : i.ecosystemId = ecosystemId := congrArg (fun key => key.2.1) (Keyed.find_some.mp found_).2
  have carried : carry svc (.updateEcosystemInvitationStatusByEmail email orgId ecosystemId .ACCEPTED) w =
      (w.answered (email,ecosystemId,orgId) .ACCEPTED,.ok (i.withStatus .ACCEPTED)) := by
    simp only [carry,found_]
    rfl
  have accepted := fun {v : World} => not_agree_accepted (v := v) agree found_ open_
  unfold run_ answerInvitation
  by_cases well : faults 0 = .none
  · rw [perform,execute_ok well carried,well]
    by_cases blank : i.ecosystemId = ""
    · rw [if_neg fun test => test.2 blank]
      constructor
      · exact fun keeps => absurd keeps.1 (accepted rfl rfl)
      · rintro (⟨⟨⟩⟩ | completes)
        exact absurd blank completes.named.1
    · rw [if_pos ⟨rfl,blank⟩,execute_map]
      have joined := membership_iff agree found_ open_ user_ well blank
      have frame := membership_frame svc (w.answered (email,ecosystemId,orgId) .ACCEPTED) (later faults) user
        (i.withStatus .ACCEPTED)
      unfold run_ at joined frame
      have failed : ∀ {r : Option (Except Failure Unit)},
          failure (r.map fun result => result.map fun _ => true) = failure r := by
        rintro (_ | _ | _) <;> rfl
      constructor
      · intro keeps
        refine .inr (joined.mp ⟨keeps.1,?_⟩)
        by_contra fails
        refine spoils _ frame (keeps.2 ?_)
        rw [failed]
        simpa using fails
      · rintro (⟨⟨⟩⟩ | completes)
        have kept := joined.mpr completes
        refine ⟨kept.1,fun fails => ?_⟩
        rw [failed,kept.2] at fails
        cases fails
  · rw [perform,execute_fault well,carried]
    by_cases undone : (faults 0).undone = true
    · rw [if_pos undone]
      exact ⟨fun _ => .inl undone,fun _ => ⟨agree,fun _ => before⟩⟩
    · rw [if_neg undone]
      constructor
      · exact fun keeps => absurd keeps.1 (accepted rfl rfl)
      · rintro (done | completes)
        · exact absurd done undone
        · exact absurd (completes.steps 0 (by decide)) well

theorem answer_other (other : status ≠ .ACCEPTED) :
    Agree svc (run_ svc faults (answerInvitation user email orgId ecosystemId status) w).1 := by
  have now := agree_answered agree found_ open_ other
  have carried : carry svc (.updateEcosystemInvitationStatusByEmail email orgId ecosystemId status) w =
      (w.answered (email,ecosystemId,orgId) status,.ok (i.withStatus status)) := by
    simp only [carry,found_]
    rfl
  unfold run_ answerInvitation
  by_cases well : faults 0 = .none
  · rw [perform,execute_ok well carried,if_neg fun test => other test.1]
    exact now
  · rw [perform,execute_fault well,carried]
    split
    · exact agree
    · exact now

end

theorem update_iff (agree : Agree svc w) (before : U w)
    (spoils : ∀ key i, w.invitations.find key = some i → i.status ≠ .ACCEPTED →
      ∀ v : World, v.invitations = (w.answered key .ACCEPTED).invitations → ¬U v) :
    Keeps svc U (run_ svc faults (updateEcosystemInvitationStatus .ACCEPTED reqUser ecosystemId orgId) w) ↔
      AnswerFine svc w faults .ACCEPTED reqUser ecosystemId orgId := by
  have stays : ∀ {r : Option (Except Failure Bool)}, AnswerFine svc w faults .ACCEPTED reqUser ecosystemId orgId →
      (Keeps svc U (w,r) ↔ AnswerFine svc w faults .ACCEPTED reqUser ecosystemId orgId) :=
    fun fine => ⟨fun _ => fine,fun _ => ⟨agree,fun _ => before⟩⟩
  unfold run_ updateEcosystemInvitationStatus
  have userCarried : carry svc (.getUserById reqUser) w = (w,.ok (svc.users.find reqUser)) := rfl
  rcases execute_read userCarried with ⟨first,same⟩ | ⟨first,same⟩
  · rw [perform,same]
    cases user_ : svc.users.find reqUser with
    | none =>
      refine stays fun user email i there => ?_
      rw [user_] at there
      cases there
    | some user =>
      dsimp only
      cases given_ : truthy user.email with
      | none =>
        refine stays fun other email i there given' => ?_
        rw [user_] at there
        cases there
        rw [given_] at given'
        cases given'
      | some email =>
        dsimp only
        have carried : carry svc (.getEcosystemInvitationsByEmail email ecosystemId orgId) w =
            (w,.ok (w.invitations.find (email,ecosystemId,orgId))) := rfl
        have only : ∀ {other email' i'}, svc.users.find reqUser = some other → truthy other.email = some email' →
            w.invitations.find (email',ecosystemId,orgId) = some i' → other = user ∧ email' = email ∧
              w.invitations.find (email,ecosystemId,orgId) = some i' := by
          intro other email' i' there given' found'
          rw [user_] at there
          cases there
          rw [given_] at given'
          cases given'
          exact ⟨rfl,rfl,found'⟩
        rcases execute_read carried with ⟨second,same⟩ | ⟨second,same⟩
        · rw [perform,same]
          cases found_ : w.invitations.find (email,ecosystemId,orgId) with
          | none =>
            refine stays fun other email' i there given' found' => ?_
            rw [found_] at only
            cases (only there given' found').2.2
          | some i =>
            dsimp only
            by_cases accepted : i.status = .ACCEPTED
            · rw [if_pos accepted]
              refine stays fun other email' i' there given' found' open_ => ?_
              have same := (only there given' found').2.2
              rw [found_] at same
              cases same
              exact absurd accepted open_
            · rw [if_neg accepted]
              refine (answer_iff agree found_ accepted (Keyed.find_some.mp user_).1 before (spoils _ _ found_ accepted)).trans
                ⟨fun fine other email' i' there given' found' _ _ _ _ => ?_,fun fine => ?_⟩
              · obtain ⟨rfl,rfl,same⟩ := only there given' found'
                rw [found_] at same
                cases same
                exact fine
              · exact fine user email i user_ given_ found_ accepted rfl first second
        · rw [perform,same]
          exact stays fun _ _ _ _ _ _ _ _ _ well => absurd well second
  · rw [perform,same]
    exact stays fun _ _ _ _ _ _ _ _ well => absurd well first

theorem update_other (agree : Agree svc w) (other : status ≠ .ACCEPTED) :
    Agree svc (run_ svc faults (updateEcosystemInvitationStatus status reqUser ecosystemId orgId) w).1 := by
  unfold run_ updateEcosystemInvitationStatus
  have userCarried : carry svc (.getUserById reqUser) w = (w,.ok (svc.users.find reqUser)) := rfl
  rcases execute_read userCarried with ⟨-,same⟩ | ⟨-,same⟩
  · rw [perform,same]
    split
    · exact agree
    · split
      · exact agree
      · rename_i email _
        have carried : carry svc (.getEcosystemInvitationsByEmail email ecosystemId orgId) w =
            (w,.ok (w.invitations.find (email,ecosystemId,orgId))) := rfl
        rcases execute_read carried with ⟨-,same⟩ | ⟨-,same⟩
        · rw [perform,same]
          cases found_ : w.invitations.find (email,ecosystemId,orgId) with
          | none => exact agree
          | some i =>
            dsimp only
            by_cases accepted : i.status = .ACCEPTED
            · rw [if_pos accepted]
              exact agree
            · rw [if_neg accepted]
              exact answer_other agree found_ accepted other
        · rw [perform,same]
          exact agree
  · rw [perform,same]
    exact agree

/-- What a failed call that invites leaves: no invitation is newly accepted. -/
def Unaccepted (w v : World) : Prop := ∀ i ∈ v.invitations.rows, i.status = .ACCEPTED → i ∈ w.invitations.rows

theorem newly_accepted (found_ : w.invitations.find key = some i) (open_ : i.status ≠ .ACCEPTED)
    (same : v.invitations = (w.answered key .ACCEPTED).invitations) :
    i.withStatus .ACCEPTED ∈ v.invitations.rows ∧ i.withStatus .ACCEPTED ∉ w.invitations.rows := by
  obtain ⟨there,own⟩ := Keyed.find_some.mp found_
  constructor
  · rw [same]
    exact (mem_answered found_).mpr (.inr rfl)
  · intro old
    have equal := w.invitations.eq_of_key old there (withStatus_key .ACCEPTED i)
    exact open_ (congrArg EcosystemInvitation.status equal).symm

theorem create_keeps (agree : Agree svc w) (fine : ∀ after, known svc ecosystemId orgId = true →
      w.invitations.insert ⟨email,ecosystemId,orgId,.PENDING,.MEMBER,some user.id⟩ = some after →
      (faults 0).undone = false → ¬Live w ecosystemId orgId ∧ (faults 0 = .none → reqUser = user.id →
        AnswerFine svc { w with invitations := after } (later faults) .ACCEPTED reqUser ecosystemId orgId)) :
    Keeps svc (Unaccepted w) (run_ svc faults (createInvitation user email orgId reqUser ecosystemId) w) := by
  have unchanged : ∀ {r : Option (Except Failure Bool)}, Keeps svc (Unaccepted w) (w,r) :=
    ⟨agree,fun _ _ there _ => there⟩
  have refused : ∀ error,
      carry svc (.createEcosystemInvitation ⟨email,ecosystemId,orgId,.PENDING,.MEMBER,some user.id⟩) w =
      (w,.error error) → Keeps svc (Unaccepted w)
      (run_ svc faults (createInvitation user email orgId reqUser ecosystemId) w) := by
    intro error carried
    unfold run_ createInvitation
    by_cases first : faults 0 = .none
    · rw [perform,execute_error first carried]
      exact unchanged
    · rw [perform,execute_fault first,carried,ite_self]
      exact unchanged
  by_cases fk : known svc ecosystemId orgId = true
  · cases inserted : w.invitations.insert ⟨email,ecosystemId,orgId,.PENDING,.MEMBER,some user.id⟩ with
    | none =>
      refine refused .emailInvited ?_
      simp only [carry,if_pos fk,inserted]
    | some after =>
      have carried : carry svc (.createEcosystemInvitation ⟨email,ecosystemId,orgId,.PENDING,.MEMBER,some user.id⟩) w =
          ({ w with invitations := after },.ok ()) := by
        simp only [carry,if_pos fk,inserted]
        rfl
      have rows := (Keyed.insert_some.mp inserted).2
      have old : ∀ j ∈ after.rows, j.status = .ACCEPTED → j ∈ w.invitations.rows := by
        intro j there accepted
        rw [rows] at there
        rcases List.mem_cons.mp there with rfl | before
        · cases accepted
        · exact before
      unfold run_ createInvitation
      by_cases undone : (faults 0).undone = true
      · have first : faults 0 ≠ .none := fun none_ => by rw [none_] at undone; cases undone
        rw [perform,execute_fault first,if_pos undone]
        exact unchanged
      · obtain ⟨closed,direct⟩ := fine after fk inserted (by simpa using undone)
        have invited := (agree_invited agree inserted).mpr closed
        by_cases first : faults 0 = .none
        · rw [perform,execute_ok first carried]
          by_cases self : reqUser = user.id
          · rw [if_pos self,execute_map]
            have keeps := (update_iff (U := Unaccepted w) invited old ?_).mpr (direct first self)
            · refine ⟨keeps.1,fun fails => keeps.2 ?_⟩
              unfold run_
              revert fails
              generalize (execute _ _ _ _ _).2 = result
              rcases result with _ | _ | _
              · exact id
              · exact id
              · exact id
            · intro key i found_ open_ v same harmless
              obtain ⟨now,fresh⟩ := newly_accepted found_ open_ same
              refine fresh ?_
              rw [rows]
              exact List.mem_cons_of_mem _ (harmless _ now rfl)
          · rw [if_neg self]
            have mail : Only (fun c => ∀ v, (carry svc c v).1 = v)
                (do let _ : Unit ← perform (.getEcosystemById ecosystemId); perform (.sendEmail email)) := by
              refine only_bind ((only_call _).mpr fun v => ?_) fun _ => (only_call _).mpr fun _ => rfl
              simp only [carry]
              split <;> rfl
            have left : (execute (carry svc) .other (do
                let _ : Unit ← perform (.getEcosystemById ecosystemId)
                perform (.sendEmail email)) (later faults) { w with invitations := after }).1 =
                    { w with invitations := after } := by
              refine execute_keeps (P := fun v : World => v = { w with invitations := after }) ?_ mail rfl
              intro c same v now
              exact (same v).trans now
            refine ⟨?_,fun _ => ?_⟩
            · rw [left]
              exact invited
            · rw [left]
              exact old
        · rw [perform,execute_fault first,if_neg undone,carried]
          exact ⟨invited,fun _ => old⟩
  · exact refused .invitationCreateFailed (if_neg fk)

theorem reopen_keeps (agree : Agree svc w) (found_ : w.invitations.find (email,ecosystemId,orgId) = some i)
    (rejected : i.status = .REJECTED) :
    Keeps svc (Unaccepted w) (run_ svc faults (do
      let _ : EcosystemInvitation ← perform (.updateEcosystemInvitationStatusByEmail email orgId ecosystemId .PENDING)
      pure true) w) := by
  have open_ : i.status ≠ .ACCEPTED := by
    rw [rejected]
    decide
  have now : Agree svc (w.answered (email,ecosystemId,orgId) .PENDING) := agree_answered agree found_ open_ (by decide)
  have old : Unaccepted w (w.answered (email,ecosystemId,orgId) .PENDING) := by
    intro j there accepted
    rcases (mem_answered found_).mp there with ⟨before,-⟩ | rfl
    · exact before
    · cases accepted
  have carried : carry svc (.updateEcosystemInvitationStatusByEmail email orgId ecosystemId .PENDING) w =
      (w.answered (email,ecosystemId,orgId) .PENDING,.ok (i.withStatus .PENDING)) := by
    simp only [carry,found_]
    rfl
  unfold run_
  by_cases well : faults 0 = .none
  · rw [perform,execute_ok well carried]
    exact ⟨now,fun _ => old⟩
  · rw [perform,execute_fault well,carried]
    split
    · exact ⟨agree,fun _ _ there _ => there⟩
    · exact ⟨now,fun _ => old⟩

theorem of_branches {p q : Async Bool} (test : Prop) [Decidable test]
    (first : test → Keeps svc U (run_ svc faults p w)) (second : ¬test → Keeps svc U (run_ svc faults q w)) :
    Keeps svc U (run_ svc faults (if test then p else q) w) := by
  split
  · exact first ‹_›
  · exact second ‹_›

theorem invite_keeps (agree : Agree svc w) (fine : InviteFine svc w faults orgId reqUser ecosystemId) :
    Keeps svc (Unaccepted w) (run_ svc faults (inviteMemberToEcosystem orgId reqUser ecosystemId) w) := by
  have unchanged : ∀ {r : Option (Except Failure Bool)}, Keeps svc (Unaccepted w) (w,r) :=
    ⟨agree,fun _ _ there _ => there⟩
  unfold run_ inviteMemberToEcosystem
  have config : carry svc .platformConfig w = (w,.ok svc.platformConfig) := rfl
  have profile : carry svc (.getOrgProfile orgId) w = (w,.ok (svc.organisations.find orgId)) := rfl
  rcases execute_read config with ⟨first,same⟩ | ⟨-,same⟩
  · rw [perform,same]
    by_cases missing : svc.platformConfig = false
    · rw [if_pos missing]
      exact unchanged
    · rw [if_neg missing]
      rcases execute_read profile with ⟨second,same⟩ | ⟨-,same⟩
      · rw [perform,same]
        cases organisation_ : svc.organisations.find orgId with
        | none => exact unchanged
        | some organisation =>
          dsimp only
          have creator : carry svc (.getUserById organisation.createdBy) w =
            (w,.ok (svc.users.find organisation.createdBy)) := rfl
          rcases execute_read creator with ⟨third,same⟩ | ⟨-,same⟩
          · rw [perform,same]
            cases user_ : svc.users.find organisation.createdBy with
            | none => exact unchanged
            | some user =>
              dsimp only
              cases given_ : truthy user.email with
              | none => exact unchanged
              | some email =>
                dsimp only
                have create : (faults 3 = .none) → Keeps svc (Unaccepted w)
                    (run_ svc (later (later (later (later faults)))) (createInvitation user email orgId reqUser ecosystemId) w) := by
                  intro fourth
                  refine create_keeps agree fun after fk inserted undone => ?_
                  refine fine organisation user email after
                      (by simpa using missing) organisation_ user_ given_ fk inserted ?_ undone
                  intro n small
                  interval_cases n
                  · exact first
                  · exact second
                  · exact third
                  · exact fourth
                unfold inviteUser
                have carried : carry svc (.getEcosystemInvitationsByEmail email ecosystemId orgId) w =
                    (w,.ok (w.invitations.find (email,ecosystemId,orgId))) := rfl
                rcases execute_read carried with ⟨fourth,same⟩ | ⟨-,same⟩
                · rw [perform,same]
                  cases found_ : w.invitations.find (email,ecosystemId,orgId) with
                  | none => exact create fourth
                  | some i =>
                    dsimp only
                    by_cases rejected : i.status = .REJECTED
                    · rw [if_pos rejected]
                      exact reopen_keeps agree found_ rejected
                    · rw [if_neg rejected]
                      refine of_branches _ (fun _ => unchanged) fun _ => ?_
                      exact of_branches _ (fun _ => unchanged) fun _ => create fourth
                · rw [perform,same]
                  exact unchanged
          · rw [perform,same]
            exact unchanged
      · rw [perform,same]
        exact unchanged
  · rw [perform,same]
    exact unchanged

theorem agree_deleted {orgIds : List String} (agree : Agree svc w) :
    Agree svc (w.deleteOrgs svc ecosystemId orgIds) ↔ ∀ row ∈ w.orgs.rows, row.ecosystemId = ecosystemId →
      isMember svc row = true → orgIds.contains row.orgId = true → row.deleted = true := by
  have kept : ∀ {row}, row ∈ (w.deleteOrgs svc ecosystemId orgIds).orgs.rows ↔ row ∈ w.orgs.rows ∧
      ¬(row.ecosystemId = ecosystemId ∧ isMember svc row = true ∧ orgIds.contains row.orgId = true) := by
    intro row
    rw [World.deleteOrgs,Keyed.mem_delete]
    simp only [Bool.and_eq_false_iff,decide_eq_false_iff_not,not_and_or,Bool.not_eq_true,or_assoc]
  have invitations : ∀ {j}, j ∈ (w.deleteOrgs svc ecosystemId orgIds).invitations.rows ↔ j ∈ w.invitations.rows ∧
      ¬(j.ecosystemId = ecosystemId ∧ j.type = .MEMBER ∧ orgIds.contains j.invitedOrg = true) := by
    intro j
    rw [World.deleteOrgs,Keyed.mem_delete]
    simp only [Bool.and_eq_false_iff,decide_eq_false_iff_not,not_and_or,Bool.not_eq_true,or_assoc]
  constructor
  · intro now row there ecosystem member listed
    by_contra live
    have alive : row.deleted = false := by simpa using live
    obtain ⟨user,-,-,k,-,access⟩ := agree.access row there member alive
    obtain ⟨other,there',ecosystem',org',-⟩ := now.appears k row.orgId row.ecosystemId access
    obtain ⟨before,out⟩ := kept.mp there'
    obtain rfl := w.orgs.eq_of_key before there (Prod.ext org' ecosystem')
    exact out ⟨ecosystem,member,listed⟩
  · intro gone
    have live : ∀ e o, Live (w.deleteOrgs svc ecosystemId orgIds) e o ↔ Live w e o := by
      intro e o
      constructor
      · rintro ⟨row,there,facts⟩
        exact ⟨row,(kept.mp there).1,facts⟩
      · rintro ⟨row,there,ecosystem,org,alive⟩
        refine ⟨row,kept.mpr ⟨there,?_⟩,ecosystem,org,alive⟩
        rintro ⟨hit,member,listed⟩
        exact absurd (alive.symm.trans (gone row there hit member listed)) (by decide)
    refine ⟨fun j there type => ?_,fun row there member alive => ?_,fun a first b second => ?_,fun row there => ?_,
      fun k o e access => ?_,fun j there => ?_⟩
    · rw [live]
      exact agree.accepted j (invitations.mp there).1 type
    · obtain ⟨before,out⟩ := kept.mp there
      obtain ⟨j,listed,type,ecosystem,org⟩ := agree.invited row before member alive
      refine ⟨j,invitations.mpr ⟨listed,?_⟩,type,ecosystem,org⟩
      rintro ⟨hit,-,contained⟩
      exact out ⟨ecosystem ▸ hit,member,org ▸ contained⟩
    · exact agree.single a (kept.mp first).1 b (kept.mp second).1
    · exact agree.access row (kept.mp there).1
    · rw [live]
      exact agree.appears k o e access
    · exact agree.leads j (invitations.mp there).1

theorem delete_iff {orgIds : List String} (agree : Agree svc w) :
    Agree svc (run_ svc faults (deleteOrgsFromEcosystem ecosystemId orgIds) w).1 ↔
    DeleteFine svc w faults ecosystemId orgIds := by
  have carried : carry svc (.deleteOrgs ecosystemId orgIds) w = (w.deleteOrgs svc ecosystemId orgIds,.ok ()) := rfl
  have deleted : Agree svc (w.deleteOrgs svc ecosystemId orgIds) ↔ ∀ row ∈ w.orgs.rows, row.ecosystemId = ecosystemId →
      isMember svc row = true → orgIds.contains row.orgId = true → row.deleted = true := agree_deleted agree
  unfold run_ deleteOrgsFromEcosystem
  by_cases first : faults 0 = .none
  · rw [perform,execute_ok first carried]
    refine deleted.trans ⟨fun gone _ => gone,fun fine => fine ?_⟩
    rw [first]
    rfl
  · rw [perform,execute_fault first,carried]
    by_cases undone : (faults 0).undone = true
    · rw [if_pos undone]
      refine ⟨fun _ done => ?_,fun _ => agree⟩
      rw [undone] at done
      cases done
    · rw [if_neg undone]
      exact deleted.trans ⟨fun gone _ => gone,fun fine => fine (by simpa using undone)⟩

theorem sound_call {s next : State} {a : Call × (Nat → Fault)} (sound : Sound svc s) (fine : Fine svc s a)
    (taken : call_ svc s a = some next) : Sound svc next := by
  obtain ⟨agree,unharmed⟩ := sound
  cases taken
  have recorded : ∀ {P : Prop} [Decidable P] {f : Failed}, (P → Unharmed f) →
      ∀ g ∈ (if P then f :: s.failed else s.failed), Unharmed g := by
    intro P _ f harmless g there
    split at there
    · rcases List.mem_cons.mp there with rfl | before
      · exact harmless ‹_›
      · exact unharmed g before
    · exact unharmed g there
  obtain ⟨call,faults⟩ := a
  cases call with
  | inviteMemberToEcosystem orgId reqUser ecosystemId =>
    have keeps := invite_keeps agree fine
    exact ⟨keeps.1,recorded keeps.2⟩
  | updateEcosystemInvitationStatus status reqUser ecosystemId orgId =>
    by_cases accepts : status = .ACCEPTED
    · subst accepts
      have keeps := (update_iff (U := fun v => v.invitations.rows = s.world.invitations.rows) agree rfl ?_).mpr fine
      · exact ⟨keeps.1,recorded fun fails _ => keeps.2 fails⟩
      · intro key i found_ open_ v same harmless
        obtain ⟨now,fresh⟩ := newly_accepted found_ open_ same
        rw [harmless] at now
        exact fresh now
    · exact ⟨update_other agree accepts,recorded fun _ accepted => absurd accepted accepts⟩
  | deleteOrgsFromEcosystem ecosystemId orgIds => exact ⟨(delete_iff agree).mpr fine,recorded fun _ => trivial⟩

/-- Where each call is fine, the stores agree after each and no failed acceptance did harm. -/
theorem agreement_sound (svc : Services) (start : World) (agree : Agree svc start) (calls : List (Call × (Nat → Fault)))
    (s : State) (reached : run (call_ svc) ⟨start,[]⟩ calls = some s)
    (fine : Along (call_ svc) (Fine svc) ⟨start,[]⟩ calls) :
    Sound svc s := by
  have begun : Sound svc ⟨start,[]⟩ := ⟨agree,fun f there => (List.not_mem_nil there).elim⟩
  exact run_keeps_along (fun _ _ _ => sound_call) begun fine reached

end

def ada : User := ⟨"ada",some "ada@acme.org",some "ada-k"⟩
def acme : Services where
  platformConfig := true
  users := ⟨[ada],by decide⟩
  organisations := ⟨[⟨"acme","ada",none⟩],by decide⟩
  ecosystems := ["eco"]
  roles := ⟨[⟨"r1",ECOSYSTEM_MEMBER⟩],by decide⟩
  role_ids := by decide
  keycloakUsers := ["ada-k"]
  serviceAccount _ := none
def invitation : EcosystemInvitation := ⟨"ada@acme.org","eco","acme",.PENDING,.MEMBER,some "ada"⟩
def pending : World := ⟨⟨[invitation],by decide⟩,⟨[],by decide⟩,fun _ _ _ => []⟩
def accept : Call := .updateEcosystemInvitationStatus .ACCEPTED "ada" "eco" "acme"
def well : Nat → Fault := fun _ => .none

theorem pending_agree : Agree acme pending where
  accepted i there _ := by
    rw [List.mem_singleton.mp there]
    constructor
    · rintro ⟨⟩
    · rintro ⟨row,none_,-⟩
      cases none_
  invited row there := by cases there
  single a there := by cases there
  access row there := by cases there
  appears k o e there := by cases there
  leads i there type := by
    rw [List.mem_singleton.mp there] at type
    cases type

theorem agreement_sound_acceptance :
    ∃ s, run (call_ acme) ⟨pending,[]⟩ [(accept,well)] = some s ∧
      s.world.orgs.rows = [⟨"acme","eco","r1","ada",false⟩] ∧ Sound acme s := by
  have taken : (run (call_ acme) ⟨pending,[]⟩ [(accept,well)]).map (fun s => s.world.orgs.rows) =
      some [⟨"acme","eco","r1","ada",false⟩] := by decide +kernel
  obtain ⟨s,reached,rows⟩ := Option.map_eq_some_iff.mp taken
  refine ⟨s,reached,rows,agreement_sound acme pending pending_agree _ s reached ⟨?_,fun _ _ => trivial⟩⟩
  intro user email i user_ given_ found_ _ _ _ _
  have isAda : acme.users.find "ada" = some ada := by decide
  obtain rfl := Option.some.inj (isAda.symm.trans user_)
  have mail : truthy ada.email = some "ada@acme.org" := by decide
  obtain rfl := Option.some.inj (mail.symm.trans given_)
  have listed : pending.invitations.find ("ada@acme.org","eco","acme") = some invitation := by decide
  obtain rfl := Option.some.inj (listed.symm.trans found_)
  exact .inr ⟨fun _ _ => rfl,.inl rfl,by decide,by decide,by decide,⟨"ada",by decide,by decide⟩,by decide,
    ⟨"ada-k",by decide,by decide⟩,fun j there _ _ _ => List.mem_singleton.mp there⟩

/-- Nothing fails: a member is accepted and deleted, and keeps the access. -/
theorem deleted_keepsAccess :
    ∃ s, run (call_ acme) ⟨pending,[]⟩ [(accept,well),(.deleteOrgsFromEcosystem "eco" ["acme"],well)] = some s ∧
      s.world.orgs.rows = [] ∧ s.world.access "ada-k" "acme" .MEMBER = ["eco"] ∧ ¬Sound acme s := by
  have taken : (run (call_ acme) ⟨pending,[]⟩ [(accept,well),(.deleteOrgsFromEcosystem "eco" ["acme"],well)]).map
      (fun s => (s.world.orgs.rows,s.world.access "ada-k" "acme" .MEMBER)) = some ([],["eco"]) := by decide +kernel
  obtain ⟨s,reached,facts⟩ := Option.map_eq_some_iff.mp taken
  simp only [Prod.mk.injEq] at facts
  refine ⟨s,reached,facts.1,facts.2,fun sound => ?_⟩
  obtain ⟨row,there,-⟩ := sound.1.appears "ada-k" "acme" "eco" (by rw [facts.2]; exact List.mem_cons_self)
  rw [facts.1] at there
  cases there

end Ngotag.EcosystemMembers
