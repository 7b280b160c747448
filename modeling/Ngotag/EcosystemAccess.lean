import Mathlib.Data.List.AList
import Ngotag.EcosystemMembers

/-!
The edits of the attribute `ecosystem_access` of a user in Keycloak. An edit reads the user, changes
one list of the map in the attribute, and writes the whole user back. Each edit is exact, and edits
of different entries commute; but of two edits in flight the one written first can be lost
(`edits_exact_iff`).
-/
namespace Ngotag.EcosystemAccess
open EcosystemMembers (EcosystemServiceRole)

section
variable (Id : Type)

/-- `ecosystem_role` of an organisation; parts of it may be missing. Ids are UUIDs, so that none is the
    name of something that every object inherits. -/
structure EcosystemRole where
  lead : Option (List Id)
  member : Option (List Id)

structure OrgEntry where
  ecosystemRole : Option (EcosystemRole Id)
abbrev Access := AList fun _ : Id => OrgEntry Id
/-- A value of the attribute: `JSON.stringify` of a map, or another text, which is not parsed as one. -/
inductive Text where
  | json (access : Access Id)
  | other (text : String)
/-- A user as Keycloak has it: the attribute, the other attributes, and the other fields. -/
structure User (Fields : Type) where
  ecosystemAccess : Option (List (Text Id))
  attributes : String → Option (List String)
  fields : Fields
end
section
variable {Id Fields : Type} [DecidableEq Id]

def Text.truthy : Text Id → Bool
  | .json _ => true
  | .other text => text ≠ ""
/-- `JSON.parse` -/
def Text.parse : Text Id → Option (Access Id)
  | .json access => some access
  | .other _ => none
/-- `attributes.ecosystem_access[0]`, if there is something in it. -/
def User.value (user : User Id Fields) : Option (Text Id) :=
  (user.ecosystemAccess.bind List.head?).filter Text.truthy
def EcosystemRole.get (roles : EcosystemRole Id) : EcosystemServiceRole → Option (List Id)
  | .LEAD => roles.lead
  | .MEMBER => roles.member
def EcosystemRole.set (roles : EcosystemRole Id) (ecosystems : List Id) : EcosystemServiceRole → EcosystemRole Id
  | .LEAD => { roles with lead := some ecosystems }
  | .MEMBER => { roles with member := some ecosystems }
/-- `if (!ids.includes(id)) ids.push(id)` -/
def included (ids : List Id) (id : Id) : List Id := if ids.contains id then ids else ids ++ [id]

/-- The entry of an organisation with the ecosystem in the list of the role. -/
def granted (entry : Option (OrgEntry Id)) (ecosystemId : Id) (role : EcosystemServiceRole) : OrgEntry Id :=
  let entry := entry.getD ⟨some ⟨some [],some []⟩⟩
  let roles := entry.ecosystemRole.getD ⟨some [],some []⟩
  let roles : EcosystemRole Id := ⟨some (roles.lead.getD []),some (roles.member.getD [])⟩
  ⟨some (roles.set (included ((roles.get role).getD []) ecosystemId) role)⟩
/-- The user that is written. A value that is not parsed is replaced. -/
def updateUserEcosystemAccess (currentUser : User Id Fields) (orgId ecosystemId : Id) (role : EcosystemServiceRole) :
    User Id Fields :=
  let ecosystemAccess := (currentUser.value.bind Text.parse).getD ∅
  let ecosystemAccess := ecosystemAccess.insert orgId (granted (ecosystemAccess.lookup orgId) ecosystemId role)
  { currentUser with ecosystemAccess := some [.json ecosystemAccess] }

/-- The user that is written, if one is. -/
def removeUserEcosystemAccess (currentUser : User Id Fields) (orgId ecosystemId : Id) (role : EcosystemServiceRole) :
    Option (User Id Fields) :=
  match currentUser.value.bind Text.parse with
  | none => none
  | some ecosystemAccess =>
    match (ecosystemAccess.lookup orgId).bind OrgEntry.ecosystemRole with
    | none => none
    | some roles =>
      let existingEcosystems := (roles.get role).getD []
      let updatedEcosystems := existingEcosystems.filter (· ≠ ecosystemId)
      let orgRoles := roles.set updatedEcosystems role
      let ecosystemAccess :=
        if (orgRoles.lead.getD []).length = 0 ∧ (orgRoles.member.getD []).length = 0 then ecosystemAccess.erase orgId
        else ecosystemAccess.insert orgId ⟨some orgRoles⟩
      some { currentUser with
        ecosystemAccess := if 0 < ecosystemAccess.keys.length then some [.json ecosystemAccess] else none }

inductive Kind where
  | update
  | remove
structure Edit (Id : Type) where
  kind : Kind
  orgId : Id
  ecosystemId : Id
  role : EcosystemServiceRole

def Edit.put (edit : Edit Id) (currentUser : User Id Fields) : Option (User Id Fields) :=
  match edit.kind with
  | .update => some (updateUserEcosystemAccess currentUser edit.orgId edit.ecosystemId edit.role)
  | .remove => removeUserEcosystemAccess currentUser edit.orgId edit.ecosystemId edit.role
def Edit.after (edit : Edit Id) (user : User Id Fields) : User Id Fields := (edit.put user).getD user
/-- Two edits of a user: what Keycloak has, and what each of them has read. -/
structure Flight (Id Fields : Type) where
  stored : User Id Fields
  read : Bool → Option (User Id Fields)
/-- The next request of one of the edits: `httpGet`, and then `httpPut`. -/
def step (edits : Bool → Edit Id) (flight : Flight Id Fields) (who : Bool) : Flight Id Fields :=
  match flight.read who with
  | none => { flight with read := Function.update flight.read who (some flight.stored) }
  | some currentUser => { flight with stored := ((edits who).put currentUser).getD flight.stored }
def run (edits : Bool → Edit Id) (user : User Id Fields) (order : List Bool) : User Id Fields :=
  (order.foldl (step edits) ⟨user,fun _ => none⟩).stored
/-- Both edits make their two requests. -/
def Interleaving (order : List Bool) : Prop := order.Perm [false,false,true,true]
def User.entry (user : User Id Fields) (orgId : Id) : Option (OrgEntry Id) :=
  (user.value.bind Text.parse).bind (AList.lookup orgId)
def listOf (entry : Option (OrgEntry Id)) (role : EcosystemServiceRole) : List Id :=
  ((entry.bind OrgEntry.ecosystemRole).bind fun roles => roles.get role).getD []
/-- The ecosystems of an organisation and a role. What is missing is empty. -/
def User.ecosystems (user : User Id Fields) (orgId : Id) (role : EcosystemServiceRole) : List Id :=
  listOf (user.entry orgId) role

/-- Only the list of one organisation and role is changed. -/
structure Local (orgId : Id) (role : EcosystemServiceRole) (user after : User Id Fields) : Prop where
  lists : ∀ org r, (org,r) ≠ (orgId,role) → after.ecosystems org r = user.ecosystems org r
  organisations : ∀ org, org ≠ orgId → after.entry org = user.entry org
  attributes : after.attributes = user.attributes
  fields : after.fields = user.fields
/-- The ecosystem is added to one list, and to no other. -/
structure Adds (orgId ecosystemId : Id) (role : EcosystemServiceRole) (user after : User Id Fields) : Prop where
  elsewhere : Local orgId role user after
  added : ∀ e, e ∈ after.ecosystems orgId role ↔ e ∈ user.ecosystems orgId role ∨ e = ecosystemId
/-- The ecosystem is taken from one list, and what is empty then goes. -/
structure Takes (orgId ecosystemId : Id) (role : EcosystemServiceRole) (user after : User Id Fields) : Prop where
  elsewhere : Local orgId role user after
  taken : after.ecosystems orgId role = (user.ecosystems orgId role).filter (· ≠ ecosystemId)
  organisation : after.entry orgId = none →
    (user.ecosystems orgId role).filter (· ≠ ecosystemId) = [] ∧ ∀ r, r ≠ role → user.ecosystems orgId r = []
  map : after.ecosystemAccess = none → ∀ org, org ≠ orgId → user.entry org = none
/-- The same but for the order of the lists. -/
structure Alike (a b : User Id Fields) : Prop where
  lists : ∀ org r, (a.ecosystems org r).Perm (b.ecosystems org r)
  organisations : ∀ org, (a.entry org).isSome = (b.entry org).isSome
  attributes : a.attributes = b.attributes
  fields : a.fields = b.fields
def Edit.place (edit : Edit Id) : Id × Id × EcosystemServiceRole := (edit.orgId,edit.ecosystemId,edit.role)
/-- The edit is visible. -/
def Edit.Applied (edit : Edit Id) (user : User Id Fields) : Prop :=
  match edit.kind with
  | .update => edit.ecosystemId ∈ user.ecosystems edit.orgId edit.role
  | .remove => edit.ecosystemId ∉ user.ecosystems edit.orgId edit.role
/-- There is nothing that the edit could remove. -/
def Edit.Idle (edit : Edit Id) (user : User Id Fields) : Prop :=
  edit.kind = .remove ∧ (user.entry edit.orgId).bind OrgEntry.ecosystemRole = none
/-- One edit ends before the other begins; or the one that ends last has nothing to write; or the other
    was applied already. -/
def Lossless (edits : Bool → Edit Id) (user : User Id Fields) (order : List Bool) : Prop :=
  match order with
  | [a,b,first,last] => a = b ∨ (edits last).Idle user ∨ (edits first).Applied user
  | _ => True

variable {entry : Option (OrgEntry Id)} {user : User Id Fields} {org orgId ecosystemId : Id}
    {role r : EcosystemServiceRole}
def pruned (entry : Option (OrgEntry Id)) (ecosystemId : Id) (role : EcosystemServiceRole) : Option (OrgEntry Id) :=
  match entry.bind OrgEntry.ecosystemRole with
  | none => entry
  | some roles =>
    let orgRoles := roles.set (((roles.get role).getD []).filter (· ≠ ecosystemId)) role
    if (orgRoles.lead.getD []).length = 0 ∧ (orgRoles.member.getD []).length = 0 then none else some ⟨some orgRoles⟩

theorem mem_included {ids : List Id} {e id : Id} : e ∈ included ids id ↔ e ∈ ids ∨ e = id := by
  unfold included
  split
  · next there =>
    refine ⟨.inl,?_⟩
    rintro (before | rfl)
    · exact before
    · exact List.contains_iff_mem.mp there
  · simp
theorem included_again {ids : List Id} {id : Id} : included (included ids id) id = included ids id :=
  if_pos (List.contains_iff_mem.mpr (mem_included.mpr (.inr rfl)))
theorem granted_list :
    listOf (some (granted entry ecosystemId role)) role = included (listOf entry role) ecosystemId := by
  rcases entry with _ | ⟨_ | ⟨lead,member⟩⟩ <;> cases role <;> rfl
theorem granted_other (other : r ≠ role) : listOf (some (granted entry ecosystemId role)) r = listOf entry r := by
  rcases entry with _ | ⟨_ | ⟨lead,member⟩⟩ <;> cases role <;> cases r <;> first | rfl | exact absurd rfl other
theorem granted_again :
    granted (some (granted entry ecosystemId role)) ecosystemId role = granted entry ecosystemId role := by
  rcases entry with _ | ⟨_ | ⟨lead,member⟩⟩ <;> cases role <;>
    simp only [granted,EcosystemRole.get,EcosystemRole.set,Option.getD_some,Option.getD_none,included_again]

theorem pruned_cases (roles : EcosystemRole Id) (e : Id) (role : EcosystemServiceRole) :
    let orgRoles := roles.set (((roles.get role).getD []).filter (· ≠ e)) role
    pruned (some ⟨some roles⟩) e role = some ⟨some orgRoles⟩ ∧ (∃ r, (orgRoles.get r).getD [] ≠ []) ∨
      pruned (some ⟨some roles⟩) e role = none ∧ ∀ r, (orgRoles.get r).getD [] = [] := by
  intro orgRoles
  by_cases empty : (orgRoles.lead.getD []).length = 0 ∧ (orgRoles.member.getD []).length = 0
  · refine .inr ⟨if_pos empty,fun r => ?_⟩
    cases r with
    | LEAD => exact List.length_eq_zero_iff.mp empty.1
    | MEMBER => exact List.length_eq_zero_iff.mp empty.2
  · refine .inl ⟨if_neg empty,?_⟩
    by_contra none_
    simp only [not_exists,not_not] at none_
    exact empty ⟨List.length_eq_zero_iff.mpr (none_ .LEAD),List.length_eq_zero_iff.mpr (none_ .MEMBER)⟩

omit [DecidableEq Id] in
theorem get_set {roles : EcosystemRole Id} {ids : List Id} :
    (roles.set ids role).get r = if r = role then some ids else roles.get r := by
  cases role <;> cases r <;> rfl

theorem pruned_list : listOf (pruned entry ecosystemId role) r =
    if r = role then (listOf entry role).filter (· ≠ ecosystemId) else listOf entry r := by
  rcases entry with _ | ⟨_ | roles⟩
  · cases role <;> cases r <;> rfl
  · cases role <;> cases r <;> rfl
  · have lists : ((roles.set (((roles.get role).getD []).filter (· ≠ ecosystemId)) role).get r).getD [] =
        if r = role then (listOf (some ⟨some roles⟩) role).filter (· ≠ ecosystemId) else listOf
        (some ⟨some roles⟩) r := by
      rw [get_set]
      split <;> rfl
    rcases pruned_cases roles ecosystemId role with ⟨kept,-⟩ | ⟨gone,empty⟩
    · rw [kept,← lists]
      rfl
    · rw [gone,← lists,empty r]
      rfl

variable (user org) in
theorem entry_eq : ((user.value.bind Text.parse).getD ∅).lookup org = user.entry org := by
  unfold User.entry
  cases user.value.bind Text.parse with
  | none => rfl
  | some access => rfl
theorem update_entry : (updateUserEcosystemAccess user orgId ecosystemId role).entry org =
    if org = orgId then some (granted (user.entry orgId) ecosystemId role) else user.entry org := by
  rw [← entry_eq user orgId,← entry_eq user org]
  change AList.lookup org (AList.insert orgId _ _) = _
  split
  · next same =>
    subst same
    exact AList.lookup_insert _
  · next other => exact AList.lookup_insert_ne other
theorem kept_entry {access : Access Id} (attributes : String → Option (List String)) (fields : Fields) :
    (⟨if 0 < access.keys.length then some [.json access] else none,attributes,fields⟩ : User Id Fields).entry org =
      access.lookup org := by
  split
  · rfl
  · next none_ =>
    have absent : org ∉ access := by
      intro there
      exact none_ (List.length_pos_of_mem (AList.mem_keys.mp there))
    exact (AList.lookup_eq_none.mpr absent).symm
theorem entry_none (none_ : user.ecosystemAccess = none) : user.entry org = none := by
  rw [User.entry,User.value,none_]
  rfl

variable (user orgId ecosystemId role) in
theorem remove_cases : (removeUserEcosystemAccess user orgId ecosystemId role = none ∧ pruned (user.entry orgId) ecosystemId role = user.entry orgId) ∨
    ∃ after, removeUserEcosystemAccess user orgId ecosystemId role = some after ∧ after.attributes = user.attributes ∧
      after.fields = user.fields ∧
      (∀ org, after.entry org = if org = orgId then pruned (user.entry orgId) ecosystemId role else user.entry org) ∧
      (after.ecosystemAccess = none → ∀ org, after.entry org = none) := by
  unfold removeUserEcosystemAccess
  cases parsed : user.value.bind Text.parse with
  | none => exact .inl ⟨rfl,by simp [User.entry,parsed,pruned]⟩
  | some access =>
    have entry_ (org : Id) : user.entry org = access.lookup org := by rw [User.entry,parsed,Option.bind_some]
    dsimp only
    cases found : (access.lookup orgId).bind OrgEntry.ecosystemRole with
    | none => exact .inl ⟨rfl,by rw [entry_,pruned,found]⟩
    | some roles =>
      right
      refine ⟨_,rfl,rfl,rfl,fun org => ?_,fun none_ org => ?_⟩
      · rw [kept_entry,entry_,entry_,pruned,found]
        dsimp only
        split
        · next empty =>
          split
          · next same =>
            subst same
            exact AList.lookup_erase _ _
          · next other => exact AList.lookup_erase_ne other
        · split
          · next same =>
            subst same
            exact AList.lookup_insert _
          · next other => exact AList.lookup_insert_ne other
      · exact entry_none none_

def Edit.on (edit : Edit Id) (entry : Option (OrgEntry Id)) : Option (OrgEntry Id) :=
  match edit.kind with
  | .update => some (granted entry edit.ecosystemId edit.role)
  | .remove => pruned entry edit.ecosystemId edit.role

variable {edit a b : Edit Id}
theorem after_entry :
    (edit.after user).entry org = if org = edit.orgId then edit.on (user.entry edit.orgId) else user.entry org := by
  obtain ⟨kind,orgId,ecosystemId,role⟩ := edit
  cases kind with
  | update => exact update_entry
  | remove =>
    rcases remove_cases user orgId ecosystemId role with ⟨none_,same⟩ | ⟨after,is,-,-,entries,-⟩
    · have unchanged : (Edit.mk .remove orgId ecosystemId role).after user =
        user := by simp only [Edit.after,Edit.put,none_,Option.getD_none]
      rw [unchanged]
      split
      · next same_ =>
        subst same_
        exact same.symm
      · rfl
    · have changed : (Edit.mk .remove orgId ecosystemId role).after user =
        after := by simp only [Edit.after,Edit.put,is,Option.getD_some]
      rw [changed]
      exact entries org

theorem after_rest : (edit.after user).attributes = user.attributes ∧ (edit.after user).fields = user.fields := by
  obtain ⟨kind,orgId,ecosystemId,role⟩ := edit
  cases kind with
  | update => exact ⟨rfl,rfl⟩
  | remove =>
    rcases remove_cases user orgId ecosystemId role with ⟨none_,-⟩ | ⟨after,is,attributes,fields,-⟩
    · have unchanged : (Edit.mk .remove orgId ecosystemId role).after user =
        user := by simp only [Edit.after,Edit.put,none_,Option.getD_none]
      rw [unchanged]
      exact ⟨rfl,rfl⟩
    · have changed : (Edit.mk .remove orgId ecosystemId role).after user =
        after := by simp only [Edit.after,Edit.put,is,Option.getD_some]
      rw [changed]
      exact ⟨attributes,fields⟩

def Edit.onList (edit : Edit Id) (ids : List Id) : List Id :=
  match edit.kind with
  | .update => included ids edit.ecosystemId
  | .remove => ids.filter (· ≠ edit.ecosystemId)

theorem on_list :
    listOf (edit.on entry) r = if r = edit.role then edit.onList (listOf entry edit.role) else listOf entry r := by
  obtain ⟨kind,orgId,ecosystemId,role⟩ := edit
  cases kind with
  | update =>
    by_cases same : r = role
    · subst same
      rw [if_pos rfl]
      exact granted_list
    · rw [if_neg same]
      exact granted_other same
  | remove => exact pruned_list

variable (edit user org r) in
theorem after_lists : (edit.after user).ecosystems org r =
    if (org,r) = (edit.orgId,edit.role) then edit.onList
    (user.ecosystems edit.orgId edit.role) else user.ecosystems org r := by
  rw [User.ecosystems,after_entry]
  by_cases same : org = edit.orgId
  · subst same
    rw [if_pos rfl,on_list]
    by_cases role_ : r = edit.role
    · rw [if_pos role_,if_pos (by rw [role_])]
      rfl
    · rw [if_neg role_,if_neg (fun both => role_ (Prod.mk.inj both).2)]
      rfl
  · rw [if_neg same,if_neg (fun both => same (Prod.mk.inj both).1)]
    rfl

variable (edit user) in
theorem after_local : Local edit.orgId edit.role user (edit.after user) :=
  ⟨fun _ _ other => (after_lists _ _ _ _).trans (if_neg other),fun _ other => after_entry.trans (if_neg other),
      after_rest.1,after_rest.2⟩
variable (user orgId ecosystemId role) in
theorem update_adds : Adds orgId ecosystemId role user (updateUserEcosystemAccess user orgId ecosystemId role) := by
  refine ⟨after_local user ⟨.update,orgId,ecosystemId,role⟩,fun e => ?_⟩
  have list := after_lists user orgId role ⟨.update,orgId,ecosystemId,role⟩
  rw [if_pos rfl] at list
  exact (iff_of_eq (congrArg (e ∈ ·) list)).trans mem_included

variable (user orgId ecosystemId role) in
theorem update_again :
    updateUserEcosystemAccess (updateUserEcosystemAccess user orgId ecosystemId role) orgId ecosystemId role =
    updateUserEcosystemAccess user orgId ecosystemId role := by
  unfold updateUserEcosystemAccess
  simp only [User.value,Text.parse,Text.truthy,Option.bind_some,List.head?_cons,Option.filter_some,if_true,
      Option.getD_some,
    AList.lookup_insert,granted_again,AList.insert_insert]

variable (user orgId ecosystemId role) in
theorem remove_takes : match removeUserEcosystemAccess user orgId ecosystemId role with
    | some after => Takes orgId ecosystemId role user after
    | none => ecosystemId ∉ user.ecosystems orgId role := by
  have list := after_lists user orgId role ⟨.remove,orgId,ecosystemId,role⟩
  rw [if_pos rfl] at list
  cases is : removeUserEcosystemAccess user orgId ecosystemId role with
  | none =>
    have unchanged : (Edit.mk .remove orgId ecosystemId role).after user =
        user := by simp only [Edit.after,Edit.put,is,Option.getD_none]
    rw [unchanged] at list
    change ecosystemId ∉ user.ecosystems orgId role
    rw [list]
    simp [Edit.onList]
  | some after =>
    have changed : (Edit.mk .remove orgId ecosystemId role).after user =
        after := by simp only [Edit.after,Edit.put,is,Option.getD_some]
    have elsewhere : Local orgId role user after := changed ▸ after_local user ⟨.remove,orgId,ecosystemId,role⟩
    rw [changed] at list
    have dropped (gone : after.entry orgId = none) (r : EcosystemServiceRole) : after.ecosystems orgId r = [] := by
      rw [User.ecosystems,gone]
      rfl
    refine ⟨elsewhere,list,fun gone => ⟨list.symm.trans (dropped gone role),fun r other => ?_⟩,fun none_ org other => ?_⟩
    · rw [← elsewhere.lists orgId r fun both => other (Prod.mk.inj both).2]
      exact dropped gone r
    · rw [← elsewhere.organisations org other]
      exact entry_none none_

section
variable {ids : List Id} {x y : Id}

theorem included_filter (apart : x ≠ y) : included (ids.filter (· ≠ y)) x = (included ids x).filter (· ≠ y) := by
  have contains : (ids.filter (· ≠ y)).contains x = ids.contains x := by
    rw [Bool.eq_iff_iff]
    simp [apart]
  unfold included
  rw [contains]
  split
  · rfl
  · simp [apart]
theorem included_contains (apart : x ≠ y) : (included ids y).contains x = ids.contains x := by
  rw [Bool.eq_iff_iff,List.contains_iff_mem,List.contains_iff_mem,mem_included,or_iff_left apart]
theorem included_included (apart : x ≠ y) : (included (included ids y) x).Perm (included (included ids x) y) := by
  have step (ids : List Id) (id : Id) : included ids id = ids ++ if ids.contains id then [] else [id] := by
    unfold included
    split <;> simp
  rw [step (included ids y) x,step (included ids x) y,included_contains apart,included_contains apart.symm,
      step ids y,step ids x,
    List.append_assoc,List.append_assoc]
  exact List.Perm.append_left ids List.perm_append_comm

end

theorem onList_perm {ids : List Id} (different : a.ecosystemId ≠ b.ecosystemId) :
    (a.onList (b.onList ids)).Perm (b.onList (a.onList ids)) := by
  unfold Edit.onList
  cases a.kind <;> cases b.kind
  · exact included_included different
  · exact List.Perm.of_eq (included_filter different)
  · exact List.Perm.of_eq (included_filter different.symm).symm
  · dsimp only
    rw [List.filter_filter,List.filter_filter]
    exact List.Perm.of_eq (List.filter_congr fun _ _ => Bool.and_comm _ _)

theorem applied_other (different : a.place ≠ b.place) : a.Applied (b.after user) ↔ a.Applied user := by
  have kept : a.ecosystemId ∈ (b.after user).ecosystems a.orgId a.role ↔
      a.ecosystemId ∈ user.ecosystems a.orgId a.role := by
    rw [after_lists]
    by_cases same : (a.orgId,a.role) = (b.orgId,b.role)
    · obtain ⟨org_,role_⟩ := Prod.mk.inj same
      have apart : a.ecosystemId ≠ b.ecosystemId :=
          fun ecosystem => different (by rw [Edit.place,Edit.place,org_,ecosystem,role_])
      rw [if_pos same,org_,role_,Edit.onList]
      cases b.kind with
      | update => exact mem_included.trans (or_iff_left apart)
      | remove => simp [apart]
    · rw [if_neg same]
  unfold Edit.Applied
  cases a.kind with
  | update => exact kept
  | remove => exact not_congr kept

theorem applied_after : edit.Applied (edit.after user) := by
  have list : (edit.after user).ecosystems edit.orgId edit.role = edit.onList (user.ecosystems edit.orgId edit.role) :=
    (after_lists _ _ _ _).trans (if_pos rfl)
  unfold Edit.Applied
  rw [list]
  unfold Edit.onList
  cases edit.kind with
  | update => exact mem_included.mpr (.inr rfl)
  | remove => simp
def Listed (entry : Option (OrgEntry Id)) : Prop := entry = none ∨ ∃ roles, entry = some ⟨some roles⟩
theorem pruned_listed (listed : Listed entry) : Listed (pruned entry ecosystemId role) ∧
    ((pruned entry ecosystemId role).isSome = true ↔ ∃ r, listOf (pruned entry ecosystemId role) r ≠ []) := by
  rcases listed with rfl | ⟨roles,rfl⟩
  · exact ⟨.inl rfl,by simp [pruned,listOf]⟩
  · rcases pruned_cases roles ecosystemId role with ⟨kept,full⟩ | ⟨gone,-⟩
    · rw [kept]
      exact ⟨.inr ⟨_,rfl⟩,iff_of_true rfl full⟩
    · rw [gone]
      exact ⟨.inl rfl,by simp [listOf]⟩

theorem granted_kept {e : Id} (different : (ecosystemId,role) ≠ (e,r)) :
    (pruned (some (granted entry ecosystemId role)) e r).isSome = true := by
  have there : ecosystemId ∈ listOf (pruned (some (granted entry ecosystemId role)) e r) role := by
    rw [pruned_list]
    have before : ecosystemId ∈ listOf (some (granted entry ecosystemId role)) role := by
      rw [granted_list]
      exact mem_included.mpr (.inr rfl)
    by_cases same : role = r
    · subst same
      have apart : ecosystemId ≠ e := fun is => different (by rw [is])
      simpa [apart] using before
    · rwa [if_neg same]
  cases left : pruned (some (granted entry ecosystemId role)) e r with
  | none =>
    rw [left] at there
    cases there
  | some _ => rfl

theorem on_isSome (different : a.place ≠ b.place) (same : a.orgId = b.orgId) :
    (a.on (b.on entry)).isSome = (b.on (a.on entry)).isSome := by
  have apart : (a.ecosystemId,a.role) ≠ (b.ecosystemId,b.role) := by
    intro is
    obtain ⟨ecosystem,role_⟩ := Prod.mk.inj is
    exact different (by rw [Edit.place,Edit.place,same,ecosystem,role_])
  unfold Edit.on
  cases a.kind <;> cases b.kind
  · rfl
  · exact (granted_kept apart).symm
  · exact granted_kept apart.symm
  · dsimp only
    by_cases listed : Listed entry
    · have lists (r : EcosystemServiceRole) : listOf
        (pruned (pruned entry b.ecosystemId b.role) a.ecosystemId a.role) r =
          listOf (pruned (pruned entry a.ecosystemId a.role) b.ecosystemId b.role) r := by
        have turned (ids : List Id) (x y : Id) : (ids.filter (· ≠ x)).filter
            (· ≠ y) = (ids.filter (· ≠ y)).filter (· ≠ x) := by
          rw [List.filter_filter,List.filter_filter]
          exact List.filter_congr fun _ _ => Bool.and_comm _ _
        simp only [pruned_list]
        by_cases first : r = a.role <;> by_cases second : r = b.role <;> by_cases both : a.role = b.role <;>
          simp_all
      rw [Bool.eq_iff_iff,(pruned_listed (pruned_listed listed).1).2,(pruned_listed (pruned_listed listed).1).2]
      simp only [lists]
    · -- Without lists nothing is removed.
      have bare (e : Id) (r : EcosystemServiceRole) : pruned entry e r = entry := by
        rcases entry with _ | ⟨_ | roles⟩
        · rfl
        · rfl
        · exact absurd (.inr ⟨roles,rfl⟩) listed
      simp only [bare]

theorem after_alike (different : a.place ≠ b.place) : Alike (a.after (b.after user)) (b.after (a.after user)) := by
  refine ⟨fun org r => ?_,fun org => ?_,?_,?_⟩
  · simp only [after_lists]
    by_cases first : (org,r) = (a.orgId,a.role) <;> by_cases second : (org,r) = (b.orgId,b.role)
    · have same : (a.orgId,a.role) = (b.orgId,b.role) := first.symm.trans second
      obtain ⟨org_,role_⟩ := Prod.mk.inj same
      have apart : a.ecosystemId ≠ b.ecosystemId :=
          fun ecosystem => different (by rw [Edit.place,Edit.place,org_,ecosystem,role_])
      rw [if_pos first,if_pos same,if_pos second,if_pos same.symm,org_,role_]
      exact onList_perm apart
    · have other : (a.orgId,a.role) ≠ (b.orgId,b.role) := fun same => second (first.trans same)
      rw [if_pos first,if_neg other,if_neg second,if_pos first]
    · have other : (b.orgId,b.role) ≠ (a.orgId,a.role) := fun same => first (second.trans same)
      rw [if_neg first,if_pos second,if_pos second,if_neg other]
    · rw [if_neg first,if_neg second,if_neg second,if_neg first]
  · simp only [after_entry]
    by_cases first : org = a.orgId <;> by_cases second : org = b.orgId
    · have same : a.orgId = b.orgId := first.symm.trans second
      rw [if_pos first,if_pos same,if_pos second,if_pos same.symm,same]
      exact on_isSome different same
    · have other : a.orgId ≠ b.orgId := fun same => second (first.trans same)
      rw [if_pos first,if_neg other,if_neg second,if_pos first]
    · have other : b.orgId ≠ a.orgId := fun same => first (second.trans same)
      rw [if_neg first,if_pos second,if_pos second,if_neg other]
    · rw [if_neg first,if_neg second,if_neg second,if_neg first]
  · simp only [after_rest]
  · simp only [after_rest]

theorem interleavings {order : List Bool} (both : Interleaving order) :
    ∃ x, order = [x,x,!x,!x] ∨ order = [x,!x,x,!x] ∨ order = [x,!x,!x,x] := by
  obtain ⟨p,q,r,s,rfl⟩ : ∃ p q r s, order = [p,q,r,s] := by
    have four : order.length = 4 := both.length_eq
    match order,four with
    | [p,q,r,s],_ => exact ⟨p,q,r,s,rfl⟩
  refine ⟨p,?_⟩
  revert both
  unfold Interleaving
  revert p q r s
  decide

variable {edits : Bool → Edit Id} {x : Bool}
theorem run_inTurn : run edits user [x,x,!x,!x] = (edits !x).after ((edits x).after user) := by
  cases x <;> rfl
variable (edits user x) in
theorem run_overlapping (first : Bool) : run edits user [x,!x,first,!first] =
    ((edits !first).put user).getD ((edits first).after user) := by
  cases x <;> cases first <;> rfl

theorem idle_iff : edit.Idle user ↔ edit.put user = none := by
  obtain ⟨kind,orgId,ecosystemId,role⟩ := edit
  cases kind with
  | update => exact iff_of_false (fun idle => nomatch idle.1) nofun
  | remove =>
    simp only [Edit.Idle,Edit.put,true_and,removeUserEcosystemAccess,User.entry]
    cases user.value.bind Text.parse with
    | none => simp
    | some access =>
      rw [Option.bind_some]
      dsimp only
      cases (access.lookup orgId).bind OrgEntry.ecosystemRole <;> simp

variable (user) in
theorem applied_overlapping (first : Bool) (different : ∀ who, (edits who).place ≠ (edits !who).place) :
    (∀ who, (edits who).Applied (((edits !first).put user).getD ((edits first).after user))) ↔
      (edits !first).Idle user ∨ (edits first).Applied user := by
  rw [idle_iff]
  have each {p : Bool → Prop} : (∀ who, p who) ↔ p first ∧ p !first := by cases first <;> simp [and_comm]
  rw [each]
  cases last : (edits !first).put user with
  | none =>
    have still : (edits !first).after user = user := by rw [Edit.after,last]; rfl
    have done : (edits !first).Applied user := still ▸ applied_after
    simp only [Option.getD_none,true_or,iff_true]
    refine ⟨applied_after,(applied_other ?_).mpr done⟩
    have apart := different (!first)
    rwa [Bool.not_not] at apart
  | some written =>
    have is : written = (edits !first).after user := by rw [Edit.after,last]; rfl
    simp only [Option.getD_some,reduceCtorEq,false_or]
    rw [is,applied_other (different first)]
    exact and_iff_left applied_after

variable (Id Fields) in
/-- Every edit is exact, edits of different entries commute, and two of them in flight are both applied exactly
    where the order is lossless. -/
theorem edits_exact_iff :
    (∀ (user : User Id Fields) (orgId ecosystemId : Id) (role : EcosystemServiceRole),
      Adds orgId ecosystemId role user (updateUserEcosystemAccess user orgId ecosystemId role) ∧
      updateUserEcosystemAccess (updateUserEcosystemAccess user orgId ecosystemId role) orgId ecosystemId role =
        updateUserEcosystemAccess user orgId ecosystemId role ∧
      match removeUserEcosystemAccess user orgId ecosystemId role with
      | some after => Takes orgId ecosystemId role user after
      | none => ecosystemId ∉ user.ecosystems orgId role) ∧
    (∀ (a b : Edit Id) (user : User Id Fields), a.place ≠ b.place → Alike (a.after (b.after user)) (b.after (a.after user))) ∧
    ∀ (edits : Bool → Edit Id) (user : User Id Fields) (order : List Bool), (edits false).place ≠ (edits true).place →
      Interleaving order → ((∀ who, (edits who).Applied (run edits user order)) ↔ Lossless edits user order) := by
  refine ⟨fun user orgId ecosystemId role => ⟨update_adds user orgId ecosystemId role,update_again user orgId ecosystemId role,
    remove_takes user orgId ecosystemId role⟩,fun a b user different => after_alike different,
    fun edits user order different both => ?_⟩
  have apart : ∀ who, (edits who).place ≠ (edits !who).place := fun who => by
    cases who with
    | false => exact different
    | true => exact different.symm
  have other (x : Bool) : x ≠ !x := by cases x <;> decide
  obtain ⟨x,rfl | rfl | rfl⟩ := interleavings both
  · refine iff_of_true (fun who => ?_) (.inl rfl)
    rw [run_inTurn]
    by_cases last : who = !x
    · subst last
      exact applied_after
    · obtain rfl : who = x := by cases who <;> cases x <;> simp_all
      exact (applied_other (apart who)).mpr applied_after
  · rw [run_overlapping user edits x x,applied_overlapping user x apart]
    exact ⟨.inr,fun lossless => lossless.resolve_left (other x)⟩
  · have overlapping : run edits user [x,!x,!x,x] = ((edits x).put user).getD ((edits !x).after user) := by
      have is := run_overlapping user edits x !x
      rwa [Bool.not_not] at is
    have lossless := applied_overlapping user (!x) apart
    rw [Bool.not_not] at lossless
    rw [overlapping,lossless]
    exact ⟨.inr,fun either => either.resolve_left (other x)⟩

end

def bothAdded : Bool → Edit Nat := fun who => ⟨.update,1,if who then 8 else 7,.MEMBER⟩
def newUser : User Nat Unit := ⟨none,fun _ => none,()⟩
theorem edits_exact_iff_inTurn : Interleaving [false,false,true,true] ∧
    ((∀ who, (bothAdded who).Applied (run bothAdded newUser [false,false,true,true])) ↔
      Lossless bothAdded newUser [false,false,true,true]) :=
  ⟨List.Perm.refl _,(edits_exact_iff Nat Unit).2.2 bothAdded newUser _ (by decide) (List.Perm.refl _)⟩
/-- Both edits read the user before either writes, and the first is lost. -/
theorem first_edit_lost : ¬∀ (edits : Bool → Edit Nat) (user : User Nat Unit) (order : List Bool),
    (edits false).place ≠ (edits true).place → Interleaving order → ∀ who,
    (edits who).Applied (run edits user order) := by
  intro every
  have applied := every bothAdded newUser [false,true,false,true] (by decide) (by unfold Interleaving; decide) false
  change 7 ∈ (run bothAdded newUser [false,true,false,true]).ecosystems 1 .MEMBER at applied
  exact absurd applied (by decide +kernel)

end Ngotag.EcosystemAccess
