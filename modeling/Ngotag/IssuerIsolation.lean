import Ngotag.IssuerTemplates

/-!
The calls of one organisation on issuers and templates. The guard in front of them compares the organisation
of the path alone, the rows are looked up by the ids that the caller chooses. In which runs no row of an
issuer of another organisation is touched is `issuance_isolated_iff`.
-/
namespace Ngotag.IssuerIsolation
open Runs
open KeyedTable
open OrgRolesGuard (trim)
open IssuerTemplates

/-- The calls of the organisation, with the answers of its agent, and what others do to the tables. -/
inductive Call where
  | oidcIssuerUpdate (config : IssuerUpdation) (userId : String) (answer : Answer)
  | deleteOidcIssuer (id : String) (found deleted : Answer)
  | createTemplate (id : String) (dto : CreateCredentialTemplate) (issuerId : String) (answer : Answer)
  | updateTemplate (templateId : String) (dto : UpdateCredentialTemplate) (issuerId : String) (answer : Answer)
  | deleteTemplate (templateId issuerId : String) (answer : Answer)
  | findByIdTemplate (templateId : String)
  | findAllTemplate (issuerId : String)
  | createOidcCredentialOffer (offer : CreateOidcCredentialOffer) (issuerId : String) (steps : OfferSteps)
  | elsewhere (db : Database)

structure State where
  db : Database
  /-- What the calls of the organisation did so far. -/
  effects : List Effect
def State.after {α : Type} (s : State) (outcome : Outcome α) : State := ⟨outcome.db,s.effects ++ outcome.effects⟩

section
variable (configurable : OidcIssuer → List CredentialTemplate → Bool) (insensitive : String → String → Bool)
  (orgId : String)

def step (s : State) : Call → Option State
  | .oidcIssuerUpdate config userId answer =>
    some (s.after (oidcIssuerUpdate s.db configurable config orgId userId answer))
  | .deleteOidcIssuer id found deleted => some (s.after (deleteOidcIssuer s.db orgId id found deleted))
  | .createTemplate id dto issuerId answer =>
    some (s.after (createTemplate s.db configurable insensitive id dto orgId issuerId answer))
  | .updateTemplate templateId dto issuerId answer =>
    some (s.after (updateTemplate s.db configurable insensitive templateId dto orgId issuerId answer))
  | .deleteTemplate templateId issuerId answer =>
    some (s.after (deleteTemplate s.db configurable templateId orgId issuerId answer))
  | .findByIdTemplate templateId => some (s.after (findByIdTemplate s.db templateId orgId))
  | .findAllTemplate issuerId => some (s.after (findAllTemplate s.db orgId issuerId))
  | .createOidcCredentialOffer offer issuerId steps =>
    some (s.after (createOidcCredentialOffer s.db offer orgId issuerId steps))
  | .elsewhere db => some ⟨db,s.effects⟩

end

/-- The issuer is of no other organisation. -/
def Own (db : Database) (orgId issuerId : String) : Prop := ∀ owner ∈ organisation db issuerId, owner = orgId
/-- The row is of an own issuer; a template that is written or deleted, of the issuer that is named. -/
structure Isolated (orgId : String) (e : Effect) : Prop where
  own : Own e.before orgId e.issuerId
  named : e.template.isSome → e.deed ≠ .returns → e.named = some e.issuerId

section
variable {db : Database} {orgId : String} {named : Option String} {deed : Deed} {template : CredentialTemplate}

@[simp] theorem isolated_onIssuer {issuer : OidcIssuer} :
    Isolated orgId (onIssuer db deed named issuer) ↔ Own db orgId issuer.id :=
  ⟨fun isolated => isolated.own,fun own => ⟨own,nofun⟩⟩
@[simp] theorem isolated_returns :
    Isolated orgId (onTemplate db .returns named template) ↔ Own db orgId template.issuerId :=
  ⟨fun isolated => isolated.own,fun own => ⟨own,fun _ other => absurd rfl other⟩⟩
@[simp] theorem isolated_writes :
    Isolated orgId (onTemplate db .writes named template) ↔ Own db orgId template.issuerId ∧
    named = some template.issuerId :=
  ⟨fun isolated => ⟨isolated.own,isolated.named rfl nofun⟩,fun ⟨own,same⟩ => ⟨own,fun _ _ => same⟩⟩
@[simp] theorem isolated_deletes :
    Isolated orgId (onTemplate db .deletes named template) ↔ Own db orgId template.issuerId ∧
    named = some template.issuerId :=
  ⟨fun isolated => ⟨isolated.own,isolated.named rfl nofun⟩,fun ⟨own,same⟩ => ⟨own,fun _ _ => same⟩⟩

end
section
variable (db : Database) (configurable : OidcIssuer → List CredentialTemplate → Bool)
  (insensitive : String → String → Bool) (orgId : String)

/-- The row that the update is for, where the update of the primary issuers is not refused. -/
def Commits (config : IssuerUpdation) (issuer : OidcIssuer) : Prop :=
  db.oidc_issuer.find config.issuerId = some issuer ∧ ofOrg config.orgId issuer ∧
    (config.isPrimary = some true ∨ otherPrimaryExists db config)
def TypedAgent : Prop :=
  ∃ agentDetails type, getAgentEndPoint db orgId = .ok agentDetails ∧
    getOrgAgentType db agentDetails.orgAgentTypeId = .ok type ∧ type ≠ ""
def ReachableAgent : Prop :=
  ∃ agentDetails, getAgentEndPoint db orgId = .ok agentDetails ∧ getAgentUrl agentDetails.agentEndPoint = .ok ()
/-- The issuer is stored, its agent can be reached, and the agent's answer names it. -/
def Known (id : String) (found : Answer) : Prop :=
  (∃ issuer, db.oidc_issuer.find id = some issuer ∧ issuer.publicIssuerId ≠ "") ∧ ReachableAgent db orgId ∧
    ∃ response issuerId, found = .response response ∧ normalizeJson response = .ok (some issuerId) ∧ issuerId ≠ ""
/-- The name is free for the issuer, which is stored, and the id is new. -/
def Stores (id : String) (dto : CreateCredentialTemplate) (issuerId : String) : Prop :=
  getTemplateByNameForIssuer db insensitive dto.name issuerId = [] ∧ db.credential_templates.find id = none ∧
    ∃ issuer, db.oidc_issuer.find issuerId = some issuer
/-- The agent is asked and nothing comes back: the template stays and is not returned. -/
def Unanswered (id : String) (dto : CreateCredentialTemplate) (issuerId : String) (answer : Answer) : Prop :=
  (∃ issuer, db.oidc_issuer.find issuerId = some issuer ∧
    configurable issuer (dto.row id issuerId :: getTemplatesByIssuerId db issuerId)) ∧
    ReachableAgent db orgId ∧ answer = .nothing
/-- The offer gets to the agent, which answers with an object. -/
def Offered (offer : CreateOidcCredentialOffer) (issuerId : String) (steps : OfferSteps) : Prop :=
  (∃ issuer, db.oidc_issuer.find issuerId = some issuer) ∧ missingTemplateIds db offer issuerId = [] ∧ steps.built ∧
    (∃ agentDetails, getAgentEndPoint db orgId = .ok agentDetails ∧ trim (agentDetails.agentEndPoint.getD "") ≠ "") ∧
    (∃ statusCode id, steps.answer = .response (.object statusCode id)) ∧ steps.saved

/-- A call that gets to rows gets to own ones, and names the issuer of a template that it changes. -/
def Inside : Call → Prop
  | .oidcIssuerUpdate config _ _ => TypedAgent db orgId → ∀ issuer, Commits db config issuer →
    Own db orgId issuer.id ∧ (config.isPrimary = some true → ∀ other ∈ demoted db config.orgId, Own db orgId other.id)
  | .deleteOidcIssuer id found _ => Known db orgId id found → Own db orgId id
  | .createTemplate id dto issuerId answer => Stores db insensitive id dto issuerId →
    Unanswered db configurable orgId id dto issuerId answer ∨ Own db orgId issuerId
  | .updateTemplate templateId dto issuerId _ => ∀ template, db.credential_templates.find templateId = some template →
    nameTaken db insensitive templateId dto issuerId = false →
    (issuerId = "" ∨ ∃ issuer, db.oidc_issuer.find issuerId = some issuer) →
    Own db orgId template.issuerId ∧ issuerId = template.issuerId
  | .deleteTemplate templateId issuerId _ => ∀ template, db.credential_templates.find templateId = some template →
    Own db orgId template.issuerId ∧ issuerId = template.issuerId
  | .findByIdTemplate templateId => orgId ≠ "" → templateId ≠ "" → ∀ template,
    db.credential_templates.find templateId = some template → Own db orgId template.issuerId
  | .findAllTemplate issuerId => orgId ≠ "" → issuerId ≠ "" →
    (∃ template ∈ db.credential_templates.rows, template.issuerId = issuerId) → Own db orgId issuerId
  | .createOidcCredentialOffer offer issuerId steps => Offered db orgId offer issuerId steps →
    (noticed db offer).isSome → Own db orgId issuerId
  | .elsewhere _ => True

end
section
variable {db after : Database} {orgId issuerId : String}

theorem bind_ok {α β : Type} {x : Except Failure α} {f : α → Except Failure β} {b : β} :
    (x >>= f) = .ok b ↔ ∃ a, x = .ok a ∧ f a = .ok b := by
  cases x with
  | error failure => exact ⟨nofun,fun ⟨_,other,_⟩ => nomatch other⟩
  | ok a => exact ⟨fun same => ⟨a,rfl,same⟩,fun ⟨_,same,then_⟩ => Except.ok.inj same ▸ then_⟩
theorem getOidcIssuerDetailsById_ok {issuer : OidcIssuer} :
    getOidcIssuerDetailsById db issuerId = .ok issuer ↔ db.oidc_issuer.find issuerId = some issuer := by
  unfold getOidcIssuerDetailsById
  split <;> simp_all

theorem store_kept {issuers : Keyed OidcIssuer.id} {templates : Keyed CredentialTemplate.id}
    (same : issuers.rows.map OidcIssuer.id = db.oidc_issuer.rows.map OidcIssuer.id)
    (fewer : ∀ template ∈ templates.rows, ∃ old ∈ db.credential_templates.rows, old.issuerId = template.issuerId) :
    ∃ after, db.store issuers templates = .ok after ∧ after.credential_templates = templates := by
  refine ⟨_,dif_pos fun template there => ?_,rfl⟩
  obtain ⟨old,stored,of_⟩ := fewer template there
  obtain ⟨issuer,listed,is⟩ := db.issuerId_fkey old stored
  have mapped : template.issuerId ∈ issuers.rows.map OidcIssuer.id := by
    rw [same,← of_,← is]
    exact List.mem_map_of_mem listed
  obtain ⟨found,there,is⟩ := List.mem_map.mp mapped
  exact ⟨found,there,is⟩

theorem demoteAll_ids (orgId : Option String) :
    (demoteAll db orgId).rows.map OidcIssuer.id = db.oidc_issuer.rows.map OidcIssuer.id := by
  rw [demoteAll,List.map_map]
  exact List.map_congr_left fun issuer _ => demote_id orgId issuer
end
section
variable {db : Database} {orgId : String} {configurable : OidcIssuer → List CredentialTemplate → Bool}

variable {config : IssuerUpdation}
theorem updateOidcIssuerDetails_ok {userId : String} {after : Database}
    {written : List OidcIssuer} {updated : OidcIssuer}
    (done : updateOidcIssuerDetails db userId config = .ok (after,written,updated)) :
    ∃ issuer, Commits db config issuer ∧ updated.id = issuer.id ∧
      written = (if config.isPrimary = some true then demoted db config.orgId else []) ++ [issuer] := by
  unfold updateOidcIssuerDetails at done
  split at done
  · cases done
  · rename_i issuer found
    obtain ⟨found,of_⟩ := Option.filter_eq_some_iff.mp found
    split at done
    · rename_i primary
      obtain ⟨_,-,same⟩ := bind_ok.mp done
      cases same
      exact ⟨issuer,⟨found,of_,.inl primary⟩,demote_id config.orgId issuer,by rw [if_pos primary]⟩
    · rename_i other
      split at done
      · rename_i exists_
        obtain ⟨_,-,same⟩ := bind_ok.mp done
        cases same
        exact ⟨issuer,⟨found,of_,.inr exists_⟩,rfl,by rw [if_neg other]; rfl⟩
      · cases done

theorem updateOidcIssuerDetails_commits {issuer : OidcIssuer} (userId : String)
    (commits : Commits db config issuer) : ∃ result, updateOidcIssuerDetails db userId config = .ok result := by
  obtain ⟨found,of_,primary⟩ := commits
  unfold updateOidcIssuerDetails
  rw [Option.filter_eq_some_iff.mpr ⟨found,of_⟩]
  by_cases is_primary : config.isPrimary = some true
  · obtain ⟨after,stored,-⟩ := store_kept (((demoteAll db config.orgId).change_map config.issuerId
      (config.applied userId) (fun _ => rfl) fun _ => rfl).trans (demoteAll_ids config.orgId)) fun template there =>
      ⟨template,there,rfl⟩
    exact ⟨_,(if_pos is_primary).trans (bind_ok.mpr ⟨after,stored,rfl⟩)⟩
  · have other := primary.resolve_left is_primary
    obtain ⟨after,stored,-⟩ := store_kept (db.oidc_issuer.change_map config.issuerId
      (config.applied userId) (fun _ => rfl) fun _ => rfl) fun template there => ⟨template,there,rfl⟩
    exact ⟨_,(if_neg is_primary).trans ((if_pos other).trans (bind_ok.mpr ⟨after,stored,rfl⟩))⟩

theorem updateAdmitted_ok :
    (∃ agentDetails, updateAdmitted db orgId config = .ok agentDetails) ↔
      (∃ issuer, db.oidc_issuer.find config.issuerId = some issuer) ∧ TypedAgent db orgId := by
  constructor
  · rintro ⟨agentDetails,admitted⟩
    obtain ⟨issuer,found,admitted⟩ := bind_ok.mp admitted
    obtain ⟨agent,addressed,admitted⟩ := bind_ok.mp admitted
    obtain ⟨type,typed,admitted⟩ := bind_ok.mp admitted
    refine ⟨⟨issuer,getOidcIssuerDetailsById_ok.mp found⟩,agent,type,addressed,typed,fun empty => ?_⟩
    rw [if_pos empty] at admitted
    cases admitted
  · rintro ⟨⟨issuer,found⟩,agent,type,addressed,typed,named⟩
    refine ⟨agent,bind_ok.mpr ⟨issuer,getOidcIssuerDetailsById_ok.mpr found,?_⟩⟩
    exact bind_ok.mpr ⟨agent,addressed,bind_ok.mpr ⟨type,typed,if_neg named⟩⟩

theorem oidcIssuerUpdate_isolated {userId : String} {answer : Answer} :
    (∀ e ∈ (oidcIssuerUpdate db configurable config orgId userId answer).effects, Isolated orgId e) ↔
      Inside db configurable insensitive orgId (.oidcIssuerUpdate config userId answer) := by
  unfold oidcIssuerUpdate
  split
  · rename_i failure refused
    refine iff_of_true nofun fun typed issuer commits => ?_
    obtain ⟨agentDetails,admitted⟩ := updateAdmitted_ok.mpr ⟨⟨issuer,commits.1⟩,typed⟩
    cases refused.symm.trans admitted
  · rename_i agentDetails admitted
    have typed := (updateAdmitted_ok.mp ⟨agentDetails,admitted⟩).2
    split
    · rename_i failure refused
      refine iff_of_true nofun fun _ issuer commits => ?_
      obtain ⟨result,done⟩ := updateOidcIssuerDetails_commits userId commits
      cases refused.symm.trans done
    · rename_i after written updated done
      obtain ⟨issuer,commits,same,content⟩ := updateOidcIssuerDetails_ok done
      have writes : (∀ row ∈ written, Own db orgId row.id) ↔ Own db orgId issuer.id ∧
          (config.isPrimary = some true → ∀ other ∈ demoted db config.orgId, Own db orgId other.id) := by
        rw [content]
        split <;> rename_i primary <;> simp [primary,or_imp,forall_and,and_comm]
      have inside : Inside db configurable insensitive orgId (.oidcIssuerUpdate config userId answer) ↔
          Own db orgId issuer.id ∧
            (config.isPrimary = some true → ∀ other ∈ demoted db config.orgId, Own db orgId other.id) := by
        refine ⟨fun inside => inside typed issuer commits,fun inside _ other commits' => ?_⟩
        obtain rfl := Option.some.inj (commits.1.symm.trans commits'.1)
        exact inside
      rw [inside,← writes]
      split
      · simp
      · have returned : (∀ row ∈ written, Own db orgId row.id) → Own db orgId updated.id := by
          rw [same]
          exact fun each => (writes.mp each).1
        simpa [or_imp,forall_and] using returned

variable {id : String}
theorem oidcIssuerGetById_ok {found : Answer} {issuerId : Option String} :
    oidcIssuerGetById db id orgId found = .ok issuerId ↔
      (∃ issuer, db.oidc_issuer.find id = some issuer ∧ issuer.publicIssuerId ≠ "") ∧ ReachableAgent db orgId ∧
        ∃ response, found = .response response ∧ normalizeJson response = .ok issuerId := by
  constructor
  · intro got
    obtain ⟨issuer,there,got⟩ := bind_ok.mp got
    obtain ⟨agentDetails,addressed,got⟩ := bind_ok.mp got
    obtain ⟨_,encoded,got⟩ := bind_ok.mp got
    obtain ⟨_,url,got⟩ := bind_ok.mp got
    obtain ⟨raw,asked,got⟩ := bind_ok.mp got
    refine ⟨⟨issuer,getOidcIssuerDetailsById_ok.mp there,fun empty => ?_⟩,⟨agentDetails,addressed,url⟩,?_⟩
    · rw [encodeIssuerPublicId,if_pos empty] at encoded
      cases encoded
    · cases found with
      | throws => cases asked
      | nothing => cases asked; cases got
      | response response => cases asked; exact ⟨response,rfl,got⟩
  · rintro ⟨⟨issuer,there,public_⟩,⟨agentDetails,addressed,url⟩,response,rfl,read⟩
    refine bind_ok.mpr ⟨issuer,getOidcIssuerDetailsById_ok.mpr there,bind_ok.mpr ⟨agentDetails,addressed,?_⟩⟩
    exact bind_ok.mpr ⟨(),if_neg public_,bind_ok.mpr ⟨(),url,bind_ok.mpr ⟨some response,rfl,read⟩⟩⟩

theorem deleteAdmitted_ok {found : Answer} :
    (∃ agentDetails, deleteAdmitted db orgId id found = .ok agentDetails) ↔ Known db orgId id found := by
  constructor
  · rintro ⟨agentDetails,admitted⟩
    obtain ⟨issuerId,got,admitted⟩ := bind_ok.mp admitted
    obtain ⟨there,reachable,response,answered,read⟩ := oidcIssuerGetById_ok.mp got
    split at admitted
    · cases admitted
    · rename_i truthy
      obtain ⟨known,is⟩ := Option.ne_none_iff_exists'.mp fun none_ => truthy (Option.isNone_iff_eq_none.mpr none_)
      obtain ⟨rfl,nonempty⟩ := Option.filter_eq_some_iff.mp is
      exact ⟨there,reachable,response,known,answered,read,of_decide_eq_true nonempty⟩
  · rintro ⟨there,reachable,response,issuerId,answered,read,nonempty⟩
    obtain ⟨agentDetails,addressed,url⟩ := reachable
    refine ⟨agentDetails,bind_ok.mpr ⟨some issuerId,?_,?_⟩⟩
    · exact oidcIssuerGetById_ok.mpr ⟨there,⟨agentDetails,addressed,url⟩,response,answered,read⟩
    · have truthy : (some issuerId).filter (· ≠ "") = some issuerId := by simp [nonempty]
      rw [truthy]
      exact addressed

theorem deleteTemplates_ok (id : String) : ∃ emptied, deleteTemplatesByIssuerId db id = .ok emptied ∧
    emptied.oidc_issuer = db.oidc_issuer ∧ ∀ template ∈ emptied.credential_templates.rows, template.issuerId ≠ id := by
  have kept : ∀ template ∈ (db.credential_templates.delete fun template => template.issuerId = id).rows,
      ∃ issuer ∈ db.oidc_issuer.rows, issuer.id = template.issuerId :=
    fun template there => db.issuerId_fkey template (Keyed.mem_delete.mp there).1
  refine ⟨_,dif_pos kept,rfl,fun template there => ?_⟩
  simpa using (Keyed.mem_delete.mp there).2

theorem deleteIssuerRow_ok {issuer : OidcIssuer} (found : db.oidc_issuer.find id = some issuer)
    (alone : ∀ template ∈ db.credential_templates.rows, template.issuerId ≠ id) :
    ∃ after, deleteIssuerRow db id = .ok (after,issuer) := by
  have kept : ∀ template ∈ db.credential_templates.rows,
      ∃ other ∈ (db.oidc_issuer.delete fun row => row.id = id).rows, other.id = template.issuerId := by
    intro template there
    obtain ⟨other,listed,is⟩ := db.issuerId_fkey template there
    refine ⟨other,Keyed.mem_delete.mpr ⟨listed,?_⟩,is⟩
    simpa [is] using alone template there
  refine ⟨⟨_,_,db.org_agents,db.org_agents_type,kept⟩,?_⟩
  rw [deleteIssuerRow,found]
  exact bind_ok.mpr ⟨_,dif_pos kept,rfl⟩

theorem deleteOidcIssuer_isolated {found deleted : Answer} :
    (∀ e ∈ (deleteOidcIssuer db orgId id found deleted).effects, Isolated orgId e) ↔
      Inside db configurable insensitive orgId (.deleteOidcIssuer id found deleted) := by
  unfold deleteOidcIssuer
  split
  · rename_i failure refused
    refine iff_of_true nofun fun known => ?_
    obtain ⟨agentDetails,admitted⟩ := deleteAdmitted_ok.mpr known
    cases refused.symm.trans admitted
  · rename_i agentDetails admitted
    have known := deleteAdmitted_ok.mp ⟨agentDetails,admitted⟩
    obtain ⟨issuer,there,-⟩ := known.1
    obtain ⟨emptied,done,same,alone⟩ := deleteTemplates_ok id
    obtain ⟨after,removed⟩ := deleteIssuerRow_ok (same ▸ there) alone
    have inside : Inside db configurable insensitive orgId (.deleteOidcIssuer id found deleted) ↔
        Own db orgId issuer.id := by
      rw [(Keyed.find_some.mp there).2]
      exact ⟨fun inside => inside known,fun own _ => own⟩
    have templates : ∀ e ∈ (getTemplatesByIssuerId db id).map (onTemplate db .deletes (some id)),
        Own db orgId issuer.id → Isolated orgId e := by
      rintro e listed own
      obtain ⟨template,of_,rfl⟩ := List.mem_map.mp listed
      have of_ : template.issuerId = id := of_decide_eq_true (List.mem_filter.mp of_).2
      refine isolated_deletes.mpr ⟨?_,congrArg some of_.symm⟩
      rwa [of_,← (Keyed.find_some.mp there).2]
    rw [done,inside]
    dsimp only
    rw [removed]
    dsimp only
    split
    · simp only [List.forall_mem_append,List.forall_mem_singleton,isolated_onIssuer]
      exact ⟨fun all => all.2,fun own => ⟨fun e listed => templates e listed own,own⟩⟩
    · simp only [List.forall_mem_append,List.forall_mem_cons,isolated_onIssuer]
      exact ⟨fun all => all.2.1,fun own => ⟨fun e listed => templates e listed own,own,own,nofun⟩⟩

end
section
variable {db : Database} {orgId issuerId : String} {configurable : OidcIssuer → List CredentialTemplate → Bool}
  {insensitive : String → String → Bool} {answer : Answer}

theorem createTemplateOnAgent_none : createTemplateOnAgent db configurable orgId issuerId answer = .ok none ↔
    (∃ issuer, db.oidc_issuer.find issuerId = some issuer ∧ configurable issuer (getTemplatesByIssuerId db issuerId)) ∧
      ReachableAgent db orgId ∧ answer = .nothing := by
  constructor
  · intro silent
    obtain ⟨_,built,silent⟩ := bind_ok.mp silent
    obtain ⟨agentDetails,addressed,silent⟩ := bind_ok.mp silent
    obtain ⟨_,-,silent⟩ := bind_ok.mp silent
    obtain ⟨_,url,asked⟩ := bind_ok.mp silent
    obtain ⟨issuer,there,built⟩ := bind_ok.mp built
    refine ⟨⟨issuer,getOidcIssuerDetailsById_ok.mp there,?_⟩,⟨agentDetails,addressed,url⟩,?_⟩
    · by_contra refused
      rw [if_neg refused] at built
      cases built
    · cases answer with
      | throws => cases asked
      | nothing => rfl
      | response response => cases asked
  · rintro ⟨⟨issuer,there,built⟩,⟨agentDetails,addressed,url⟩,rfl⟩
    have found := getOidcIssuerDetailsById_ok.mpr there
    refine bind_ok.mpr ⟨(),bind_ok.mpr ⟨issuer,found,if_pos built⟩,bind_ok.mpr ⟨agentDetails,addressed,?_⟩⟩
    exact bind_ok.mpr ⟨issuer,found,bind_ok.mpr ⟨(),url,rfl⟩⟩

theorem removeTemplate_ok (templateId : String) : ∃ back, removeTemplate db templateId = .ok back :=
  ⟨_,dif_pos fun template there => db.issuerId_fkey template (Keyed.mem_delete.mp there).1⟩

theorem insertTemplate_ok {template : CredentialTemplate} {after : Database}
    (stored : insertTemplate db template = .ok after) :
    db.credential_templates.find template.id = none ∧ (∃ issuer, db.oidc_issuer.find template.issuerId = some issuer) ∧
      after.oidc_issuer = db.oidc_issuer ∧ after.org_agents = db.org_agents ∧
      after.credential_templates.rows = template :: db.credential_templates.rows := by
  unfold insertTemplate at stored
  split at stored
  · cases stored
  · rename_i templates inserted
    obtain ⟨free,content⟩ := Keyed.insert_some.mp inserted
    unfold Database.store at stored
    split at stored
    · rename_i kept
      cases stored
      obtain ⟨issuer,listed,is⟩ := kept template (content ▸ List.mem_cons_self)
      exact ⟨free,⟨issuer,Keyed.find_some.mpr ⟨listed,is⟩⟩,rfl,rfl,content⟩
    · cases stored

theorem insertTemplate_stores {template : CredentialTemplate} {issuer : OidcIssuer}
    (free : db.credential_templates.find template.id = none)
    (there : db.oidc_issuer.find template.issuerId = some issuer) : ∃ after, insertTemplate db template = .ok after := by
  obtain ⟨templates,inserted⟩ := Option.ne_none_iff_exists'.mp fun none_ => Keyed.insert_none.mp none_ free
  have content := (Keyed.insert_some.mp inserted).2
  rw [insertTemplate,inserted]
  refine ⟨_,dif_pos fun row listed => ?_⟩
  rcases List.mem_cons.mp (content ▸ listed) with rfl | old
  · exact ⟨issuer,Keyed.find_some.mp there⟩
  · exact db.issuerId_fkey row old
theorem getTemplatesByIssuerId_inserted {template : CredentialTemplate} {after : Database}
    (stored : insertTemplate db template = .ok after) :
    getTemplatesByIssuerId after template.issuerId = template :: getTemplatesByIssuerId db template.issuerId := by
  rw [getTemplatesByIssuerId,(insertTemplate_ok stored).2.2.2.2,List.filter_cons_of_pos (by simp)]
  rfl

theorem createTemplate_isolated {id : String} {dto : CreateCredentialTemplate} :
    (∀ e ∈ (createTemplate db configurable insensitive id dto orgId issuerId answer).effects, Isolated orgId e) ↔
      Inside db configurable insensitive orgId (.createTemplate id dto issuerId answer) := by
  unfold createTemplate
  split
  · rename_i taken
    exact iff_of_true (by rintro _ ⟨⟩) fun stores => absurd stores.1 taken
  · rename_i free
    have free := not_not.mp free
    dsimp only
    split
    · rename_i failure refused
      refine iff_of_true (by rintro _ ⟨⟩) fun ⟨_,fresh,issuer,there⟩ => ?_
      have stores : ∃ after, insertTemplate db (dto.row id issuerId) = .ok after := insertTemplate_stores fresh there
      obtain ⟨after,stored⟩ := stores
      cases refused.symm.trans stored
    · rename_i after stored
      obtain ⟨fresh,there,issuers,agents,-⟩ := insertTemplate_ok stored
      have silent : createTemplateOnAgent after configurable orgId issuerId answer = .ok none ↔
          Unanswered db configurable orgId id dto issuerId answer := by
        rw [createTemplateOnAgent_none,show getTemplatesByIssuerId after issuerId = _ from
          getTemplatesByIssuerId_inserted stored,issuers]
        simp only [Unanswered,ReachableAgent,getAgentEndPoint,agents]
        rfl
      have inside : Inside db configurable insensitive orgId (.createTemplate id dto issuerId answer) ↔
          (createTemplateOnAgent after configurable orgId issuerId answer = .ok none ∨ Own db orgId issuerId) := by
        rw [silent]
        exact ⟨fun inside => inside ⟨free,fresh,there⟩,fun inside _ => inside⟩
      rw [inside]
      split
      · rename_i failure refused
        obtain ⟨back,removed⟩ : ∃ back, removeTemplate after (dto.row id issuerId).id = .ok back := removeTemplate_ok _
        rw [removed]
        simp only [List.forall_mem_singleton,isolated_deletes,refused]
        exact ⟨fun own => .inr own.1,fun own => ⟨own.resolve_left (by rintro ⟨⟩),rfl⟩⟩
      · rename_i answered
        exact iff_of_true (by rintro _ ⟨⟩) (.inl answered)
      · rename_i response answered
        simp only [List.forall_mem_singleton,isolated_returns,answered]
        exact ⟨.inr,fun own => own.resolve_left (by rintro ⟨⟩)⟩

variable {templateId : String}
theorem changeTemplate_ok {template : CredentialTemplate} {dto : UpdateCredentialTemplate}
    (found : db.credential_templates.find templateId = some template) :
    (∃ after, changeTemplate db templateId (dto.applied issuerId) (fun _ => rfl) = .ok after) ↔
      (issuerId = "" ∨ ∃ issuer, db.oidc_issuer.find issuerId = some issuer) := by
  constructor
  · rintro ⟨after,changed⟩
    unfold changeTemplate Database.store at changed
    split at changed
    · rename_i kept
      refine or_iff_not_imp_left.mpr fun given => ?_
      obtain ⟨listed,is⟩ := Keyed.find_some.mp found
      obtain ⟨issuer,there,same⟩ :=
          kept (dto.applied issuerId template) (Keyed.mem_change.mpr (.inr ⟨template,listed,is,rfl⟩))
      have moved : (dto.applied issuerId template).issuerId = issuerId := if_neg given
      exact ⟨issuer,Keyed.find_some.mpr ⟨there,same.trans moved⟩⟩
    · cases changed
  · intro given
    refine ⟨_,dif_pos fun row there => ?_⟩
    rcases Keyed.mem_change.mp there with ⟨old,-⟩ | ⟨old,listed,-,rfl⟩
    · exact db.issuerId_fkey row old
    · rcases given with none_ | ⟨issuer,exists_⟩
      · have stays : (dto.applied issuerId old).issuerId = old.issuerId := if_pos none_
        rw [stays]
        exact db.issuerId_fkey old listed
      · by_cases none_ : issuerId = ""
        · have stays : (dto.applied issuerId old).issuerId = old.issuerId := if_pos none_
          rw [stays]
          exact db.issuerId_fkey old listed
        · have moved : (dto.applied issuerId old).issuerId = issuerId := if_neg none_
          rw [moved]
          exact ⟨issuer,Keyed.find_some.mp exists_⟩

theorem updateTemplate_isolated {dto : UpdateCredentialTemplate} :
    (∀ e ∈ (updateTemplate db configurable insensitive templateId dto orgId issuerId answer).effects, Isolated orgId e) ↔
      Inside db configurable insensitive orgId (.updateTemplate templateId dto issuerId answer) := by
  unfold updateTemplate
  split
  · rename_i missing
    exact iff_of_true nofun fun template found => nomatch missing.symm.trans found
  · rename_i template found
    split
    · rename_i taken
      exact iff_of_true nofun fun _ _ free => nomatch free.symm.trans taken
    · rename_i free
      split
      · rename_i failure refused
        refine iff_of_true nofun fun other found' _ given => ?_
        obtain ⟨after,changed⟩ := (changeTemplate_ok found).mpr given
        cases refused.symm.trans changed
      · rename_i after changed
        have given := (changeTemplate_ok found).mp ⟨after,changed⟩
        have inside : Inside db configurable insensitive orgId (.updateTemplate templateId dto issuerId answer) ↔
            Isolated orgId (onTemplate db .writes (some issuerId) template) := by
          rw [isolated_writes,Option.some.injEq]
          constructor
          · exact fun inside => inside template found (Bool.eq_false_iff.mpr free) given
          · intro isolated other found' _ _
            obtain rfl := Option.some.inj (found.symm.trans found')
            exact isolated
        -- once the template is of the issuer that is named, it stays there
        have stays : Isolated orgId (onTemplate db .writes (some issuerId) template) →
            Own db orgId (dto.applied issuerId template).issuerId ∧
            issuerId = (dto.applied issuerId template).issuerId := by
          intro isolated
          obtain ⟨own,named⟩ := isolated_writes.mp isolated
          have same : (dto.applied issuerId template).issuerId = template.issuerId := by
            simp [UpdateCredentialTemplate.applied,Option.some.inj named]
          exact ⟨same ▸ own,same ▸ Option.some.inj named⟩
        rw [inside]
        dsimp only
        split
        · split
          · simp only [List.forall_mem_singleton]
          · simp only [List.forall_mem_cons,isolated_writes,Option.some.injEq]
            refine ⟨fun all => all.1,fun isolated => ⟨isolated,?_,nofun⟩⟩
            exact stays (isolated_writes.mpr ⟨isolated.1,congrArg some isolated.2⟩)
        · simp only [List.forall_mem_cons]
          exact ⟨fun all => all.1,fun isolated => ⟨isolated,isolated_returns.mpr (stays isolated).1,nofun⟩⟩

theorem deleteTemplate_isolated :
    (∀ e ∈ (deleteTemplate db configurable templateId orgId issuerId answer).effects, Isolated orgId e) ↔
      Inside db configurable insensitive orgId (.deleteTemplate templateId issuerId answer) := by
  unfold deleteTemplate
  split
  · rename_i missing
    exact iff_of_true nofun fun template found => nomatch missing.symm.trans found
  · rename_i template found
    obtain ⟨after,removed⟩ : ∃ after, removeTemplate db templateId = .ok after := removeTemplate_ok _
    have inside : Inside db configurable insensitive orgId (.deleteTemplate templateId issuerId answer) ↔
        Isolated orgId (onTemplate db .deletes (some issuerId) template) := by
      rw [isolated_deletes,Option.some.injEq]
      refine ⟨fun inside => inside template found,fun isolated other found' => ?_⟩
      obtain rfl := Option.some.inj (found.symm.trans found')
      exact isolated
    rw [removed,inside]
    dsimp only
    split
    · simp only [List.forall_mem_singleton]
    · simp only [List.forall_mem_singleton]
    · simp only [List.forall_mem_cons]
      exact ⟨fun all => all.1,fun isolated => ⟨isolated,isolated_returns.mpr isolated.own,nofun⟩⟩

theorem findByIdTemplate_isolated :
    (∀ e ∈ (findByIdTemplate db templateId orgId).effects, Isolated orgId e) ↔
      Inside db configurable insensitive orgId (.findByIdTemplate templateId) := by
  unfold findByIdTemplate
  split
  · rename_i empty
    exact iff_of_true nofun fun org template => (empty.elim org template).elim
  · rename_i given
    obtain ⟨org,id⟩ := not_or.mp given
    split
    · rename_i missing
      exact iff_of_true nofun fun _ _ template found => nomatch missing.symm.trans found
    · rename_i template found
      simp only [List.forall_mem_singleton,isolated_returns]
      refine ⟨fun own _ _ other found' => ?_,fun inside => inside org id template found⟩
      obtain rfl := Option.some.inj (found.symm.trans found')
      exact own

theorem findAllTemplate_isolated :
    (∀ e ∈ (findAllTemplate db orgId issuerId).effects, Isolated orgId e) ↔
      Inside db configurable insensitive orgId (.findAllTemplate issuerId) := by
  unfold findAllTemplate
  split
  · rename_i empty
    exact iff_of_true nofun fun org issuer => (empty.elim org issuer).elim
  · rename_i given
    obtain ⟨org,issuer⟩ := not_or.mp given
    simp only [List.forall_mem_map,isolated_returns,getTemplatesByIssuerId,List.mem_filter,decide_eq_true_eq]
    constructor
    · rintro each - - ⟨template,there,rfl⟩
      exact each template ⟨there,rfl⟩
    · rintro inside template ⟨there,rfl⟩
      exact inside org issuer ⟨template,there,rfl⟩

theorem getAgentEndpoint_ok : getAgentEndpoint db orgId = .ok () ↔
    ∃ agentDetails, getAgentEndPoint db orgId = .ok agentDetails ∧ trim (agentDetails.agentEndPoint.getD "") ≠ "" := by
  refine bind_ok.trans (exists_congr fun agentDetails => and_congr_right fun _ => ?_)
  split
  · rename_i blank
    exact ⟨nofun,fun other => absurd blank other⟩
  · rename_i filled
    exact ⟨fun _ => filled,fun _ => rfl⟩

variable {offer : CreateOidcCredentialOffer}
theorem sendOffer_ok {steps : OfferSteps} {response : Option Response} :
    sendOffer db offer orgId issuerId steps = .ok response ↔
      (∃ issuer, db.oidc_issuer.find issuerId = some issuer) ∧ missingTemplateIds db offer issuerId = [] ∧ steps.built ∧
      (∃ agentDetails, getAgentEndPoint db orgId = .ok agentDetails ∧ trim (agentDetails.agentEndPoint.getD "") ≠ "") ∧
      natsCall steps.answer = .ok response := by
  constructor
  · intro sent
    obtain ⟨_,-,sent⟩ := bind_ok.mp sent
    obtain ⟨issuer,there,sent⟩ := bind_ok.mp sent
    split at sent
    · cases sent
    · rename_i all
      split at sent
      · rename_i built
        obtain ⟨_,addressed,asked⟩ := bind_ok.mp sent
        exact ⟨⟨issuer,getOidcIssuerDetailsById_ok.mp there⟩,not_not.mp all,built,getAgentEndpoint_ok.mp addressed,asked⟩
      · cases sent
  · rintro ⟨⟨issuer,there⟩,all,built,⟨agentDetails,addressed,filled⟩,asked⟩
    refine bind_ok.mpr ⟨agentDetails,addressed,bind_ok.mpr ⟨issuer,getOidcIssuerDetailsById_ok.mpr there,?_⟩⟩
    rw [if_neg (not_not.mpr all),if_pos built]
    exact bind_ok.mpr ⟨(),getAgentEndpoint_ok.mpr ⟨agentDetails,addressed,filled⟩,asked⟩

theorem noticed_issuer {template : CredentialTemplate}
    (all : missingTemplateIds db offer issuerId = []) (notice : noticed db offer = some template) :
    template.issuerId = issuerId := by
  unfold noticed at notice
  split at notice
  · rename_i templateId ids
    obtain ⟨found,-⟩ := Option.filter_eq_some_iff.mp notice
    have offered : templateId ∈ offer.credentials := by
      have listed : templateId ∈ extractTemplateIds offer := by simp [ids]
      exact (List.mem_filter.mp listed).1
    have known := List.filter_eq_nil_iff.mp all templateId offered
    simp only [Bool.not_eq_true',Bool.not_eq_false,List.any_eq_true,decide_eq_true_eq] at known
    obtain ⟨other,of_,is⟩ := known
    obtain ⟨there,-,issuer⟩ : other ∈ db.credential_templates.rows ∧ other.id ∈ extractTemplateIds offer ∧
        other.issuerId = issuerId := by
      simpa [getTemplateByIds] using of_
    obtain ⟨listed,same⟩ := Keyed.find_some.mp found
    rwa [db.credential_templates.eq_of_key listed there (same.trans is.symm)]
  · cases notice

theorem createOidcCredentialOffer_isolated {steps : OfferSteps} :
    (∀ e ∈ (createOidcCredentialOffer db offer orgId issuerId steps).effects, Isolated orgId e) ↔
      Inside db configurable insensitive orgId (.createOidcCredentialOffer offer issuerId steps) := by
  -- without an object in the answer nothing is given back
  have silent {result : Except Failure (Option Response)} (sent : sendOffer db offer orgId issuerId steps = result)
      (other : ∀ statusCode id, result ≠ .ok (some (.object statusCode id))) :
      Inside db configurable insensitive orgId (.createOidcCredentialOffer offer issuerId steps) := by
    rintro ⟨there,all,built,agent,⟨statusCode,id,answered⟩,-⟩ -
    refine absurd (sent.symm.trans (sendOffer_ok.mpr ⟨there,all,built,agent,?_⟩)) (other statusCode id)
    rw [answered]
    rfl
  unfold createOidcCredentialOffer
  split
  · rename_i failure sent
    exact iff_of_true nofun (silent sent nofun)
  · rename_i sent
    exact iff_of_true nofun (silent sent nofun)
  · rename_i sent
    exact iff_of_true nofun (silent sent nofun)
  · rename_i id sent
    split <;> exact iff_of_true nofun (silent sent nofun)
  · rename_i statusCode id sent
    obtain ⟨there,all,built,agent,asked⟩ := sendOffer_ok.mp sent
    split
    · rename_i saved
      have answered : steps.answer = .response (.object statusCode id) := by
        cases same : steps.answer <;> simp_all [natsCall]
      simp only [List.forall_mem_map,isolated_returns,Option.mem_toList]
      constructor
      · intro each _ some_
        obtain ⟨template,notice⟩ := Option.isSome_iff_exists.mp some_
        exact noticed_issuer all notice ▸ each template notice
      · intro inside template notice
        rw [noticed_issuer all notice]
        exact inside ⟨there,all,built,agent,⟨statusCode,id,answered⟩,saved⟩ (by rw [notice]; rfl)
    · rename_i lost
      exact iff_of_true nofun fun offered => absurd offered.2.2.2.2.2 lost

end
section
variable (configurable : OidcIssuer → List CredentialTemplate → Bool) (insensitive : String → String → Bool)
  (orgId : String)

theorem step_total (s : State) (call : Call) : (step configurable insensitive orgId s call).isSome := by
  cases call <;> rfl
theorem after_isolated {α : Type} {s : State} {outcome : Outcome α} (isolated : ∀ e ∈ s.effects, Isolated orgId e) :
    (∀ e ∈ (s.after outcome).effects, Isolated orgId e) ↔ ∀ e ∈ outcome.effects, Isolated orgId e := by
  simp only [State.after,List.forall_mem_append]
  exact ⟨fun both => both.2,fun own => ⟨isolated,own⟩⟩

/-- A call touches nothing of another organisation's exactly under its condition. -/
theorem step_isolated {s next : State} {call : Call} (isolated : ∀ e ∈ s.effects, Isolated orgId e)
    (taken : step configurable insensitive orgId s call = some next) :
    (∀ e ∈ next.effects, Isolated orgId e) ↔ Inside s.db configurable insensitive orgId call := by
  cases call <;> obtain rfl := Option.some.inj taken
  case oidcIssuerUpdate => exact (after_isolated orgId isolated).trans oidcIssuerUpdate_isolated
  case deleteOidcIssuer => exact (after_isolated orgId isolated).trans deleteOidcIssuer_isolated
  case createTemplate => exact (after_isolated orgId isolated).trans createTemplate_isolated
  case updateTemplate => exact (after_isolated orgId isolated).trans updateTemplate_isolated
  case deleteTemplate => exact (after_isolated orgId isolated).trans deleteTemplate_isolated
  case findByIdTemplate => exact (after_isolated orgId isolated).trans findByIdTemplate_isolated
  case findAllTemplate => exact (after_isolated orgId isolated).trans findAllTemplate_isolated
  case createOidcCredentialOffer => exact (after_isolated orgId isolated).trans createOidcCredentialOffer_isolated
  case elsewhere => exact iff_of_true isolated trivial

/-- The calls of an organisation touch no row of another one exactly when every call is for own ones. -/
theorem issuance_isolated_iff (db : Database) (calls : List Call) :
    (∀ first rest s, calls = first ++ rest → run (step configurable insensitive orgId) ⟨db,[]⟩ first = some s →
      ∀ e ∈ s.effects, Isolated orgId e) ↔
    Along (step configurable insensitive orgId) (fun s call => Inside s.db configurable insensitive orgId call)
      ⟨db,[]⟩ calls := by
  obtain ⟨last,reached⟩ := run_total (step_total configurable insensitive orgId) ⟨db,[]⟩ calls
  exact always_iff_along (fun _ _ _ => step_isolated configurable insensitive orgId) nofun reached

end

/-- An issuer of each of two organisations, and a template of the second one. -/
def twoIssuers : Database where
  oidc_issuer := ⟨[⟨"ours","user","our-issuer","[]","https://auth","agent-A",0,some "A",true⟩,
    ⟨"theirs","other","their-issuer","[]","https://auth","agent-B",0,some "B",true⟩],by decide⟩
  credential_templates := ⟨[⟨"license","License",none,"mso_mdoc",false,"\x7b\x7d","\x7b\x7d","theirs",none,.X509_P256⟩],
    by decide⟩
  org_agents := ⟨[⟨"agent-A",some "A",some "https://agent",some "shared"⟩,
    ⟨"agent-B",some "B",some "https://agent",some "shared"⟩],by decide⟩
  org_agents_type := IssuerTemplates.oneIssuer.org_agents_type
  issuerId_fkey := by decide

/-- The template of the second organisation is deleted under the issuer of the first one. -/
theorem template_of_other_deleted : ∃ s,
    run (step (fun _ _ => true) (fun stored given => stored == given) "A") ⟨twoIssuers,[]⟩
      [.deleteTemplate "license" "ours" .nothing] = some s ∧
    s.db.credential_templates.rows = [] ∧ ∃ e ∈ s.effects, e.deed = .deletes ∧ ¬Isolated "A" e := by
  refine ⟨_,rfl,by decide,_,List.mem_singleton.mpr rfl,rfl,fun isolated => ?_⟩
  exact absurd (isolated.own "B" (by decide)) (by decide)

end Ngotag.IssuerIsolation
